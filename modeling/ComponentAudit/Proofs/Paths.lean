import ComponentAudit.Proofs.Decoding
import ComponentAudit.Proofs.Trees

/-!
# Paths below a root

The walk names an entry by its root and the names on the way to it, one after the other. That is the path of the names put
together, seen from the root (`Path.foldl_div`), it ends in the last of the names (`Path.fileName?_div`), and different names
give different paths (`Path.div_inj`, `Text.join_inj`).
-/

namespace ComponentAudit

/-! ## Parts of a text -/

namespace Text

variable {α : Type} [DecidableEq α] {separator : α}

/-- Parts without separators, put together, fall into the same parts again. -/
theorem split_join {parts : List (List α)} (hne : parts ≠ []) (h : ∀ part ∈ parts, separator ∉ part) :
    split separator (join separator parts) = parts := by
  induction parts with
  | nil => exact absurd rfl hne
  | cons part others ih =>
    have hpart := split_of_not_mem (h part (List.mem_cons_self ..))
    cases others with
    | nil => rw [join, hpart]
    | cons other others =>
      rw [join_cons separator part (List.cons_ne_nil _ _), split_append_cons, hpart,
        ih (List.cons_ne_nil _ _) fun x hx => h x (List.mem_cons_of_mem _ hx), List.singleton_append]

/-- Parts without separators are known from the text that they make. -/
theorem join_inj {parts parts' : List (List α)} (hne : parts ≠ []) (hne' : parts' ≠ [])
    (h : ∀ part ∈ parts, separator ∉ part) (h' : ∀ part ∈ parts', separator ∉ part)
    (hjoin : join separator parts = join separator parts') : parts = parts' := by
  rw [← split_join hne h, hjoin, split_join hne' h']

end Text

open Text

namespace Path

/-! ## Joining -/

/-- What stands before a relative path that is seen from a directory. -/
def lead (p : Path) : List UInt8 :=
  if p.bytes = [] ∨ p.bytes.getLast? = some slash then p.bytes else p.bytes ++ [slash]

/-- A relative path follows a slash, unless nothing is before it. -/
theorem lead_cases (p : Path) : p.lead = [] ∨ ∃ before, p.lead = before ++ [slash] := by
  unfold lead
  split
  · rename_i h
    rcases h with hempty | hlast
    · exact Or.inl hempty
    · exact Or.inr ⟨_, (List.dropLast_append_getLast? slash hlast).symm⟩
  · exact Or.inr ⟨_, rfl⟩

theorem bytes_div {p q : Path} (h : q.isAbsolute = false) : (p / q).bytes = p.lead ++ q.bytes := by
  show (p.append q).bytes = _
  rw [append, if_neg (by simp [h]), lead]
  split
  · rfl
  · rw [List.append_assoc, List.singleton_append]

/-- Different relative paths stay different when they are seen from a directory. -/
theorem div_inj {p q q' : Path} (h : q.isAbsolute = false) (h' : q'.isAbsolute = false) (hdiv : p / q = p / q') : q = q' := by
  have hbytes : p.lead ++ q.bytes = p.lead ++ q'.bytes := by rw [← bytes_div h, hdiv, bytes_div h']
  exact congrArg mk (List.append_cancel_left hbytes)

theorem isAbsolute_of_head? {p : Path} (h : p.bytes.head? ≠ some slash) : p.isAbsolute = false := by
  rw [isAbsolute]
  simpa using h

/-- The path of a name is relative. -/
theorem isAbsolute_name {name : EntryName} (h : ValidName name) : (mk name).isAbsolute = false :=
  isAbsolute_of_head? fun hhead => h.noSlash (List.mem_of_mem_head? hhead)

/-- A path seen from a directory's entry follows the name of the entry and a slash. -/
theorem lead_div_name (p : Path) {name : EntryName} (h : ValidName name) : (p / mk name).lead = p.lead ++ name ++ [slash] := by
  have hbytes : (p / mk name).bytes = p.lead ++ name := bytes_div (isAbsolute_name h)
  rw [lead, hbytes, if_neg ?_]
  rintro (hempty | hlast)
  · exact List.append_ne_nil_of_right_ne_nil _ h.nonempty hempty
  · rw [List.getLast?_append_of_ne_nil _ h.nonempty] at hlast
    exact h.noSlash (List.mem_of_getLast? hlast)

/-- The path of some names is relative. -/
theorem isAbsolute_ofParts {names : List EntryName} (hne : names ≠ []) (h : ∀ name ∈ names, ValidName name) :
    (ofParts names).isAbsolute = false := by
  obtain ⟨name, rest, rfl⟩ := List.exists_cons_of_ne_nil hne
  have hname := h name (List.mem_cons_self ..)
  obtain ⟨b, tail, rfl⟩ := List.exists_cons_of_ne_nil hname.nonempty
  have hb : b ≠ slash := fun hb => hname.noSlash (hb ▸ List.mem_cons_self ..)
  refine isAbsolute_of_head? ?_
  cases rest with
  | nil => simpa [ofParts, join] using hb
  | cons next rest => simpa [ofParts, join] using hb

theorem bytes_foldl_div (p : Path) {names : List EntryName} (hne : names ≠ []) (h : ∀ name ∈ names, ValidName name) :
    (names.foldl (fun p name => p / mk name) p).bytes = p.lead ++ join slash names := by
  induction names generalizing p with
  | nil => exact absurd rfl hne
  | cons name rest ih =>
    have hname := h name (List.mem_cons_self ..)
    rw [List.foldl_cons]
    cases rest with
    | nil => rw [List.foldl_nil, bytes_div (isAbsolute_name hname), join]
    | cons next rest =>
      rw [ih _ (List.cons_ne_nil _ _) fun x hx => h x (List.mem_cons_of_mem _ hx), lead_div_name p hname,
        join_cons slash name (List.cons_ne_nil _ _)]
      simp only [List.append_assoc, List.singleton_append]

/-- Names one after the other are the path of the names. -/
theorem foldl_div (p : Path) {names : List EntryName} (hne : names ≠ []) (h : ∀ name ∈ names, ValidName name) :
    names.foldl (fun p name => p / mk name) p = p / ofParts names := by
  have hbytes : (names.foldl (fun p name => p / mk name) p).bytes = (p / ofParts names).bytes := by
    rw [bytes_foldl_div p hne h, bytes_div (isAbsolute_ofParts hne h), ofParts]
  exact congrArg mk hbytes

/-! ## Paths that are text -/

/-- A path that is UTF-8 is that of its text. -/
theorem mk_text {p : Path} (h : p.isText = true) : mk p.text = p := by
  obtain ⟨content, hcontent⟩ := Option.isSome_iff_exists.1 h
  obtain rfl : ⟨utf8 content⟩ = p := congrArg mk (Utf8.decode?_eq_some_iff.1 hcontent)
  rw [text, lossy, Utf8.decodeLossy_utf8, String.toList_ofList]

theorem text_mk (s : String) : (mk s).text = s := by
  rw [text, lossy, Utf8.decodeLossy_utf8, String.ofList_toList]

theorem isText_mk (s : String) : (mk s).isText = true :=
  Option.isSome_iff_exists.2 ⟨s.toList, Utf8.decode?_eq_some_iff.2 rfl⟩

/-- Paths that are UTF-8 are known from their texts. -/
theorem text_inj {p q : Path} (hp : p.isText = true) (hq : q.isText = true) (h : p.text = q.text) : p = q := by
  rw [← mk_text hp, ← mk_text hq, h]

/-! ## File names -/

theorem component?_name {name : EntryName} (h : ValidName name) : component? name = some (.name name) := by
  rw [component?, if_neg (by simp [h.nonempty, h.notHere]), if_neg h.notParent]

/-- A last part that is a name is not taken for what a path opens with. -/
theorem opening_of_parts {p : Path} {before : List EntryName} {name : EntryName} (h : ValidName name)
    (hparts : p.parts = before ++ [name]) : ∃ others, p.opening.2 = others ++ [name] := by
  -- What a path opens with is one part in front of the others, and the last part is such a part only if it is empty or a dot.
  have behind : ∀ {part : EntryName} {rest : List EntryName}, name ≠ part → before ++ [name] = part :: rest →
      ∃ others, rest = others ++ [name] := by
    intro part rest hpart heq
    cases before with
    | nil => exact absurd (List.cons.inj heq).1 hpart
    | cons _ others => exact ⟨others, (List.cons.inj heq).2.symm⟩
  unfold opening
  rw [hparts]
  split
  next heq => exact absurd heq (List.append_ne_nil_of_right_ne_nil _ (List.cons_ne_nil _ _))
  next heq =>
    obtain ⟨others, hothers⟩ := behind h.nonempty heq
    exact absurd hothers.symm (List.append_ne_nil_of_right_ne_nil _ (List.cons_ne_nil _ _))
  next heq => exact behind h.nonempty heq
  next heq =>
    split
    · rename_i hpart
      exact behind (hpart ▸ h.notHere) heq
    · exact ⟨before, heq.symm⟩

/-- A path whose last part is a name ends in that name. -/
theorem fileName?_of_parts {p : Path} {before : List EntryName} {name : EntryName} (h : ValidName name)
    (hparts : p.parts = before ++ [name]) : p.fileName? = some name := by
  obtain ⟨others, hothers⟩ := opening_of_parts h hparts
  have hcomponents : p.components = p.opening.1.toList ++ others.filterMap component? ++ [.name name] := by
    show p.opening.1.toList ++ p.opening.2.filterMap component? = _
    rw [hothers, List.filterMap_append, List.filterMap_cons_some (component?_name h), List.filterMap_nil,
      List.append_assoc]
  rw [fileName?, hcomponents, List.getLast?_concat]

/-- A path ends in the name that it was joined with. -/
theorem fileName?_div (p : Path) {name : EntryName} (h : ValidName name) : (p / mk name).fileName? = some name := by
  have hparts : (p / mk name).parts = split slash (p.lead ++ name) := by
    rw [parts, bytes_div (isAbsolute_name h)]
  rcases p.lead_cases with hlead | ⟨before, hlead⟩
  · rw [hlead, List.nil_append, split_of_not_mem h.noSlash] at hparts
    exact fileName?_of_parts h (hparts.trans (List.nil_append _).symm)
  · rw [hlead, List.append_assoc, List.singleton_append, split_append_cons, split_of_not_mem h.noSlash] at hparts
    exact fileName?_of_parts h hparts

/-! ## What is left after some components -/

variable {p : Path} {names : List EntryName} {part : EntryName} {rest : List EntryName}

/-- Only an empty part and a dot say nothing. -/
theorem component?_ne_none (hempty : part ≠ []) (hdot : part ≠ [dot]) : component? part ≠ none := by
  rw [component?, if_neg (by simp [hempty, hdot])]
  split
  · nofun
  · nofun

theorem filterMap_component? (h : ∀ name ∈ names, ValidName name) : names.filterMap component? = names.map .name := by
  rw [← List.filterMap_eq_map]
  exact List.filterMap_congr fun name hname => component?_name (h name hname)

theorem dropWhile_names (h : ∀ name ∈ names, ValidName name) :
    names.dropWhile (fun part => component? part = none) = names := by
  rw [List.dropWhile_eq_self_iff]
  intro hlength
  simp [component?_name (h _ (List.getElem_mem hlength))]

/-- Where names are left, nothing after them is dropped. -/
theorem dropTrailing_names (h : ∀ name ∈ names, ValidName name) : dropTrailing names = names := by
  rw [dropTrailing, dropWhile_names fun name hname => h name (List.mem_reverse.1 hname), List.reverse_reverse]

/-- A part that says nothing is passed over, however many are counted. -/
theorem partsAfter_cons (h : component? part = none) (n : Nat) : partsAfter n (part :: rest) = partsAfter n rest := by
  cases n with
  | zero => rw [partsAfter, partsAfter, List.dropWhile_cons_of_pos (by simp [h])]
  | succ n => rw [partsAfter, if_pos h]

/-- After as many components as some parts have, what follows the parts is left. -/
theorem partsAfter_append (h : ∀ name ∈ names, ValidName name) (parts : List EntryName) :
    partsAfter (parts.filterMap component?).length (parts ++ names) = names := by
  induction parts with
  | nil =>
    rw [List.filterMap_nil, List.length_nil, List.nil_append, partsAfter, dropWhile_names h, dropTrailing_names h]
  | cons part rest ih =>
    rw [List.cons_append]
    cases hpart : component? part with
    | none => rw [List.filterMap_cons_none hpart, partsAfter_cons hpart, ih]
    | some c => rw [List.filterMap_cons_some hpart, List.length_cons, partsAfter, if_neg (by simp [hpart]), ih]

/-! ## What a path opens with -/

theorem opening_root (h : p.parts = [] :: rest) (hrest : rest ≠ []) : p.opening = (some .root, rest) := by
  obtain ⟨part, others, rfl⟩ := List.exists_cons_of_ne_nil hrest
  rw [opening, h]

theorem opening_here (h : p.parts = [dot] :: rest) : p.opening = (some .here, rest) := by
  rw [opening, h]
  rfl

theorem opening_other (h : p.parts = part :: rest) (hempty : part ≠ []) (hdot : part ≠ [dot]) :
    p.opening = (none, part :: rest) := by
  rw [opening, h]
  split
  next heq => cases heq
  next heq => exact absurd (List.cons.inj heq).1 hempty
  next heq => exact absurd (List.cons.inj heq).1 hempty
  next heq =>
    obtain ⟨rfl, rfl⟩ := List.cons.inj heq
    rw [if_neg hdot]

/-- The parts of a path below another one: those of the other one, without the empty part that a slash leaves at its end,
and then the names. -/
theorem parts_div (p : Path) (hne : names ≠ []) (h : ∀ name ∈ names, ValidName name) :
    ∃ before after, p.parts = before ++ after ∧ (p / ofParts names).parts = before ++ names ∧
      (after = [[]] ∨ after = [] ∧ before ≠ [] ∧ before ≠ [[]]) := by
  have hsplit : split slash (ofParts names).bytes = names := split_join hne fun name hname => (h name hname).noSlash
  rw [parts, parts, bytes_div (isAbsolute_ofParts hne h), lead]
  split
  next hlead =>
    rcases hlead with hempty | hlast
    · rw [hempty, List.nil_append, hsplit]
      exact ⟨[], [[]], rfl, rfl, Or.inl rfl⟩
    · have hbytes := List.dropLast_append_getLast? slash hlast
      rw [← hbytes, split_append_cons, List.append_assoc, List.singleton_append, split_append_cons, hsplit]
      exact ⟨_, [[]], rfl, rfl, Or.inl rfl⟩
  next hlead =>
    rw [List.append_assoc, List.singleton_append, split_append_cons, hsplit]
    refine ⟨_, [], (List.append_nil _).symm, rfl, Or.inr ⟨rfl, split_ne_nil _ _, fun hparts => hlead (Or.inl ?_)⟩⟩
    have hbytes := join_split slash p.bytes
    rwa [hparts, join, eq_comm] at hbytes

/-- A path opens like the ones below it, and what else it says comes before their names. -/
theorem opening_div (p : Path) (hne : names ≠ []) (h : ∀ name ∈ names, ValidName name) :
    ∃ first before after, p.opening = (first, before ++ after) ∧ after.filterMap component? = [] ∧
      (p / ofParts names).opening = (first, before ++ names) ∧
      (first = none → before.filterMap component? = [] → before = []) := by
  obtain ⟨before, after, hp, hdiv, hafter⟩ := parts_div p hne h
  have hnothing : after.filterMap component? = [] := by
    rcases hafter with rfl | ⟨rfl, -⟩
    · rfl
    · rfl
  cases before with
  | nil =>
    obtain rfl : after = [[]] := hafter.resolve_right fun hafter => hafter.2.1 rfl
    obtain ⟨name, rest, rfl⟩ := List.exists_cons_of_ne_nil hne
    have hname := h name (List.mem_cons_self ..)
    refine ⟨none, [], [], ?_, rfl, opening_other hdiv hname.nonempty hname.notHere, fun _ _ => rfl⟩
    rw [opening, hp]
    rfl
  | cons part rest =>
    by_cases hempty : part = []
    · subst hempty
      have hrest : rest ++ after ≠ [] := by
        rcases hafter with rfl | ⟨rfl, -, hnot⟩
        · exact List.concat_ne_nil _ _
        · exact fun hrest => hnot (congrArg _ (List.append_eq_nil_iff.1 hrest).1)
      exact ⟨some .root, rest, after, opening_root hp hrest, hnothing,
        opening_root hdiv (List.append_ne_nil_of_right_ne_nil _ hne), nofun⟩
    · by_cases hdot : part = [dot]
      · subst hdot
        exact ⟨some .here, rest, after, opening_here hp, hnothing, opening_here hdiv, nofun⟩
      · refine ⟨none, part :: rest, after, opening_other hp hempty hdot, hnothing, opening_other hdiv hempty hdot, ?_⟩
        intro _ hsilent
        obtain ⟨c, hc⟩ := Option.ne_none_iff_exists'.1 (component?_ne_none hempty hdot)
        rw [List.filterMap_cons_some hc] at hsilent
        cases hsilent

theorem components_of_opening {first : Option Component} (h : p.opening = (first, rest)) :
    p.components = first.toList ++ rest.filterMap component? := by
  unfold components
  rw [h]

theorem dropComponents_of_opening {c : Component} (h : p.opening = (some c, rest)) (n : Nat) :
    p.dropComponents (n + 1) = ofParts (partsAfter n rest) := by
  unfold dropComponents
  rw [h]

/-- The same for a path that opens with a name, or with two dots. -/
theorem dropComponents_of_opening_none (h : p.opening = (none, rest)) (n : Nat) :
    p.dropComponents n = ofParts (if n = 0 then dropTrailing rest else partsAfter n rest) := by
  unfold dropComponents
  rw [h]
  cases n with
  | zero => rfl
  | succ n => rfl

/-- What a path is below another one is the path that it was joined with. -/
theorem relativeTo_div (p : Path) (hne : names ≠ []) (h : ∀ name ∈ names, ValidName name) :
    (p / ofParts names).relativeTo p = ofParts names := by
  obtain ⟨first, before, after, hp, hafter, hdiv, hsilent⟩ := opening_div p hne h
  have hcomponents : p.components = first.toList ++ before.filterMap component? := by
    rw [components_of_opening hp, List.filterMap_append, hafter, List.append_nil]
  have hbelow : (p / ofParts names).components = p.components ++ names.map .name := by
    rw [hcomponents, components_of_opening hdiv, List.filterMap_append, filterMap_component? h, List.append_assoc]
  have hprefix : p.components.isPrefixOf (p / ofParts names).components = true :=
    List.isPrefixOf_iff_prefix.2 ⟨_, hbelow.symm⟩
  rw [relativeTo, stripPrefix?, if_pos hprefix, Option.getD_some, hcomponents, List.length_append]
  have hleft : partsAfter (before.filterMap component?).length (before ++ names) = names := partsAfter_append h before
  cases first with
  | none =>
    rw [Option.toList_none, List.length_nil, Nat.zero_add, dropComponents_of_opening_none hdiv]
    split
    · rename_i hzero
      rw [hsilent rfl (List.length_eq_zero_iff.1 hzero), List.nil_append, dropTrailing_names h]
    · rw [hleft]
  | some c => rw [Option.toList_some, List.length_singleton, Nat.add_comm, dropComponents_of_opening hdiv, hleft]

/-- Where the parts say nothing, none is left. -/
theorem dropTrailing_of_silent (h : rest.filterMap component? = []) : dropTrailing rest = [] := by
  rw [List.filterMap_eq_nil_iff] at h
  rw [dropTrailing, List.reverse_eq_nil_iff, List.dropWhile_eq_nil_iff]
  intro part hpart
  exact decide_eq_true (h part (List.mem_reverse.1 hpart))

/-- Nothing is left of a path below itself. -/
theorem relativeTo_self (p : Path) : p.relativeTo p = ⟨[]⟩ := by
  have hprefix : p.components.isPrefixOf p.components = true := List.isPrefixOf_iff_prefix.2 (List.prefix_refl _)
  obtain ⟨first, rest, hopening⟩ : ∃ first rest, p.opening = (first, rest) := ⟨_, _, rfl⟩
  rw [relativeTo, stripPrefix?, if_pos hprefix, Option.getD_some, components_of_opening hopening, List.length_append]
  have hleft : partsAfter (rest.filterMap component?).length rest = [] := by
    have happend := @partsAfter_append [] nofun rest
    rwa [List.append_nil] at happend
  cases first with
  | none =>
    rw [Option.toList_none, List.length_nil, Nat.zero_add, dropComponents_of_opening_none hopening]
    split
    · rename_i hzero
      rw [dropTrailing_of_silent (List.length_eq_zero_iff.1 hzero)]
      rfl
    · rw [hleft]
      rfl
  | some c =>
    rw [Option.toList_some, List.length_singleton, Nat.add_comm, dropComponents_of_opening hopening, hleft]
    rfl

end Path

end ComponentAudit
