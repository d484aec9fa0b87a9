import Mathlib.Data.List.DropRight
import Mathlib.Data.List.Nodup
import ComponentAudit.Text.Position

/-!
# Where the lines of a text are

Offsets are counted in bytes, lines in line feeds and columns in characters, each in a way of its own. All three say the
same: the offset of what comes before a place finds that text again (`takeBytes?_byteLength`), whose line feeds and last
characters are line and column of the place (`line_advance`, `column_advance_start`), and the numbered lines stand where
their offsets and numbers say (`Line.standsIn_of_mem`). No two places of a text have the same line and column
(`eq_of_advance`), and what stands in the text stands in the line of its number (`Line.StandsIn.holds`). A text is found in
another one where it stands in it (`contains_iff`).
-/

namespace ComponentAudit.Text

/-! ## Bytes -/

theorem byteLength_cons (c : Char) (s : List Char) : byteLength (c :: s) = c.utf8Size + byteLength s := rfl

@[simp] theorem byteLength_append (s t : List Char) : byteLength (s ++ t) = byteLength s + byteLength t := by
  induction s with
  | nil => exact (Nat.zero_add _).symm
  | cons c s ih => rw [List.cons_append, byteLength_cons, byteLength_cons, ih, Nat.add_assoc]

/-- The bytes of a text without those of its first character are those of the rest. -/
theorem exists_byteLength_cons (c : Char) (s : List Char) :
    ∃ n, byteLength (c :: s) = n + 1 ∧ c.utf8Size ≤ n + 1 ∧ n + 1 - c.utf8Size = byteLength s := by
  have hpos : 0 < c.utf8Size := Char.utf8Size_pos c
  obtain ⟨n, hn⟩ : ∃ n, byteLength (c :: s) = n + 1 :=
    Nat.exists_eq_add_one.2 (Nat.lt_of_lt_of_le hpos (Nat.le_add_right _ _))
  refine ⟨n, hn, hn ▸ Nat.le_add_right _ _, ?_⟩
  rw [← hn, byteLength_cons, Nat.add_sub_cancel_left]

/-- The bytes of the first part of a text are that part. -/
theorem takeBytes?_byteLength (before after : List Char) :
    takeBytes? (byteLength before) (before ++ after) = some before := by
  induction before with
  | nil => rw [byteLength, List.foldr_nil, takeBytes?]
  | cons c before ih =>
    obtain ⟨n, hn, hsize, hrest⟩ := exists_byteLength_cons c before
    rw [hn, List.cons_append, takeBytes?, if_pos hsize, hrest, ih, Option.map_some]

/-! ## Positions -/

theorem advance_concat (p : Position) (s : List Char) (c : Char) : p.advance (s ++ [c]) = (p.advance s).next c := by
  rw [Position.advance, List.foldl_append]
  rfl

/-- The line after a text: every line feed opens another one. -/
theorem line_advance (p : Position) (s : List Char) : (p.advance s).line = p.line + s.count '\n' := by
  induction s using List.reverseRecOn with
  | nil => rfl
  | append_singleton s c ih =>
    rw [advance_concat, Position.next, List.count_append]
    by_cases hc : c = '\n'
    · rw [if_pos hc, hc, List.count_singleton_self]
      simp only [ih, Nat.add_assoc]
    · rw [if_neg hc, List.count_singleton, if_neg (by simpa using hc)]
      exact ih

/-- The column after a text: the characters after its last line feed, and one. -/
theorem column_advance_start (s : List Char) :
    (Position.start.advance s).column = (s.rtakeWhile (· ≠ '\n')).length + 1 := by
  induction s using List.reverseRecOn with
  | nil => rfl
  | append_singleton s c ih =>
    rw [advance_concat, Position.next]
    by_cases hc : c = '\n'
    · rw [if_pos hc, List.rtakeWhile_concat_neg _ _ _ (by simpa using hc)]
      rfl
    · rw [if_neg hc, List.rtakeWhile_concat_pos _ _ _ (by simpa using hc), List.length_append]
      simp only [ih]
      rfl

theorem advance_append (p : Position) (s t : List Char) : p.advance (s ++ t) = (p.advance s).advance t :=
  List.foldl_append

/-- Within a line each character opens the next column. -/
theorem advance_of_not_mem {s : List Char} (h : '\n' ∉ s) (p : Position) : p.advance s = ⟨p.line, p.column + s.length⟩ := by
  induction s generalizing p with
  | nil => rfl
  | cons c s ih =>
    rw [List.mem_cons, not_or] at h
    have hnext : p.advance (c :: s) = (p.next c).advance s := rfl
    rw [hnext, Position.next, if_neg (Ne.symm h.1), ih h.2, List.length_cons]
    simp only [Nat.add_assoc, Nat.add_comm 1]

/-- Only the empty text leaves a position where it is. -/
theorem eq_nil_of_advance {p : Position} {s : List Char} (h : p.advance s = p) : s = [] := by
  have hline := line_advance p s
  rw [h, Nat.left_eq_add, List.count_eq_zero] at hline
  have hcolumn := congrArg Position.column (advance_of_not_mem hline p)
  rw [h, Nat.left_eq_add] at hcolumn
  exact List.eq_nil_of_length_eq_zero hcolumn

/-- Different parts from the start of a text end at different positions. -/
theorem eq_of_advance {p : Position} {s u v : List Char} (hu : u <+: s) (hv : v <+: s) (h : p.advance u = p.advance v) :
    u = v := by
  rcases List.prefix_or_prefix_of_prefix hu hv with ⟨w, rfl⟩ | ⟨w, rfl⟩
  · rw [advance_append] at h
    rw [eq_nil_of_advance h.symm, List.append_nil]
  · rw [advance_append] at h
    rw [eq_nil_of_advance h, List.append_nil]

/-! ## Parts -/

theorem join_cons {α : Type} (separator : α) (part : List α) {parts : List (List α)} (h : parts ≠ []) :
    join separator (part :: parts) = part ++ separator :: join separator parts := by
  cases parts with
  | nil => exact absurd rfl h
  | cons other others => rfl

section Parts

variable {α : Type} [DecidableEq α] {separator : α}

theorem split_ne_nil (separator : α) (s : List α) : split separator s ≠ [] := by
  induction s with
  | nil => simp [split]
  | cons c s ih =>
    rw [split]
    split
    · exact List.cons_ne_nil _ _
    · split
      · exact List.cons_ne_nil _ _
      · exact List.cons_ne_nil _ _

theorem split_of_not_mem {s : List α} (h : separator ∉ s) : split separator s = [s] := by
  induction s with
  | nil => rfl
  | cons c s ih =>
    obtain ⟨hc, hs⟩ := not_or.1 (List.mem_cons.not.1 h)
    rw [split, if_neg (Ne.symm hc), ih hs]

/-- A separator divides a text into two, each with its parts. -/
theorem split_append_cons (s t : List α) :
    split separator (s ++ separator :: t) = split separator s ++ split separator t := by
  induction s with
  | nil =>
    show split separator (separator :: t) = [[]] ++ split separator t
    rw [split, if_pos rfl, List.singleton_append]
  | cons c s ih =>
    rw [List.cons_append, split, split, ih]
    split
    · rw [List.cons_append]
    · obtain ⟨part, others, hsplit⟩ := List.exists_cons_of_ne_nil (split_ne_nil separator s)
      rw [hsplit, List.cons_append, List.cons_append]

/-- No part of a text between separators holds one. -/
theorem not_mem_of_mem_split {s part : List α} (h : part ∈ split separator s) :
    separator ∉ part := by
  induction s generalizing part with
  | nil =>
    rw [split, List.mem_singleton] at h
    simp [h]
  | cons c s ih =>
    rw [split] at h
    split at h
    · rcases List.mem_cons.1 h with rfl | h
      · exact List.not_mem_nil
      · exact ih h
    · rename_i hc
      split at h
      · rename_i hnil
        exact absurd hnil (split_ne_nil separator s)
      · rename_i first others hsplit
        rcases List.mem_cons.1 h with rfl | h
        · have hfirst : separator ∉ first := ih (hsplit ▸ List.mem_cons_self ..)
          simp only [List.mem_cons, not_or]
          exact ⟨Ne.symm hc, hfirst⟩
        · exact ih (hsplit ▸ List.mem_cons_of_mem _ h)

theorem length_split (separator : α) (s : List α) : (split separator s).length = s.count separator + 1 := by
  induction s with
  | nil => rfl
  | cons c s ih =>
    rw [split]
    split
    · rename_i hc
      rw [List.length_cons, ih, hc, List.count_cons_self]
    · rename_i hc
      rw [List.count_cons_of_ne hc, ← ih]
      split
      · rename_i hnil
        exact absurd hnil (split_ne_nil separator s)
      · rename_i first others hsplit
        rw [hsplit]
        rfl

/-- The parts of a text, put together again, are the text. -/
theorem join_split (separator : α) (s : List α) : join separator (split separator s) = s := by
  induction s with
  | nil => rfl
  | cons c s ih =>
    rw [split]
    split
    · rename_i hc
      rw [join_cons separator _ (split_ne_nil separator s), ih, List.nil_append, hc]
    · split
      · rename_i hnil
        exact absurd hnil (split_ne_nil separator s)
      · rename_i first others hsplit
        rw [hsplit] at ih
        cases others with
        | nil => rw [← ih, join, join]
        | cons other others =>
          rw [← ih, join_cons separator _ (List.cons_ne_nil _ _), join_cons separator _ (List.cons_ne_nil _ _),
            List.cons_append]

end Parts

/-! ## Lines -/

/-- Numbering leaves the lines as they are. -/
theorem map_text_numberLines (number offset : Nat) (parts : List (List Char)) :
    (numberLines number offset parts).map (·.text) = parts := by
  induction parts generalizing number offset with
  | nil => rfl
  | cons part parts ih => rw [numberLines, List.map_cons, ih]

theorem map_number_numberLines (number offset : Nat) (parts : List (List Char)) :
    (numberLines number offset parts).map (·.number) = List.range' number parts.length := by
  induction parts generalizing number offset with
  | nil => rfl
  | cons part parts ih => rw [numberLines, List.map_cons, ih, List.length_cons, List.range'_succ]

theorem numberLines_append (number offset : Nat) {parts : List (List Char)} (h : parts ≠ []) (others : List (List Char)) :
    numberLines number offset (parts ++ others) = numberLines number offset parts ++
      numberLines (number + parts.length) (offset + byteLength (join '\n' parts) + 1) others := by
  induction parts generalizing number offset with
  | nil => exact absurd rfl h
  | cons part parts ih =>
    rw [List.cons_append, numberLines, numberLines, List.cons_append]
    congr 1
    cases parts with
    | nil => rfl
    | cons second parts =>
      have hnumber : number + 1 + (second :: parts).length = number + (part :: second :: parts).length := by
        rw [List.length_cons, List.length_cons, List.length_cons]
        omega
      have hoffset : offset + byteLength part + 1 + byteLength (join '\n' (second :: parts)) =
          offset + byteLength (join '\n' (part :: second :: parts)) := by
        rw [join_cons '\n' part (List.cons_ne_nil _ _), byteLength_append, byteLength_cons, show '\n'.utf8Size = 1 from rfl]
        omega
      rw [ih _ _ (List.cons_ne_nil _ _), hnumber, hoffset]

/-- Behind a line feed, lines and bytes count on. -/
theorem numberedLines_append_cons (s t : List Char) :
    numberedLines (s ++ '\n' :: t) =
      numberedLines s ++ numberLines (s.count '\n' + 2) (byteLength s + 1) (lines t) := by
  have hlines : lines (s ++ '\n' :: t) = lines s ++ lines t := split_append_cons s t
  have hlength : (lines s).length = s.count '\n' + 1 := length_split '\n' s
  have hjoin : join '\n' (lines s) = s := join_split '\n' s
  have hnumber : 1 + (s.count '\n' + 1) = s.count '\n' + 2 := by omega
  have hne : lines s ≠ [] := split_ne_nil '\n' s
  rw [numberedLines, hlines, numberLines_append _ _ hne, hlength, hjoin, hnumber, Nat.zero_add]
  rfl

/-- The numbers of the lines of a text ascend. -/
theorem pairwise_numberedLines (s : List Char) : (numberedLines s).Pairwise fun l l' => l.number < l'.number := by
  rw [← List.pairwise_map (f := Line.number), numberedLines, map_number_numberLines]
  exact List.pairwise_lt_range'

/-- The line that is found by a number is the only one that has it. -/
theorem find?_number {s : List Char} {number : Nat} {l : Line} :
    ((numberedLines s).find? fun l => l.number = number) = some l ↔ l ∈ numberedLines s ∧ l.number = number := by
  have hnodup : ((numberedLines s).map (·.number)).Nodup := by
    rw [numberedLines, map_number_numberLines]
    exact List.nodup_range'
  constructor
  · intro h
    exact ⟨List.mem_of_find?_eq_some h, by simpa using List.find?_some h⟩
  · rintro ⟨hl, rfl⟩
    cases hfind : (numberedLines s).find? fun l' => l'.number = l.number with
    | none => exact absurd (decide_eq_true rfl) (List.find?_eq_none.1 hfind l hl)
    | some l' =>
      have hnumber : l'.number = l.number := by simpa using List.find?_some hfind
      rw [List.inj_on_of_nodup_map hnodup (List.mem_of_find?_eq_some hfind) hl hnumber]

/-- A line opens after each line feed of a text. -/
theorem exists_line {s : List Char} {n : Nat} (h : n ≤ s.count '\n') : ∃ l ∈ numberedLines s, l.number = n + 1 := by
  have hmem : n + 1 ∈ (numberedLines s).map (·.number) := by
    rw [numberedLines, map_number_numberLines, lines, length_split, List.mem_range'_1]
    omega
  exact List.mem_map.1 hmem

namespace Line

variable {l : Line} {s before after : List Char}

/-- A line stands in a text between what comes before it and what comes after it: its offset and its number are those of
the place, and it is a whole line. -/
structure StandsIn (l : Line) (s before after : List Char) : Prop where
  content : s = before ++ l.text ++ after
  offset : l.offset = byteLength before
  number : l.number = before.count '\n' + 1
  opens : before.rtakeWhile (· ≠ '\n') = []
  whole : '\n' ∉ l.text
  closes : after = [] ∨ ∃ rest, after = '\n' :: rest

/-- Each line of a text stands in it. -/
theorem standsIn_of_mem (h : l ∈ numberedLines s) :
    ∃ before after, l.StandsIn s before after := by
  -- The lines numbered so far are part of what comes before; it ends where a line starts.
  have numbered : ∀ (parts : List (List Char)) (before : List Char) (number : Nat), (∀ part ∈ parts, '\n' ∉ part) →
      number = before.count '\n' + 1 → before.rtakeWhile (· ≠ '\n') = [] →
      l ∈ numberLines number (byteLength before) parts →
      ∃ before' after, l.StandsIn (before ++ join '\n' parts) before' after := by
    intro parts
    induction parts with
    | nil => exact fun _ _ _ _ _ h => absurd h List.not_mem_nil
    | cons part parts ih =>
      intro before number hwhole hnumber hopens h
      have hpart : '\n' ∉ part := hwhole part (List.mem_cons_self ..)
      rw [numberLines] at h
      cases parts with
      | nil =>
        rw [numberLines, List.mem_singleton] at h
        subst h
        exact ⟨before, [], by rw [join, List.append_nil], rfl, hnumber, hopens, hpart, Or.inl rfl⟩
      | cons other others =>
        rcases List.mem_cons.1 h with rfl | h
        · have hcontent : before ++ join '\n' (part :: other :: others) =
              before ++ part ++ '\n' :: join '\n' (other :: others) := by
            rw [join_cons '\n' part (List.cons_ne_nil _ _), List.append_assoc]
          exact ⟨before, _, hcontent, rfl, hnumber, hopens, hpart, Or.inr ⟨_, rfl⟩⟩
        · have hcount : (before ++ part ++ ['\n']).count '\n' = before.count '\n' + 1 := by
            rw [List.count_append, List.count_append, List.count_eq_zero_of_not_mem hpart]
            rfl
          have hbytes : byteLength (before ++ part ++ ['\n']) = byteLength before + byteLength part + 1 := by
            rw [byteLength_append, byteLength_append]
            rfl
          have hcontent : before ++ join '\n' (part :: other :: others) =
              before ++ part ++ ['\n'] ++ join '\n' (other :: others) := by
            rw [join_cons '\n' part (List.cons_ne_nil _ _)]
            simp
          rw [hcontent]
          refine ih (before ++ part ++ ['\n']) (number + 1) (fun x hx => hwhole x (List.mem_cons_of_mem _ hx)) ?_ ?_ ?_
          · rw [hcount, hnumber]
          · exact List.rtakeWhile_concat_neg _ _ _ (by simp)
          · rw [hbytes]
            exact h
  have hs := numbered (split '\n' s) [] 1 (fun _ => not_mem_of_mem_split) rfl rfl h
  rwa [List.nil_append, join_split] at hs

theorem StandsIn.advance_eq (h : l.StandsIn s before after) : Position.start.advance before = ⟨l.number, 1⟩ := by
  have hline := line_advance .start before
  have hcolumn := column_advance_start before
  rw [h.opens] at hcolumn
  rw [Nat.add_comm] at hline
  exact congrArg₂ Position.mk (hline.trans h.number.symm) hcolumn

/-- What a line stands after is the start of what comes before any character with the line's number. -/
theorem StandsIn.prefix_of_number (h : l.StandsIn s before after) {earlier : List Char} (hs : earlier <+: s)
    (hnumber : l.number = earlier.count '\n' + 1) : before <+: earlier := by
  have hbefore : before <+: s := ⟨l.text ++ after, by rw [h.content, List.append_assoc]⟩
  rcases List.prefix_or_prefix_of_prefix hbefore hs with hprefix | ⟨w, rfl⟩
  · exact hprefix
  · -- What would stand between the two has no line feed, and the line starts at column one.
    have hw : '\n' ∉ w := by
      have hcount := h.number
      rw [List.count_append, hnumber] at hcount
      exact List.count_eq_zero.1 (by omega)
    have hcolumn := congrArg Position.column h.advance_eq
    rw [advance_append, advance_of_not_mem hw, column_advance_start] at hcolumn
    have hlength : w.length = 0 := by simp only at hcolumn; omega
    simp [List.eq_nil_of_length_eq_zero hlength]

/-- A line is what stands in a text from its start to the next line feed. -/
theorem StandsIn.takeWhile_eq (h : l.StandsIn s before after) : (l.text ++ after).takeWhile (· ≠ '\n') = l.text := by
  have hkept : ∀ c ∈ l.text, decide (c ≠ '\n') = true := fun c hc => decide_eq_true fun heq => h.whole (heq ▸ hc)
  rw [List.takeWhile_append_of_pos hkept]
  rcases h.closes with rfl | ⟨rest, rfl⟩
  · rw [List.takeWhile_nil, List.append_nil]
  · rw [List.takeWhile_cons_of_neg (by simp), List.append_nil]

/-- A character that has the number of a line stands in the line. -/
theorem StandsIn.holds (h : l.StandsIn s before after) {earlier later : List Char} {c : Char}
    (hs : s = earlier ++ c :: later) (hc : c ≠ '\n') (hnumber : l.number = earlier.count '\n' + 1) :
    ∃ pre post, earlier = before ++ pre ∧ l.text = pre ++ c :: post := by
  obtain ⟨pre, rfl⟩ := h.prefix_of_number ⟨c :: later, hs.symm⟩ hnumber
  have hpre : '\n' ∉ pre := by
    have hcount := h.number
    rw [hnumber, List.count_append] at hcount
    exact List.count_eq_zero.1 (by omega)
  have hrest : l.text ++ after = pre ++ c :: later := by
    rw [h.content, List.append_assoc, List.append_assoc] at hs
    exact List.append_cancel_left hs
  have hkept : ∀ d ∈ pre, decide (d ≠ '\n') = true := fun d hd => decide_eq_true fun heq => hpre (heq ▸ hd)
  refine ⟨pre, later.takeWhile (· ≠ '\n'), rfl, ?_⟩
  rw [← h.takeWhile_eq, hrest, List.takeWhile_append_of_pos hkept, List.takeWhile_cons_of_pos (by simpa using hc)]

end Line

/-! ## Searches -/

/-- A text is found within another one exactly if it stands in it without a gap. -/
theorem contains_iff {needle s : List Char} : contains needle s = true ↔ needle <:+: s := by
  induction s with
  | nil => rw [contains, List.isEmpty_iff, List.infix_nil]
  | cons c s ih => rw [contains, Bool.or_eq_true, List.isPrefixOf_iff_prefix, ih, List.infix_cons_iff]

end ComponentAudit.Text
