import Mathlib.Data.List.Infix
import ComponentAudit.Proofs.Lines
import ComponentAudit.Template

/-!
# Braces that balance

The check of braces keeps the places of the braces that are open. What it keeps tells how the text read so far is built
(`LeavesOpen`): balanced texts with an open brace between each two of them. So the check fails at the first brace that closes
more than was opened, or else, at the end of the text, at the first opening brace that has no partner, which is the outermost
one that is open (`checkBraces_balanced`).
-/

namespace ComponentAudit.Template

open Text

variable {s t u inner before : List Char}

/-! ## Balanced texts -/

/-- More braces are closed in a text than opened. -/
def Exceeds (s : List Char) : Prop :=
  s.count '{' < s.count '}'

instance : DecidablePred Exceeds :=
  fun s => inferInstanceAs (Decidable (s.count '{' < s.count '}'))

/-- As many braces are closed as opened, and at no place more. -/
structure Balanced (s : List Char) : Prop where
  ahead : ∀ t, t <+: s → t.count '}' ≤ t.count '{'
  even : s.count '}' = s.count '{'

/-- An opening brace has a partner in the text after it: a closing brace with a balanced text between the two. -/
def HasPartner (after : List Char) : Prop :=
  ∃ inner rest, after = inner ++ '}' :: rest ∧ Balanced inner

/-- What comes before the last character of the shortest part from the start of a text in which more is closed than opened. -/
structure FirstExcess (s before : List Char) : Prop where
  excess : ∃ c, before ++ [c] <+: s ∧ Exceeds (before ++ [c])
  shortest : ∀ t, t <+: s → Exceeds t → before.length < t.length

/-- What comes before the first opening brace of a text that has no partner. -/
structure FirstOpen (s before : List Char) : Prop where
  alone : ∃ after, s = before ++ '{' :: after ∧ ¬HasPartner after
  earliest : ∀ earlier after, s = earlier ++ '{' :: after → ¬HasPartner after → before.length ≤ earlier.length

/-- The place after a text: its lines are ended by line feeds, and its columns are the characters since the last of them. -/
def placeAfter (before : List Char) : Position where
  line := 1 + before.count '\n'
  column := 1 + (before.rtakeWhile (· ≠ '\n')).length

theorem advance_start (before : List Char) : Position.start.advance before = placeAfter before := by
  have hline := line_advance .start before
  have hcolumn := column_advance_start before
  rw [Nat.add_comm] at hcolumn
  exact congrArg₂ Position.mk hline hcolumn

theorem placeAfter_concat (before : List Char) (c : Char) : placeAfter (before ++ [c]) = (placeAfter before).next c := by
  rw [← advance_start, ← advance_start, advance_concat]

/-- A part from the start of two texts is one of the first text, or goes on into the second. -/
theorem prefix_append_cases (h : u <+: s ++ t) : u <+: s ∨ ∃ rest, u = s ++ rest ∧ rest <+: t := by
  rcases List.prefix_or_prefix_of_prefix h (List.prefix_append s t) with hu | ⟨rest, rfl⟩
  · exact Or.inl hu
  · exact Or.inr ⟨rest, rfl, (List.prefix_append_right_inj s).1 h⟩

theorem balanced_nil : Balanced [] :=
  ⟨fun t h => by rw [List.prefix_nil.1 h]; exact Nat.le_refl _, rfl⟩

theorem Balanced.append (hs : Balanced s) (ht : Balanced t) : Balanced (s ++ t) := by
  have hseven := hs.even
  refine ⟨fun u hu => ?_, by rw [List.count_append, List.count_append, hs.even, ht.even]⟩
  rcases prefix_append_cases hu with hu | ⟨rest, rfl, hrest⟩
  · exact hs.ahead u hu
  · have hahead := ht.ahead rest hrest
    simp only [List.count_append]
    omega

/-- A character that is no brace is balanced. -/
theorem balanced_singleton {c : Char} (hopen : c ≠ '{') (hclose : c ≠ '}') : Balanced [c] := by
  have hcount : ∀ {b : Char}, c ≠ b → ∀ t, t <+: [c] → t.count b = 0 := fun hne t ht =>
    List.count_eq_zero_of_not_mem fun hmem => hne (List.mem_singleton.1 (ht.subset hmem)).symm
  refine ⟨fun t ht => ?_, ?_⟩
  · rw [hcount hclose t ht]
    exact Nat.zero_le _
  · rw [hcount hclose [c] (List.prefix_refl _), hcount hopen [c] (List.prefix_refl _)]

/-- Braces around a balanced text are partners. -/
theorem Balanced.enclosed (h : Balanced inner) : Balanced ('{' :: inner ++ ['}']) := by
  have heven := h.even
  refine ⟨fun t ht => ?_, by simp [heven]⟩
  rcases prefix_append_cases ht with ht | ⟨rest, rfl, hrest⟩
  · rcases List.prefix_cons_iff.1 ht with rfl | ⟨u, rfl, hu⟩
    · exact Nat.le_refl _
    · have hahead := h.ahead u hu
      simp only [List.count_cons_self, List.count_cons_of_ne (show '{' ≠ '}' by decide)]
      omega
  · rcases List.prefix_cons_iff.1 hrest with rfl | ⟨u, rfl, hu⟩
    · simp [heven]
    · rw [List.prefix_nil.1 hu]
      simp [heven]

/-! ## The first excess -/

/-- Where more is closed than opened somewhere, there is a first place where it is so. -/
theorem exists_firstExcess (h : ∃ t, t <+: s ∧ Exceeds t) : ∃ before, FirstExcess s before := by
  obtain ⟨t, ht, hexceeds⟩ := h
  -- The induction is on the part of the text: either a shorter one exceeds too, or none does.
  induction hlength : t.length using Nat.strong_induction_on generalizing t with
  | _ n ih =>
    by_cases hshorter : ∃ u, u <+: s ∧ Exceeds u ∧ u.length < t.length
    · obtain ⟨u, hu, huexceeds, hlt⟩ := hshorter
      exact ih u.length (hlength ▸ hlt) u hu huexceeds rfl
    · obtain ⟨before, c, rfl⟩ : ∃ before c, t = before ++ [c] := by
        refine (List.eq_nil_or_concat' t).resolve_left ?_
        rintro rfl
        exact absurd hexceeds (by simp [Exceeds])
      refine ⟨before, ⟨c, ht, hexceeds⟩, fun u hu huexceeds => ?_⟩
      have hle : ¬u.length < (before ++ [c]).length := fun hlt => hshorter ⟨u, hu, huexceeds, hlt⟩
      rw [List.length_append, List.length_singleton] at hle
      omega

/-- Before the first excess the text is balanced, and then a brace is closed. -/
theorem FirstExcess.balanced (h : FirstExcess s before) : Balanced before ∧ before ++ ['}'] <+: s := by
  obtain ⟨⟨c, hprefix, hexceeds⟩, hshortest⟩ := h
  have hahead : ∀ t, t <+: before → t.count '}' ≤ t.count '{' := by
    intro t ht
    by_contra hlt
    have hlength := hshortest t ((ht.trans (List.prefix_append _ _)).trans hprefix) (Nat.lt_of_not_le hlt)
    have hle := ht.length_le
    omega
  have hbefore := hahead before (List.prefix_refl _)
  rw [Exceeds, List.count_append, List.count_append] at hexceeds
  obtain rfl : c = '}' := by
    by_contra hc
    have hnone : [c].count '}' = 0 := List.count_eq_zero_of_not_mem (by simpa using Ne.symm hc)
    omega
  rw [List.count_singleton_self, List.count_singleton, if_neg (by decide)] at hexceeds
  exact ⟨⟨hahead, by omega⟩, hprefix⟩

/-- Where a closing brace follows a balanced text, more is closed than opened for the first time. -/
theorem firstExcess_of_balanced (h : Balanced before) (rest : List Char) : FirstExcess (before ++ '}' :: rest) before := by
  have heven := h.even
  refine ⟨⟨'}', (List.prefix_append_right_inj before).2 ⟨rest, rfl⟩, ?_⟩, fun t ht hexceeds => ?_⟩
  · rw [Exceeds, List.count_append, List.count_append, heven]
    simp
  · by_contra hlength
    have hprefix := List.prefix_of_prefix_length_le ht (List.prefix_append before _) (Nat.le_of_not_lt hlength)
    exact absurd hexceeds (Nat.not_lt.2 (h.ahead t hprefix))

/-- An opening brace has a partner exactly if more is closed than opened somewhere after it. -/
theorem hasPartner_iff {after : List Char} : HasPartner after ↔ ∃ t, t <+: after ∧ Exceeds t := by
  constructor
  · rintro ⟨inner, rest, rfl, hinner⟩
    obtain ⟨c, hprefix, hexceeds⟩ := (firstExcess_of_balanced hinner rest).excess
    exact ⟨_, hprefix, hexceeds⟩
  · intro h
    obtain ⟨inner, hfirst⟩ := exists_firstExcess h
    obtain ⟨hinner, rest, hrest⟩ := hfirst.balanced
    exact ⟨inner, rest, by rw [← hrest, List.append_assoc]; rfl, hinner⟩

/-- In a balanced text every opening brace has a partner. -/
theorem Balanced.hasPartner {after : List Char} (h : Balanced (before ++ '{' :: after)) : HasPartner after := by
  have hahead := h.ahead before (List.prefix_append _ _)
  have heven := h.even
  simp only [List.count_append, List.count_cons_self, List.count_cons_of_ne (show '{' ≠ '}' by decide)] at heven
  have hexceeds : Exceeds after := by
    rw [Exceeds]
    omega
  exact hasPartner_iff.2 ⟨after, List.prefix_refl _, hexceeds⟩

/-- A partner is one whatever follows it. -/
theorem HasPartner.append {after : List Char} (h : HasPartner after) (rest : List Char) : HasPartner (after ++ rest) := by
  obtain ⟨inner, rest', rfl, hinner⟩ := h
  exact ⟨inner, rest' ++ rest, by rw [List.append_assoc]; rfl, hinner⟩

/-- A brace that stands in the first part of a text stands in it as it does in the whole text. -/
theorem exists_of_append_eq {earlier after rest : List Char} (h : s ++ rest = earlier ++ '{' :: after)
    (hlength : earlier.length < s.length) : ∃ between, s = earlier ++ '{' :: between ∧ after = between ++ rest := by
  rcases List.append_eq_append_iff.1 h with ⟨more, rfl, -⟩ | ⟨more, rfl, hmore⟩
  · rw [List.length_append] at hlength
    omega
  · cases more with
    | nil => simp at hlength
    | cons c between =>
      obtain ⟨rfl, rfl⟩ := List.cons.inj hmore
      exact ⟨between, rfl, rfl⟩

/-! ## Open braces -/

/-- The braces that a text leaves open, innermost first, each known by what comes before it: between each two of them, and
around them, the text is balanced. -/
inductive LeavesOpen : List Char → List (List Char) → Prop where
  | nothing {s : List Char} (h : Balanced s) : LeavesOpen s []
  | brace {before inner : List Char} {outer : List (List Char)} (h : LeavesOpen before outer) (hinner : Balanced inner) :
    LeavesOpen (before ++ '{' :: inner) (before :: outer)

/-- After an open brace with a balanced text behind it, no more is closed than opened. -/
theorem not_exceeds_opening (h : Balanced inner) : ∀ t, t <+: '{' :: inner → ¬Exceeds t := by
  intro t ht
  rcases List.prefix_cons_iff.1 ht with rfl | ⟨u, rfl, hu⟩
  · simp [Exceeds]
  · have hahead := h.ahead u hu
    simp only [Exceeds, List.count_cons_self, List.count_cons_of_ne (show '{' ≠ '}' by decide)]
    omega

/-- The first open brace stays the first one where no more is closed than opened after it. -/
theorem FirstOpen.append {rest : List Char} (h : FirstOpen s before) (hrest : ∀ t, t <+: rest → ¬Exceeds t) :
    FirstOpen (s ++ rest) before := by
  obtain ⟨⟨after, hs, halone⟩, hearliest⟩ := h
  constructor
  · refine ⟨after ++ rest, by rw [hs, List.append_assoc]; rfl, fun hpartner => ?_⟩
    obtain ⟨t, ht, hexceeds⟩ := hasPartner_iff.1 hpartner
    have hnone : ∀ u, u <+: after → ¬Exceeds u := fun u hu hexceeds => halone (hasPartner_iff.2 ⟨u, hu, hexceeds⟩)
    rcases prefix_append_cases ht with ht | ⟨u, rfl, hu⟩
    · exact hnone t ht hexceeds
    · have hafter := hnone after (List.prefix_refl _)
      have hu := hrest u hu
      simp only [Exceeds, List.count_append] at hafter hu hexceeds
      omega
  · intro earlier after' heq halone'
    by_contra hlt
    obtain ⟨between, hbetween, rfl⟩ := exists_of_append_eq heq (by rw [hs, List.length_append]; omega)
    exact hlt (hearliest earlier between hbetween fun hpartner => halone' (hpartner.append rest))

/-- After a balanced text, an open brace is the first one. -/
theorem firstOpen_of_balanced (h : Balanced before) (hinner : Balanced inner) :
    FirstOpen (before ++ '{' :: inner) before := by
  constructor
  · refine ⟨inner, rfl, fun hpartner => ?_⟩
    obtain ⟨t, ht, hexceeds⟩ := hasPartner_iff.1 hpartner
    exact absurd hexceeds (Nat.not_lt.2 (hinner.ahead t ht))
  · intro earlier after heq halone
    by_contra hlt
    obtain ⟨between, rfl, rfl⟩ := exists_of_append_eq heq (Nat.lt_of_not_le hlt)
    exact halone (h.hasPartner.append _)

namespace LeavesOpen

variable {opened outer : List (List Char)}

/-- A balanced text leaves no more braces open. -/
theorem append (h : LeavesOpen s opened) (ht : Balanced t) : LeavesOpen (s ++ t) opened := by
  cases h with
  | nothing hs => exact .nothing (hs.append ht)
  | brace hbefore hinner =>
    rw [List.append_assoc, List.cons_append]
    exact .brace hbefore (hinner.append ht)

/-- An opening brace is one more. -/
theorem opening (h : LeavesOpen s opened) : LeavesOpen (s ++ ['{']) (s :: opened) :=
  .brace h balanced_nil

/-- A closing brace closes the innermost one. -/
theorem closing (h : LeavesOpen s (before :: outer)) : LeavesOpen (s ++ ['}']) outer := by
  cases h with
  | brace hbefore hinner =>
    rw [List.append_assoc]
    exact hbefore.append hinner.enclosed

/-- At no place is more closed than opened, and what is not closed is open. -/
theorem counts (h : LeavesOpen s opened) :
    (∀ t, t <+: s → ¬Exceeds t) ∧ s.count '{' = s.count '}' + opened.length := by
  induction h with
  | nothing h => exact ⟨fun t ht => Nat.not_lt.2 (h.ahead t ht), h.even.symm⟩
  | @brace before inner outer _ hinner ih =>
    obtain ⟨hahead, hcount⟩ := ih
    have heven := hinner.even
    constructor
    · intro t ht
      rcases prefix_append_cases ht with ht | ⟨rest, rfl, hrest⟩
      · exact hahead t ht
      · have hbefore := hahead before (List.prefix_refl _)
        have hrest := not_exceeds_opening hinner rest hrest
        simp only [Exceeds, List.count_append] at hbefore hrest ⊢
        omega
    · simp only [List.count_append, List.count_cons_self, List.count_cons_of_ne (show '{' ≠ '}' by decide),
        List.length_cons]
      omega

/-- The outermost of the open braces is the first one without a partner. -/
theorem firstOpen (h : LeavesOpen s opened) {outermost : List Char} (hlast : opened.getLast? = some outermost) :
    FirstOpen s outermost := by
  induction h with
  | nothing h => simp at hlast
  | @brace before inner outer hbefore hinner ih =>
    cases hbefore with
    | nothing hbalanced =>
      obtain rfl := Option.some.inj hlast
      exact firstOpen_of_balanced hbalanced hinner
    | brace hfirst hbetween =>
      rw [List.getLast?_cons_cons] at hlast
      exact (ih hlast).append (not_exceeds_opening hinner)

end LeavesOpen

/-! ## The check -/

/-- Reading on from a place with some braces open: either more is closed than opened, and the check fails at the first place
where it is so, or the whole text is read, and the check ends with the braces that it leaves open. -/
theorem scanBraces_cases {opened : List (List Char)} (h : LeavesOpen s opened) (rest : List Char) :
    (∃ before, FirstExcess (s ++ rest) before ∧
      scanBraces (placeAfter s) (opened.map placeAfter) rest = .error (.unbalancedClosing (placeAfter before))) ∨
    ∃ left, LeavesOpen (s ++ rest) left ∧
      scanBraces (placeAfter s) (opened.map placeAfter) rest =
        match left.getLast? with
        | none => .ok ()
        | some outermost => .error (.unbalancedOpening left.length (placeAfter outermost)) := by
  induction rest generalizing s opened with
  | nil =>
    rw [List.append_nil]
    refine Or.inr ⟨opened, h, ?_⟩
    unfold scanBraces
    rw [List.getLast?_map, List.length_map]
    cases opened.getLast? with
    | none => rfl
    | some outermost => rfl
  | cons c rest ih =>
    have hsplit : s ++ c :: rest = s ++ [c] ++ rest := by rw [List.append_assoc, List.singleton_append]
    unfold scanBraces
    rw [← placeAfter_concat]
    by_cases hopen : c = '{'
    · subst hopen
      rw [if_pos rfl, hsplit]
      exact ih h.opening
    · rw [if_neg hopen]
      by_cases hclose : c = '}'
      · subst hclose
        rw [if_pos rfl]
        cases opened with
        | nil =>
          cases h with
          | nothing hbalanced => exact Or.inl ⟨s, firstExcess_of_balanced hbalanced rest, rfl⟩
        | cons innermost outer =>
          rw [hsplit]
          exact ih h.closing
      · rw [if_neg hclose, hsplit]
        exact ih (h.append (balanced_singleton hopen hclose))

/-- The check of braces finds nothing exactly in balanced texts. Where more is closed than opened, it fails at the first brace
that does so. Otherwise, where braces are left open, it fails at the first one that has no partner, and tells how many more
are opened than closed. -/
theorem checkBraces_balanced (s : List Char) :
    (checkBraces s = .ok () ↔ Balanced s) ∧
    ((∃ t, t <+: s ∧ Exceeds t) →
      ∃ before, FirstExcess s before ∧ checkBraces s = .error (.unbalancedClosing (placeAfter before))) ∧
    ((¬∃ t, t <+: s ∧ Exceeds t) → s.count '}' < s.count '{' →
      ∃ before, FirstOpen s before ∧
        checkBraces s = .error (.unbalancedOpening (s.count '{' - s.count '}') (placeAfter before))) := by
  have hcheck : checkBraces s = scanBraces (placeAfter []) ([].map placeAfter) s := rfl
  rw [hcheck]
  rcases scanBraces_cases (.nothing balanced_nil) s with ⟨before, hfirst, hscan⟩ | ⟨left, hleft, hscan⟩
  · rw [List.nil_append] at hfirst
    obtain ⟨c, hprefix, hexceeds⟩ := hfirst.excess
    rw [hscan]
    refine ⟨iff_of_false nofun fun hbalanced => ?_, fun _ => ⟨before, hfirst, rfl⟩, fun hnone => ?_⟩
    · exact absurd hexceeds (Nat.not_lt.2 (hbalanced.ahead _ hprefix))
    · exact absurd ⟨_, hprefix, hexceeds⟩ hnone
  · rw [List.nil_append] at hleft
    obtain ⟨hahead, hcount⟩ := hleft.counts
    rw [hscan]
    refine ⟨?_, fun ⟨t, ht, hexceeds⟩ => absurd hexceeds (hahead t ht), fun _ hopen => ?_⟩
    · cases hlast : left.getLast? with
      | none =>
        rw [List.getLast?_eq_none_iff] at hlast
        subst hlast
        exact iff_of_true rfl ⟨fun t ht => Nat.le_of_not_lt (hahead t ht), hcount.symm⟩
      | some outermost =>
        have hne : left ≠ [] := List.ne_nil_of_mem (List.mem_of_getLast? hlast)
        have hpos := List.length_pos_iff.2 hne
        refine iff_of_false nofun fun hbalanced => ?_
        have heven := hbalanced.even
        omega
    · cases hlast : left.getLast? with
      | none =>
        rw [List.getLast?_eq_none_iff] at hlast
        subst hlast
        rw [List.length_nil] at hcount
        omega
      | some outermost =>
        have hunclosed : s.count '{' - s.count '}' = left.length := by omega
        rw [hunclosed]
        exact ⟨outermost, hleft.firstOpen hlast, rfl⟩

/-- The brace after an empty pair is the first excess, on the second line. Of three braces that are opened, one of them closed,
the first is the one that is named. -/
theorem checkBraces_balanced_sample :
    (∃ before, FirstExcess "\x7b\x7d\n \x7d\x7b".toList before ∧ placeAfter before = ⟨2, 2⟩) ∧
    ∃ before, FirstOpen "x\x7b\n\x7b\x7b\x7d".toList before ∧ placeAfter before = ⟨1, 2⟩ := by
  obtain ⟨-, hclosing, -⟩ := checkBraces_balanced "\x7b\x7d\n \x7d\x7b".toList
  obtain ⟨-, -, hopening⟩ := checkBraces_balanced "x\x7b\n\x7b\x7b\x7d".toList
  constructor
  · obtain ⟨before, hfirst, hcheck⟩ := hclosing ⟨"\x7b\x7d\n \x7d".toList, by decide, by decide⟩
    have hscan : checkBraces "\x7b\x7d\n \x7d\x7b".toList = .error (.unbalancedClosing ⟨2, 2⟩) := by decide
    rw [hscan] at hcheck
    injection hcheck with hcheck
    injection hcheck with hplace
    exact ⟨before, hfirst, hplace.symm⟩
  · have hnone : ∀ t ∈ "x\x7b\n\x7b\x7b\x7d".toList.inits, ¬Exceeds t := by decide
    obtain ⟨before, hfirst, hcheck⟩ :=
      hopening (fun ⟨t, ht, hexceeds⟩ => hnone t ((List.mem_inits _ _).2 ht) hexceeds) (by decide)
    have hscan : checkBraces "x\x7b\n\x7b\x7b\x7d".toList = .error (.unbalancedOpening 2 ⟨1, 2⟩) := by decide
    rw [hscan] at hcheck
    injection hcheck with hcheck
    injection hcheck with _ hplace
    exact ⟨before, hfirst, hplace.symm⟩

end ComponentAudit.Template
