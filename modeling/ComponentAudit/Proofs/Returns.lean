import ComponentAudit.Proofs.Culprits

/-!
# Texts whose lines end in carriage returns

A text may have a carriage return before each of its line feeds (`Text.withReturns`). The returns are blank, stand at the ends of
lines and nowhere else, so they change no line and no column of what was there before (`Text.advance_withReturns`), and each step
of the checks of a template that skips blanks skips them as well. So the outline of a template is right or wrong with them as it
is without them, at the same position (`Template.outline_withReturns`).
-/

namespace ComponentAudit

open Text

namespace Text

/-- A text with a carriage return before each of its line feeds. -/
def withReturns : List Char → List Char
  | [] => []
  | c :: rest => if c = '\n' then '\r' :: '\n' :: withReturns rest else c :: withReturns rest

variable {s t : List Char} {c : Char}

theorem withReturns_feed (s : List Char) : withReturns ('\n' :: s) = '\r' :: '\n' :: withReturns s := by
  rw [withReturns, if_pos rfl]

theorem withReturns_cons (hc : c ≠ '\n') (s : List Char) : withReturns (c :: s) = c :: withReturns s := by
  rw [withReturns, if_neg hc]

theorem withReturns_append (s t : List Char) : withReturns (s ++ t) = withReturns s ++ withReturns t := by
  induction s with
  | nil => rfl
  | cons c s ih =>
    by_cases hc : c = '\n'
    · subst hc
      rw [List.cons_append, withReturns_feed, withReturns_feed, ih]
      rfl
    · rw [List.cons_append, withReturns_cons hc, withReturns_cons hc, ih]
      rfl

/-- A return before each line feed is one byte more for each. -/
theorem byteLength_withReturns (s : List Char) : byteLength (withReturns s) = byteLength s + s.count '\n' := by
  induction s with
  | nil => rfl
  | cons c s ih =>
    by_cases hc : c = '\n'
    · subst hc
      rw [withReturns_feed, byteLength_cons, byteLength_cons, byteLength_cons, ih, List.count_cons_self,
        show '\r'.utf8Size = 1 from rfl]
      omega
    · rw [withReturns_cons hc, byteLength_cons, byteLength_cons, ih, List.count_cons_of_ne hc, Nat.add_assoc]

/-- The position after a text is the same with returns. -/
theorem advance_withReturns (p : Position) (s : List Char) : p.advance (withReturns s) = p.advance s := by
  induction s generalizing p with
  | nil => rfl
  | cons c s ih =>
    by_cases hc : c = '\n'
    · subst hc
      rw [withReturns_feed]
      exact ih _
    · rw [withReturns_cons hc]
      exact ih _

/-- Skipping characters that returns are among, if line feeds are, skips the returns before the line feeds. -/
theorem dropWhile_withReturns {p : Char → Bool} (h : p '\r' = p '\n') (s : List Char) :
    (withReturns s).dropWhile p = withReturns (s.dropWhile p) := by
  induction s with
  | nil => rfl
  | cons c s ih =>
    by_cases hc : c = '\n'
    · subst hc
      rw [withReturns_feed]
      by_cases hp : p '\n' = true
      · rw [List.dropWhile_cons_of_pos (h.trans hp), List.dropWhile_cons_of_pos hp, ih, List.dropWhile_cons_of_pos hp]
      · rw [List.dropWhile_cons_of_neg (h ▸ hp), List.dropWhile_cons_of_neg hp, withReturns_feed]
    · rw [withReturns_cons hc]
      by_cases hp : p c = true
      · rw [List.dropWhile_cons_of_pos hp, ih, List.dropWhile_cons_of_pos hp]
      · rw [List.dropWhile_cons_of_neg hp, List.dropWhile_cons_of_neg hp, withReturns_cons hc]

theorem trimStart_withReturns (s : List Char) : trimStart (withReturns s) = withReturns (trimStart s) :=
  dropWhile_withReturns (by decide) s

/-- The first character of a text stays the first one, unless it is a line feed. -/
theorem withReturns_eq_cons_iff (hreturn : c ≠ '\r') : withReturns s = c :: t ↔ ∃ rest, s = c :: rest ∧ c ≠ '\n' ∧ t = withReturns rest := by
  cases s with
  | nil => simp [withReturns]
  | cons d s =>
    by_cases hd : d = '\n'
    · subst hd
      rw [withReturns_feed]
      constructor
      · intro h
        exact absurd (List.cons.inj h).1.symm hreturn
      · rintro ⟨rest, h, hc, -⟩
        exact absurd (List.cons.inj h).1.symm hc
    · rw [withReturns_cons hd]
      constructor
      · intro h
        obtain ⟨rfl, rfl⟩ := List.cons.inj h
        exact ⟨s, rfl, hd, rfl⟩
      · rintro ⟨rest, h, -, rfl⟩
        obtain ⟨rfl, rfl⟩ := List.cons.inj h
        rfl

/-- What a text opens with is what it opens with once it has returns, if there are neither line feeds nor returns in it. -/
theorem drop_withReturns {w : List Char} (hfeed : '\n' ∉ w) (hreturn : '\r' ∉ w) (s : List Char) :
    w.isPrefixOf (withReturns s) = w.isPrefixOf s ∧
      (w.isPrefixOf s = true → (withReturns s).drop w.length = withReturns (s.drop w.length)) := by
  induction w generalizing s with
  | nil => exact ⟨rfl, fun _ => rfl⟩
  | cons a w ih =>
    rw [List.mem_cons, not_or] at hfeed hreturn
    cases s with
    | nil => exact ⟨rfl, fun h => nomatch h⟩
    | cons c s =>
      obtain ⟨hopening, hdrop⟩ := ih hfeed.2 hreturn.2 s
      by_cases hc : c = '\n'
      · subst hc
        rw [withReturns_feed]
        have hnot : (a == '\n') = false := beq_false_of_ne (Ne.symm hfeed.1)
        have hnot' : (a == '\r') = false := beq_false_of_ne (Ne.symm hreturn.1)
        simp [List.isPrefixOf, hnot, hnot']
      · rw [withReturns_cons hc]
        simp only [List.isPrefixOf, hopening, Bool.and_eq_true, List.length_cons, List.drop_succ_cons]
        exact ⟨trivial, fun h => hdrop h.2⟩

end Text

namespace Template

/-! ## Braces -/

/-- Returns are no braces and change no position. -/
theorem scanBraces_withReturns (p : Position) (opened : List Position) (s : List Char) :
    scanBraces p opened (withReturns s) = scanBraces p opened s := by
  induction s generalizing p opened with
  | nil => rfl
  | cons c s ih =>
    by_cases hc : c = '\n'
    · subst hc
      rw [withReturns_feed]
      have hreturn : ∀ rest, scanBraces p opened ('\r' :: rest) = scanBraces (p.next '\r') opened rest := fun _ => rfl
      have hfeed : ∀ p rest, scanBraces p opened ('\n' :: rest) = scanBraces (p.next '\n') opened rest := fun _ _ => rfl
      rw [hreturn, hfeed, hfeed, ih]
      rfl
    · rw [withReturns_cons hc]
      unfold scanBraces
      simp only [ih]

/-! ## Declarations -/

theorem afterKeyword?_withReturns (s : List Char) : afterKeyword? (withReturns s) = (afterKeyword? s).map withReturns := by
  unfold afterKeyword?
  rw [trimStart_withReturns]
  obtain ⟨hopening, hdrop⟩ := drop_withReturns (w := keyword) (by decide) (by decide) (trimStart s)
  simp only [hopening]
  by_cases hopens : keyword.isPrefixOf (trimStart s) = true
  · rw [if_pos hopens, if_pos hopens, hdrop hopens]
    cases (trimStart s).drop keyword.length with
    | nil => rfl
    | cons c rest =>
      by_cases hc : c = '\n'
      · subst hc
        rw [withReturns_feed]
        have hfeed : isBlank '\n' = true := by decide
        have hreturn : isBlank '\r' = true := by decide
        simp only [hfeed, hreturn, if_true, Option.map_some, withReturns_feed]
      · rw [withReturns_cons hc]
        by_cases hblank : isBlank c = true
        · simp only [hblank, if_true, Option.map_some, withReturns_cons hc]
        · simp only [hblank, Option.map_none, Bool.false_eq_true, if_false]
  · rw [if_neg hopens, if_neg hopens, Option.map_none]

theorem afterClosing?_withReturns (s : List Char) : afterClosing? (withReturns s) = (afterClosing? s).map withReturns := by
  unfold afterClosing?
  rw [dropWhile_withReturns (by decide)]
  cases hrest : s.dropWhile (· ≠ ')') with
  | nil => rfl
  | cons c rest =>
    have hc : c = ')' := by
      have hhead := List.head?_dropWhile_not (· ≠ ')') s
      rw [hrest, List.head?_cons] at hhead
      simpa using hhead
    subst hc
    rw [withReturns_cons (by decide)]
    rfl

/-- A text opens with a parenthesis exactly if it does with returns. -/
theorem opens_withReturns (s : List Char) :
    (∃ rest, s = '(' :: rest ∧ withReturns s = '(' :: withReturns rest) ∨
      ((∀ rest, s ≠ '(' :: rest) ∧ ∀ rest, withReturns s ≠ '(' :: rest) := by
  by_cases h : ∃ rest, s = '(' :: rest
  · obtain ⟨rest, rfl⟩ := h
    exact Or.inl ⟨rest, rfl, withReturns_cons (by decide) rest⟩
  · refine Or.inr ⟨fun rest hs => h ⟨rest, hs⟩, fun rest hs => ?_⟩
    obtain ⟨inner, hinner, -⟩ := (withReturns_eq_cons_iff (by decide)).1 hs
    exact h ⟨inner, hinner⟩

theorem afterReceiver?_withReturns (s : List Char) : afterReceiver? (withReturns s) = (afterReceiver? s).map withReturns := by
  unfold afterReceiver?
  rw [trimStart_withReturns]
  rcases opens_withReturns (trimStart s) with ⟨rest, hs, hreturns⟩ | ⟨hs, hreturns⟩
  · rw [hreturns, hs]
    simp only [afterClosing?_withReturns, Option.map_map]
    exact congrArg (fun f => Option.map f (afterClosing? rest)) (funext trimStart_withReturns)
  · split
    · rename_i rest h
      exact absurd h (hreturns rest)
    · rfl

theorem afterIdentifier?_withReturns (s : List Char) :
    afterIdentifier? (withReturns s) = (afterIdentifier? s).map withReturns := by
  have hpart : isIdentifierPart '\r' = isIdentifierPart '\n' := by decide
  cases s with
  | nil => rfl
  | cons c s =>
    have hdrop := dropWhile_withReturns hpart (c :: s)
    by_cases hc : c = '\n'
    · subst hc
      rw [withReturns_feed]
      rfl
    · rw [withReturns_cons hc] at hdrop ⊢
      have hcons : ∀ rest, afterIdentifier? (c :: rest) =
          if isIdentifierStart c then some ((c :: rest).dropWhile isIdentifierPart) else none := fun _ => rfl
      rw [hcons, hcons, hdrop]
      split
      · rfl
      · rfl

theorem afterParameters?_withReturns (s : List Char) :
    afterParameters? (withReturns s) = (afterParameters? s).map withReturns := by
  unfold afterParameters?
  rw [trimStart_withReturns]
  rcases opens_withReturns (trimStart s) with ⟨rest, hs, hreturns⟩ | ⟨hs, hreturns⟩
  · rw [hreturns, hs]
    exact afterClosing?_withReturns rest
  · split
    · rename_i rest h
      exact absurd h (hreturns rest)
    · rfl

/-- A declaration is well formed with returns exactly if it is without them. -/
theorem opensDeclaration_withReturns (s : List Char) : opensDeclaration (withReturns s) = opensDeclaration s := by
  unfold opensDeclaration
  rw [afterKeyword?_withReturns]
  cases afterKeyword? s with
  | none => rfl
  | some s =>
    rw [Option.map_some, Option.bind_some, Option.bind_some, afterReceiver?_withReturns]
    cases afterReceiver? s with
    | none => rfl
    | some s =>
      rw [Option.map_some, Option.bind_some, Option.bind_some, afterIdentifier?_withReturns]
      cases afterIdentifier? s with
      | none => rfl
      | some s =>
        rw [Option.map_some, Option.bind_some, Option.bind_some, afterParameters?_withReturns]
        cases afterParameters? s with
        | none => rfl
        | some s =>
          simp only [Option.map_some, trimStart_withReturns]
          rw [Bool.eq_iff_iff, beq_iff_eq, beq_iff_eq, List.head?_eq_some_iff, List.head?_eq_some_iff]
          constructor
          · rintro ⟨rest, h⟩
            obtain ⟨inner, hinner, -⟩ := (withReturns_eq_cons_iff (by decide)).1 h
            exact ⟨inner, hinner⟩
          · rintro ⟨rest, h⟩
            exact ⟨_, (withReturns_eq_cons_iff (by decide)).2 ⟨rest, h, by decide, rfl⟩⟩

theorem firstLine_withReturns (s : List Char) : firstLine (withReturns s) = withReturns (firstLine s) := by
  induction s with
  | nil => rfl
  | cons c s ih =>
    by_cases hc : c = '\n'
    · subst hc
      rw [withReturns_feed]
      rfl
    · have hcons : ∀ rest, firstLine (c :: rest) = c :: firstLine rest := by
        intro rest
        unfold firstLine
        rw [List.takeWhile_cons_of_pos (by simpa using hc), List.dropWhile_cons_of_pos (by simpa using hc), List.cons_append]
      rw [withReturns_cons hc, hcons, hcons, withReturns_cons hc, ih]

theorem isMarker_withReturns (s : List Char) : isMarker (withReturns s) = isMarker s := by
  rw [isMarker, isMarker, firstLine_withReturns, afterKeyword?_withReturns, Option.isSome_map]

theorem fromLines_withReturns (number : Nat) (s : List Char) :
    fromLines number (withReturns s) = (fromLines number s).map fun entry => (entry.1, withReturns entry.2) := by
  have hgo : ∀ (number : Nat) (s : List Char), fromLines.go number (withReturns s) =
      (fromLines.go number s).map fun entry => (entry.1, withReturns entry.2) := by
    intro number s
    induction s generalizing number with
    | nil => rfl
    | cons c s ih =>
      by_cases hc : c = '\n'
      · subst hc
        have hreturn : ∀ rest, fromLines.go number ('\r' :: rest) = fromLines.go number rest := fun _ => rfl
        have hfeed : ∀ rest, fromLines.go number ('\n' :: rest) = (number + 1, rest) :: fromLines.go (number + 1) rest :=
          fun _ => rfl
        rw [withReturns_feed, hreturn, hfeed, hfeed, ih, List.map_cons]
      · rw [withReturns_cons hc, fromLines.go, fromLines.go, if_neg hc, if_neg hc, ih]
  rw [fromLines, fromLines, hgo, List.map_cons]

theorem markers_withReturns (s : List Char) :
    markers (withReturns s) = (markers s).map fun entry => (entry.1, withReturns entry.2) := by
  rw [markers, markers, fromLines_withReturns, List.filter_map]
  refine congrArg _ (List.filter_congr fun entry _ => ?_)
  exact isMarker_withReturns entry.2

theorem checkDeclarations_withReturns (s : List Char) : checkDeclarations (withReturns s) = checkDeclarations s := by
  unfold checkDeclarations
  rw [markers_withReturns]
  cases markers s with
  | nil => rfl
  | cons first others =>
    have hany : (((first :: others).map fun entry => (entry.1, withReturns entry.2)).any fun entry => opensDeclaration entry.2) =
        (first :: others).any fun entry => opensDeclaration entry.2 := by
      rw [List.any_map]
      simp only [Function.comp_def, opensDeclaration_withReturns]
    rw [List.map_cons] at hany ⊢
    simp only [hany]

/-- The outline of a template has the same error with returns, or none. -/
theorem outline_withReturns (s : List Char) : check (withReturns s) = check s := by
  unfold check checkBraces
  rw [scanBraces_withReturns, checkDeclarations_withReturns]

end Template

end ComponentAudit
