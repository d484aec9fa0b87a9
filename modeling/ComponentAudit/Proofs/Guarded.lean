import ComponentAudit.Proofs.Declarations
import ComponentAudit.Proofs.Indices
import ComponentAudit.Proofs.Moments
import ComponentAudit.Proofs.Places

/-!
# Steps that a machine would stop at

A machine holds a text as bytes and numbers in words. There, the text behind an index can be had only if the index is a boundary
(`Guarded.exists_behind_iff`), a difference only if it is not below nought, and a sum only if a word holds it. Here the checks of
templates and the places of files are computed once more as a machine does it, with indices of bytes and a guard before each such
step. No guard stops any of it: the results are those of the checks and places themselves, for every text, every index, line and
column, and for words of any size that hold one more than the number of bytes (`Guarded.nothing_stops`).
-/

namespace ComponentAudit

open Text

/-! ## What the reader of templates goes through -/

namespace Template

section Suffixes

variable {s rest : List Char}

theorem Follows.suffix {l : Language Char} (h : Follows l s rest) : rest <:+ s := by
  obtain ⟨w, -, rfl⟩ := h
  exact List.suffix_append _ _

theorem suffix_of_afterClosing? (h : afterClosing? s = some rest) : rest <:+ s := by
  obtain ⟨inner, -, rfl⟩ := afterClosing?_eq_some_iff.1 h
  exact ⟨inner ++ [')'], by simp⟩

theorem suffix_of_afterReceiver? (h : afterReceiver? s = some rest) : rest <:+ s := by
  have htrim : trimStart s <:+ s := List.dropWhile_suffix _
  rw [afterReceiver?] at h
  split at h
  · rename_i tail hs
    obtain ⟨after, hafter, rfl⟩ := Option.map_eq_some_iff.1 h
    have htail : tail <:+ trimStart s := hs ▸ List.suffix_cons _ _
    exact (List.dropWhile_suffix _).trans ((suffix_of_afterClosing? hafter).trans (htail.trans htrim))
  · exact Option.some.inj h ▸ htrim

end Suffixes

/-- The lines of a text with the line feeds that end them. Nothing is a line behind the last line feed of the text. -/
def fullLines : List Char → List (List Char)
  | [] => []
  | c :: rest =>
    if c = '\n' then [c] :: fullLines rest
    else match fullLines rest with
      | [] => [[c]]
      | line :: others => (c :: line) :: others

/-- The lines of a text that open with the keyword, numbered from a number on, each with the text from its start on. -/
def markersFrom (number : Nat) (s : List Char) : List (Nat × List Char) :=
  (fromLines number s).filter fun entry => isMarker entry.2

/-- What the check of declarations says of markers, where the number of an earlier one may be known. -/
def verdict (first : Option Nat) (markers : List (Nat × List Char)) : Except OutlineError Unit :=
  if markers.any fun entry => opensDeclaration entry.2 then .ok ()
  else match first.or (markers.head?.map (·.1)) with
    | none => .ok ()
    | some number => .error (.invalidDeclaration number)

theorem checkDeclarations_eq_verdict (s : List Char) : checkDeclarations s = verdict none (markersFrom 1 s) := by
  have hmarkers : markers s = markersFrom 1 s := rfl
  rw [checkDeclarations, hmarkers, verdict]
  cases markersFrom 1 s with
  | nil => rfl
  | cons first others => rfl

/-- A marker without a declaration leaves it to the later ones, and its number counts if it is the first. -/
theorem verdict_cons (first : Option Nat) (number : Nat) (s : List Char) (others : List (Nat × List Char)) :
    verdict first ((number, s) :: others) =
      if opensDeclaration s then .ok () else verdict (some (first.getD number)) others := by
  rw [verdict, verdict, List.any_cons]
  cases opensDeclaration s with
  | true => rfl
  | false =>
    cases first with
    | none => rfl
    | some earlier => rfl

/-- A text that is not empty is its first line and what follows, for its lines and for the markers behind the first line. -/
theorem exists_fullLines_cons {s : List Char} (hs : s ≠ []) : ∃ rest, s = firstLine s ++ rest ∧ firstLine s ≠ [] ∧
    fullLines s = firstLine s :: fullLines rest ∧
    ∀ number, (fromLines.go number s).filter (fun entry => isMarker entry.2) = markersFrom (number + 1) rest := by
  induction s with
  | nil => exact absurd rfl hs
  | cons c tail ih =>
    by_cases hc : c = '\n'
    · subst hc
      exact ⟨tail, rfl, List.cons_ne_nil _ _, rfl, fun number => rfl⟩
    · have hfirst : firstLine (c :: tail) = c :: firstLine tail := by
        rw [firstLine, firstLine, List.takeWhile_cons_of_pos (by simpa using hc),
          List.dropWhile_cons_of_pos (by simpa using hc), List.cons_append]
      have hgo (number : Nat) : fromLines.go number (c :: tail) = fromLines.go number tail := if_neg hc
      rw [hfirst, fullLines, if_neg hc]
      simp only [hgo]
      cases tail with
      | nil => exact ⟨[], rfl, List.cons_ne_nil _ _, rfl, fun number => rfl⟩
      | cons d tail =>
        obtain ⟨rest, htail, -, hlines, hmarkers⟩ := ih (List.cons_ne_nil _ _)
        refine ⟨rest, congrArg (c :: ·) htail, List.cons_ne_nil _ _, ?_, hmarkers⟩
        rw [hlines]

end Template

namespace Guarded

open Template (OutlineError fullLines markersFrom verdict)

/-! ## Guarded steps -/

/-- What a machine stops at. -/
inductive Trap where
  /-- No word holds a sum. -/
  | overflow
  /-- A difference is below nought. -/
  | underflow
  /-- There is no boundary at an index. -/
  | noBoundary (index : Nat)
  deriving Repr, DecidableEq

/-- A sum that a word has to hold. -/
def sum (largest a b : Nat) : Except Trap Nat :=
  if a + b ≤ largest then .ok (a + b) else .error .overflow

/-- A difference that is not below nought. -/
def difference (a b : Nat) : Except Trap Nat :=
  if b ≤ a then .ok (a - b) else .error .underflow

/-- The text from an index on. -/
def behind (index : Nat) (s : List Char) : Except Trap (List Char) :=
  match dropBytes? index s with
  | some rest => .ok rest
  | none => .error (.noBoundary index)

/-- The bytes before an index. -/
def bytesBefore (index : Nat) (bytes : List UInt8) : Except Trap (List UInt8) :=
  if index ≤ bytes.length then .ok (bytes.take index) else .error (.noBoundary index)

/-- The index behind the last entry of a kind, which takes up one; where there is none, that of the start. -/
def indexBehindLast {α : Type} (largest : Nat) (size : α → Nat) (p : α → Bool) (s : List α) : Except Trap Nat :=
  match lastIndex? size p s with
  | some i => sum largest i 1
  | none => .ok 0

section Steps

variable {largest a b index : Nat} {s : List Char}

theorem sum_eq_ok (h : a + b ≤ largest) : sum largest a b = .ok (a + b) :=
  if_pos h

theorem difference_eq_ok (h : b ≤ a) : difference a b = .ok (a - b) :=
  if_pos h

theorem behind_append (before after : List Char) : behind (byteLength before) (before ++ after) = .ok after := by
  rw [behind, dropBytes?_eq_some_iff.2 ⟨before, rfl, rfl⟩]

/-- There is a text behind an index exactly if the index is a boundary. -/
theorem exists_behind_iff : (∃ rest, behind index s = .ok rest) ↔ IsBoundary s index := by
  constructor
  · rintro ⟨rest, h⟩
    rw [behind] at h
    split at h
    · rename_i hdrop
      obtain ⟨before, hs, hindex⟩ := dropBytes?_eq_some_iff.1 hdrop
      exact ⟨before, _, hs, hindex⟩
    · cases h
  · rintro ⟨before, after, rfl, rfl⟩
    exact ⟨after, behind_append before after⟩

/-- The second byte of a character is no boundary. -/
example : behind 1 ['é', '\x7d'] = .error (.noBoundary 1) := by
  rw [behind, dropBytes?_eq_map, takeBytes?_eq_none _ (by decide) (by decide)]
  rfl

/-- Behind the last entry of a kind stand the entries of other kinds at the end. -/
theorem exists_indexBehindLast {α : Type} {size : α → Nat} {p : α → Bool} {s : List α} (hsize : ∀ x, p x = true → size x = 1)
    (h : room size s ≤ largest) :
    ∃ front, s = front ++ s.rtakeWhile (fun x => !p x) ∧ indexBehindLast largest size p s = .ok (room size front) := by
  have hs : (s.rdropWhile fun x => !p x) ++ s.rtakeWhile (fun x => !p x) = s := List.rdropWhile_append_rtakeWhile
  have hback : ∀ y ∈ s.rtakeWhile fun x => !p x, p y = false := fun y hy => by simpa using List.mem_rtakeWhile_imp hy
  have hlast : ∀ hne, ¬(!p ((s.rdropWhile fun x => !p x).getLast hne)) = true := List.rdropWhile_last_not _ s
  refine ⟨s.rdropWhile fun x => !p x, hs.symm, ?_⟩
  -- What is in front is empty, or it ends with the last entry of the kind.
  generalize s.rdropWhile (fun x => !p x) = front at hs hlast ⊢
  generalize s.rtakeWhile (fun x => !p x) = back at hs hback
  subst hs
  rw [indexBehindLast]
  rcases List.eq_nil_or_concat' front with rfl | ⟨before, x, rfl⟩
  · rw [List.nil_append, lastIndex?_eq_none hback]
    rfl
  · have hx : p x = true := by simpa using hlast (by simp)
    have hroom : room size (before ++ [x]) = room size before + 1 := by
      rw [room_append, room_cons, hsize x hx]
      rfl
    rw [room_append, hroom] at h
    rw [List.append_assoc, List.singleton_append, lastIndex?_append_cons hx hback, hroom]
    exact sum_eq_ok (by omega)

end Steps

/-! ## The outline of templates -/

section Outline

variable (largest : Nat)

/-- What follows the first closing parenthesis. -/
def afterClosing? (s : List Char) : Except Trap (Option (List Char)) :=
  match firstIndex? Char.utf8Size (· = ')') s with
  | none => return none
  | some i => do
    let next ← sum largest i 1
    return some (← behind next s)

/-- What follows a receiver in parentheses, if there is one; white space around it apart. -/
def afterReceiver? (s : List Char) : Except Trap (Option (List Char)) :=
  let s := trimStart s
  if s.head? = some '(' then return (← afterClosing? largest s).map trimStart
  else return some s

/-- What follows an identifier, which goes on to the first character that may not stand in it, or to the end. -/
def afterIdentifier? (s : List Char) : Except Trap (Option (List Char)) :=
  if s.head?.any Template.isIdentifierStart then
    let next := (firstIndex? Char.utf8Size (fun c => !Template.isIdentifierPart c) s).getD (byteLength s)
    return some (← behind next s)
  else return none

/-- What follows a parameter list in parentheses. -/
def afterParameters? (s : List Char) : Except Trap (Option (List Char)) :=
  match trimStart s with
  | '(' :: rest => afterClosing? largest rest
  | _ => return none

/-- Whether a text starts with a well-formed declaration. -/
def opensDeclaration (s : List Char) : Except Trap Bool := do
  let some rest := Template.afterKeyword? s | return false
  let some rest ← afterReceiver? largest rest | return false
  let some rest ← afterIdentifier? rest | return false
  let some rest ← afterParameters? largest rest | return false
  return (trimStart rest).head? == some '{'

/-- Goes through lines of a text, with the number of lines before them, the index where they start, and the number of the first
line that opened with the keyword. Where one does, the text from its start on is cut out. -/
def readMarkers (s : List Char) : Nat → Nat → Option Nat → List (List Char) → Except Trap (Except OutlineError Unit)
  | _, _, none, [] => return .ok ()
  | _, _, some number, [] => return .error (.invalidDeclaration number)
  | i, index, first, line :: others => do
    let next ← sum largest index (byteLength line)
    if (Template.afterKeyword? line).isSome then
      if ← opensDeclaration largest (← behind index s) then return .ok ()
      else
        let number ← sum largest i 1
        readMarkers s (i + 1) next (some (first.getD number)) others
    else readMarkers s (i + 1) next first others

/-- Where there are declarations, one has to be well formed. -/
def checkDeclarations (s : List Char) : Except Trap (Except OutlineError Unit) :=
  readMarkers largest s 0 0 none (fullLines s)

/-- The position after a character. -/
def next (p : Position) (c : Char) : Except Trap Position :=
  if c = '\n' then return ⟨← sum largest p.line 1, 1⟩
  else return ⟨p.line, ← sum largest p.column 1⟩

/-- Reads braces from a position on, with the positions of those that are open, innermost first. -/
def scanBraces : Position → List Position → List Char → Except Trap (Except OutlineError Unit)
  | _, opened, [] =>
    match opened.getLast? with
    | none => return .ok ()
    | some outermost => return .error (.unbalancedOpening opened.length outermost)
  | p, opened, c :: rest =>
    if c = '{' then do scanBraces (← next largest p c) (p :: opened) rest
    else if c = '}' then
      match opened with
      | [] => return .error (.unbalancedClosing p)
      | _ :: outer => do scanBraces (← next largest p c) outer rest
    else do scanBraces (← next largest p c) opened rest

/-- Every closing brace has to have a partner before it, and every opening one a partner after it. -/
def checkBraces (s : List Char) : Except Trap (Except OutlineError Unit) :=
  scanBraces largest .start [] s

/-- Both checks; the first error counts. -/
def check (s : List Char) : Except Trap (Except OutlineError Unit) := do
  match ← checkBraces largest s with
  | .error e => return .error e
  | .ok () => checkDeclarations largest s

variable {largest} {s : List Char}

/-- The parenthesis is found at a boundary, and what follows it starts at one. -/
theorem afterClosing?_eq (h : byteLength s < largest) : afterClosing? largest s = .ok (Template.afterClosing? s) := by
  cases hclosing : Template.afterClosing? s with
  | none =>
    have hnone : ∀ c ∈ s, decide (c = ')') = false := by
      intro c hc
      refine decide_eq_false ?_
      rintro rfl
      obtain ⟨inner, rest, rfl, hinner⟩ := List.eq_append_cons_of_mem hc
      rw [Template.afterClosing?_eq_some_iff.2 ⟨inner, hinner, rfl⟩] at hclosing
      cases hclosing
    rw [afterClosing?, firstIndex?_eq_none hnone]
    rfl
  | some rest =>
    obtain ⟨inner, hinner, rfl⟩ := Template.afterClosing?_eq_some_iff.1 hclosing
    have hfirst : ∀ c ∈ inner, decide (c = ')') = false :=
      fun c hc => decide_eq_false fun heq => hinner (heq ▸ hc)
    have hbytes : byteLength (inner ++ [')']) = byteLength inner + 1 := byteLength_append _ _
    have hbehind : behind (byteLength inner + 1) (inner ++ ')' :: rest) = .ok rest := by
      have hs := behind_append (inner ++ [')']) rest
      rwa [hbytes, List.append_assoc, List.singleton_append] at hs
    have hnext : sum largest (byteLength inner) 1 = .ok (byteLength inner + 1) := by
      rw [byteLength_append, byteLength_cons] at h
      exact sum_eq_ok (by omega)
    rw [afterClosing?, firstIndex?_append_cons hfirst (decide_eq_true rfl), room_utf8Size]
    simp only [hnext, hbehind, ok_bind]
    rfl

theorem afterReceiver?_eq (h : byteLength s < largest) : afterReceiver? largest s = .ok (Template.afterReceiver? s) := by
  have hlength : byteLength (trimStart s) < largest :=
    Nat.lt_of_le_of_lt (byteLength_le_of_suffix (List.dropWhile_suffix _)) h
  unfold afterReceiver? Template.afterReceiver?
  simp only
  split
  · rename_i hhead
    obtain ⟨tail, hs⟩ := List.head?_eq_some_iff.1 hhead
    rw [afterClosing?_eq hlength, ok_bind, hs]
    rfl
  · rename_i hhead
    split
    · rename_i hs
      exact absurd (hs ▸ rfl) hhead
    · rfl

/-- An identifier ends at a boundary, also where the text does. -/
theorem afterIdentifier?_eq (s : List Char) : afterIdentifier? s = .ok (Template.afterIdentifier? s) := by
  cases s with
  | nil => rfl
  | cons c rest =>
    have hbehind : behind (byteLength ((c :: rest).takeWhile Template.isIdentifierPart)) (c :: rest) =
        .ok ((c :: rest).dropWhile Template.isIdentifierPart) := by
      have hs := behind_append ((c :: rest).takeWhile Template.isIdentifierPart)
        ((c :: rest).dropWhile Template.isIdentifierPart)
      rwa [List.takeWhile_append_dropWhile] at hs
    rw [afterIdentifier?, Template.afterIdentifier?, List.head?_cons, Option.any_some]
    split
    · rw [← room_utf8Size, getD_firstIndex?, room_utf8Size]
      simp only [hbehind, ok_bind]
      rfl
    · rfl

theorem afterParameters?_eq (h : byteLength s < largest) :
    afterParameters? largest s = .ok (Template.afterParameters? s) := by
  by_cases hopens : ∃ rest, trimStart s = '(' :: rest
  · obtain ⟨rest, hs⟩ := hopens
    have hrest : rest <:+ s := (hs ▸ List.suffix_cons _ _ : rest <:+ trimStart s).trans (List.dropWhile_suffix _)
    rw [afterParameters?, Template.afterParameters?, hs]
    exact afterClosing?_eq (Nat.lt_of_le_of_lt (byteLength_le_of_suffix hrest) h)
  · have hnone : Template.afterParameters? s = none := by
      rw [Template.afterParameters?]
      split
      · rename_i rest hs
        exact absurd ⟨rest, hs⟩ hopens
      · rfl
    rw [hnone, afterParameters?]
    split
    · rename_i rest hs
      exact absurd ⟨rest, hs⟩ hopens
    · rfl

/-- Each step leaves a part of the text for the next one. -/
theorem opensDeclaration_eq (h : byteLength s < largest) :
    opensDeclaration largest s = .ok (Template.opensDeclaration s) := by
  have fits {rest : List Char} (hrest : rest <:+ s) : byteLength rest < largest :=
    Nat.lt_of_le_of_lt (byteLength_le_of_suffix hrest) h
  unfold opensDeclaration Template.opensDeclaration
  cases hkeyword : Template.afterKeyword? s with
  | none => rfl
  | some afterKeyword =>
    have hafterKeyword : afterKeyword <:+ s := (Template.afterKeyword?_eq_some_iff.1 hkeyword).1.suffix
    simp only [afterReceiver?_eq (fits hafterKeyword), ok_bind, Option.bind_some]
    cases hreceiver : Template.afterReceiver? afterKeyword with
    | none => rfl
    | some afterReceiver =>
      have hafterReceiver : afterReceiver <:+ s := (Template.suffix_of_afterReceiver? hreceiver).trans hafterKeyword
      simp only [afterIdentifier?_eq, ok_bind, Option.bind_some]
      cases hidentifier : Template.afterIdentifier? afterReceiver with
      | none => rfl
      | some afterIdentifier =>
        have hafterIdentifier : afterIdentifier <:+ s :=
          (Template.afterIdentifier?_eq_some_iff.1 hidentifier).1.suffix.trans hafterReceiver
        simp only [afterParameters?_eq (fits hafterIdentifier), ok_bind, Option.bind_some]
        cases Template.afterParameters? afterIdentifier with
        | none => rfl
        | some afterParameters => rfl

/-- The rest of a text is read from its lines, and each marker among them at the index where the line starts. -/
theorem readMarkers_eq {content before : List Char} {i : Nat} (hcontent : content = before ++ s)
    (hlargest : byteLength content < largest) (hi : i ≤ byteLength before) (first : Option Nat) :
    readMarkers largest content i (byteLength before) first (fullLines s) = .ok (verdict first (markersFrom (i + 1) s)) := by
  -- By the lines that are left. The text before them has their index, and no more lines than bytes.
  induction hlines : fullLines s generalizing s before i first with
  | nil =>
    have hs : s = [] := by
      by_contra hs
      obtain ⟨rest, -, -, hcons, -⟩ := Template.exists_fullLines_cons hs
      rw [hcons] at hlines
      cases hlines
    subst hs
    cases first with
    | none => rfl
    | some number => rfl
  | cons line others ih =>
    have hs : s ≠ [] := by
      rintro rfl
      cases hlines
    obtain ⟨rest, hrest, hline, hcons, hmarkers⟩ := Template.exists_fullLines_cons hs
    rw [hcons] at hlines
    obtain ⟨rfl, rfl⟩ := List.cons.inj hlines
    have hlater : content = before ++ Template.firstLine s ++ rest := by rw [hcontent, List.append_assoc, ← hrest]
    have hlength : byteLength content = byteLength (before ++ Template.firstLine s) + byteLength rest := by
      rw [hlater, byteLength_append]
    have hpos : 1 ≤ byteLength (Template.firstLine s) :=
      Nat.le_trans (List.length_pos_of_ne_nil hline) (length_le_byteLength _)
    have hindex : byteLength (before ++ Template.firstLine s) = byteLength before + byteLength (Template.firstLine s) :=
      byteLength_append _ _
    have hnext : sum largest (byteLength before) (byteLength (Template.firstLine s)) =
        .ok (byteLength (before ++ Template.firstLine s)) := by
      rw [hindex]
      exact sum_eq_ok (by omega)
    have hnumber : sum largest i 1 = .ok (i + 1) := sum_eq_ok (by omega)
    have hbehind : behind (byteLength before) content = .ok s := hcontent ▸ behind_append before s
    have hopens : opensDeclaration largest s = .ok (Template.opensDeclaration s) :=
      opensDeclaration_eq (Nat.lt_of_le_of_lt (byteLength_le_of_suffix ⟨before, hcontent.symm⟩) hlargest)
    have hothers (first : Option Nat) := ih hlater (i := i + 1) (by omega) first rfl
    have hmarker : Template.isMarker s = (Template.afterKeyword? (Template.firstLine s)).isSome := rfl
    rw [readMarkers, markersFrom, Template.fromLines, List.filter_cons, hmarkers, hmarker]
    simp only [hnext, hbehind, hopens, hnumber, ok_bind, hothers]
    split
    · rw [Template.verdict_cons]
      split
      · rfl
      · rfl
    · rfl

theorem checkDeclarations_eq (h : byteLength s < largest) :
    checkDeclarations largest s = .ok (Template.checkDeclarations s) := by
  rw [checkDeclarations, Template.checkDeclarations_eq_verdict]
  have hcontent : s = [] ++ s := rfl
  exact readMarkers_eq hcontent h (Nat.le_refl _) none

theorem next_eq {p : Position} (c : Char) (hline : p.line < largest) (hcolumn : p.column < largest) :
    next largest p c = .ok (p.next c) := by
  unfold next Position.next
  split
  · rw [sum_eq_ok hline]
    rfl
  · rw [sum_eq_ok hcolumn]
    rfl

/-- Lines and columns grow by one with each character at most. -/
theorem scanBraces_eq {p : Position} (opened : List Position) (hline : p.line + s.length ≤ largest)
    (hcolumn : p.column + s.length ≤ largest) :
    scanBraces largest p opened s = .ok (Template.scanBraces p opened s) := by
  induction s generalizing p opened with
  | nil =>
    rw [scanBraces, Template.scanBraces]
    cases opened.getLast? with
    | none => rfl
    | some outermost => rfl
  | cons c s ih =>
    rw [List.length_cons] at hline hcolumn
    have hnext : next largest p c = .ok (p.next c) := next_eq c (by omega) (by omega)
    have hposition : (p.next c).line + s.length ≤ largest ∧ (p.next c).column + s.length ≤ largest := by
      unfold Position.next
      split
      · exact ⟨by simp only; omega, by simp only; omega⟩
      · exact ⟨by simp only; omega, by simp only; omega⟩
    have hlater (opened : List Position) := ih (p := p.next c) opened hposition.1 hposition.2
    unfold scanBraces Template.scanBraces
    simp only [hnext, ok_bind, hlater]
    split
    · rfl
    · split
      · cases opened with
        | nil => rfl
        | cons innermost outer => rfl
      · rfl

theorem checkBraces_eq (h : byteLength s < largest) : checkBraces largest s = .ok (Template.checkBraces s) := by
  have hlength : s.length ≤ byteLength s := length_le_byteLength s
  have hstart : Position.start = ⟨1, 1⟩ := rfl
  exact scanBraces_eq [] (by simp only [hstart]; omega) (by simp only [hstart]; omega)

theorem check_eq (h : byteLength s < largest) : check largest s = .ok (Template.check s) := by
  rw [check, Template.check, checkBraces_eq h, ok_bind]
  cases Template.checkBraces s with
  | error e => rfl
  | ok u => exact checkDeclarations_eq h

end Outline

/-! ## Places -/

section Places

variable (largest : Nat)

/-- Numbers lines, with the number of lines before them and the index where they start. -/
def numberLines : Nat → Nat → List (List Char) → Except Trap (List Line)
  | _, _, [] => return []
  | i, index, line :: others => do
    let next ← sum largest index (← sum largest (byteLength line) 1)
    let number ← sum largest i 1
    return ⟨number, index, line⟩ :: (← numberLines (i + 1) next others)

/-- The lines of a file. -/
def lines (f : SourceFile) : Except Trap (List Line) :=
  numberLines largest 0 0 (Text.lines f.content)

/-- The place of the character at a line and a column; where there is none, the span is empty. All lines are numbered, also those
behind the one that is asked for. -/
def point (f : SourceFile) (line column : Nat) : Except Trap Location := do
  let some l := (← lines largest f).find? fun l => l.number = line | return f.location line column
  let some (index, size) := SourceFile.charSpan? l.text (column - 1) | return f.location line column
  return { f.location line column with offset := ← sum largest l.offset index, length := size }

/-- The place of a span of bytes. -/
def locate (f : SourceFile) (offset length : Nat) : Except Trap Location := do
  let offset := min offset (byteLength f.content)
  let before := (takeBytes? offset f.content).getD f.content
  let line ← sum largest (before.count '\n') 1
  let lineStart ← indexBehindLast largest Char.utf8Size (· = '\n') before
  let column ← sum largest (← behind lineStart before).length 1
  return { f.location line column with offset, length }

/-- The failure of bytes of which the first `valid` are UTF-8. -/
def ofBytes (bytes : List UInt8) (valid : Nat) : Except Trap SyntaxFailure := do
  let before ← bytesBefore (min valid bytes.length) bytes
  let line ← sum largest (before.count 10) 1
  let lineStart ← indexBehindLast largest (fun _ => 1) (· = 10) before
  let column ← sum largest (← difference before.length lineStart) 1
  return .encoding line column

/-- The diagnostic of an issue over a text; its span is cut to the text. -/
def ofIssue (i : Issue) (content : List Char) : Except Trap Diagnostic := do
  let size := byteLength content
  let offset := min i.location.offset size
  let left ← difference size offset
  return {
    text := s!"[{i.ruleId}] {i.message}"
    help := i.suggestedFix
    file := i.location.file.text
    content
    label := { text := i.severity.name, offset, length := min i.location.length left } }

variable {largest} {f : SourceFile}

/-- There are no more lines than bytes before an index, and a word holds the index of the end. -/
theorem numberLines_eq {i index : Nat} {parts : List (List Char)} (hi : i ≤ index)
    (hbound : index + room (fun part => byteLength part + 1) parts ≤ largest) :
    numberLines largest i index parts = .ok (Text.numberLines (i + 1) index parts) := by
  induction parts generalizing i index with
  | nil => rfl
  | cons part others ih =>
    rw [room_cons] at hbound
    have hsize : sum largest (byteLength part) 1 = .ok (byteLength part + 1) := sum_eq_ok (by omega)
    have hnext : sum largest index (byteLength part + 1) = .ok (index + byteLength part + 1) := sum_eq_ok (by omega)
    have hnumber : sum largest i 1 = .ok (i + 1) := sum_eq_ok (by omega)
    have hothers : numberLines largest (i + 1) (index + byteLength part + 1) others =
        .ok (Text.numberLines (i + 1 + 1) (index + byteLength part + 1) others) := ih (by omega) (by omega)
    rw [numberLines, Text.numberLines]
    simp only [hsize, hnext, hnumber, hothers, ok_bind]
    rfl

theorem lines_eq (h : byteLength f.content < largest) : lines largest f = .ok f.lines := by
  refine numberLines_eq (Nat.le_refl 0) ?_
  rw [room_lines, Nat.zero_add]
  exact h

/-- A line and the line feed after it end in the text, or one byte behind it where there is no line feed. -/
theorem bound_of_mem_lines {l : Line} (h : l ∈ f.lines) : l.offset + (byteLength l.text + 1) ≤ byteLength f.content + 1 := by
  obtain ⟨before, after, hstands⟩ := Line.standsIn_of_mem h
  rw [hstands.content, hstands.offset, byteLength_append, byteLength_append]
  omega

theorem point_eq (h : byteLength f.content < largest) (line column : Nat) :
    point largest f line column = .ok (f.point line column) := by
  rw [point, SourceFile.point, SourceFile.pointSpan?]
  simp only [lines_eq h, ok_bind]
  cases hfind : f.lines.find? fun l => l.number = line with
  | none => rfl
  | some l =>
    simp only [Option.bind_some]
    cases hspan : SourceFile.charSpan? l.text (column - 1) with
    | none => rfl
    | some span =>
      obtain ⟨index, size⟩ := span
      obtain ⟨before, c, after, htext, -, rfl, -⟩ := SourceFile.charSpan?_eq_some_iff.1 hspan
      have hline := bound_of_mem_lines (List.mem_of_find?_eq_some hfind)
      rw [htext, byteLength_append] at hline
      have hoffset : sum largest l.offset (byteLength before) = .ok (l.offset + byteLength before) := sum_eq_ok (by omega)
      simp only [hoffset, ok_bind]
      rfl

/-- The line of an offset starts at a boundary, also where the offset is none. -/
theorem locate_eq (h : byteLength f.content < largest) (offset length : Nat) :
    locate largest f offset length = .ok (f.locate offset length) := by
  rw [locate, SourceFile.locate]
  simp only
  have hbefore : byteLength ((takeBytes? (min offset (byteLength f.content)) f.content).getD f.content) ≤
      byteLength f.content := by
    cases htake : takeBytes? (min offset (byteLength f.content)) f.content with
    | none => exact Nat.le_refl _
    | some before =>
      obtain ⟨after, hcontent, -⟩ := takeBytes?_eq_some_iff.1 htake
      rw [hcontent, byteLength_append]
      exact Nat.le_add_right _ _
  generalize (takeBytes? (min offset (byteLength f.content)) f.content).getD f.content = before at hbefore ⊢
  have hlength : before.length ≤ byteLength before := length_le_byteLength before
  have hline : sum largest (before.count '\n') 1 = .ok (before.count '\n' + 1) := by
    have hcount : before.count '\n' ≤ before.length := List.count_le_length
    exact sum_eq_ok (by omega)
  have hroom : room Char.utf8Size before ≤ largest := by
    rw [room_utf8Size]
    omega
  have hfeed (c : Char) (hc : decide (c = '\n') = true) : c.utf8Size = 1 := of_decide_eq_true hc ▸ rfl
  obtain ⟨front, hs, hstart⟩ := exists_indexBehindLast hfeed hroom
  rw [room_utf8Size] at hstart
  have hbehind : behind (byteLength front) before = .ok (before.rtakeWhile fun c => !decide (c = '\n')) := by
    conv_lhs => rw [hs]
    exact behind_append _ _
  have hcolumn : sum largest (before.rtakeWhile fun c => !decide (c = '\n')).length 1 =
      .ok ((before.rtakeWhile fun c => !decide (c = '\n')).length + 1) := by
    have hle := (List.rtakeWhile_suffix (fun c => !decide (c = '\n')) before).length_le
    exact sum_eq_ok (by omega)
  have hposition : (Position.start.advance before).line = before.count '\n' + 1 ∧
      (Position.start.advance before).column = (before.rtakeWhile fun c => !decide (c = '\n')).length + 1 := by
    rw [line_advance, column_advance_start]
    simp only [ne_eq, decide_not, and_true]
    exact Nat.add_comm 1 _
  simp only [hline, hstart, hbehind, hcolumn, hposition, ok_bind]
  rfl

/-- The line of a byte starts before it. -/
theorem ofBytes_eq {bytes : List UInt8} (h : bytes.length < largest) (valid : Nat) :
    ofBytes largest bytes valid = .ok (SyntaxFailure.ofBytes bytes valid) := by
  have hbytes : bytesBefore (min valid bytes.length) bytes = .ok (bytes.take valid) := by
    rw [bytesBefore, if_pos (Nat.min_le_right _ _), ← List.take_eq_take_min]
  have hlength : (bytes.take valid).length ≤ bytes.length := List.length_take_le' _ _
  rw [ofBytes, SyntaxFailure.ofBytes]
  simp only [hbytes, ok_bind]
  generalize bytes.take valid = before at hlength ⊢
  have hline : sum largest (before.count 10) 1 = .ok (before.count 10 + 1) := by
    have hcount : before.count 10 ≤ before.length := List.count_le_length
    exact sum_eq_ok (by omega)
  have hroom : room (fun _ => 1) before ≤ largest := by
    rw [room_one]
    omega
  obtain ⟨front, hs, hstart⟩ := exists_indexBehindLast (p := fun b : UInt8 => b = 10) (fun _ _ => rfl) hroom
  rw [room_one] at hstart
  have hsizes := congrArg List.length hs
  rw [List.length_append] at hsizes
  have hrest : difference before.length front.length = .ok (before.rtakeWhile fun b => !decide (b = 10)).length := by
    rw [difference_eq_ok (by omega)]
    exact congrArg Except.ok (by omega)
  have hcolumn : sum largest (before.rtakeWhile fun b => !decide (b = 10)).length 1 =
      .ok ((before.rtakeWhile fun b => !decide (b = 10)).length + 1) := sum_eq_ok (by omega)
  have hreverse : (before.reverse.takeWhile (· ≠ 10)).length = (before.rtakeWhile fun b => !decide (b = 10)).length := by
    simp only [List.rtakeWhile, List.length_reverse, ne_eq, decide_not]
  simp only [hline, hstart, hrest, hcolumn, hreverse, ok_bind]
  rfl

theorem ofIssue_eq (i : Issue) (content : List Char) : ofIssue i content = .ok (Diagnostic.ofIssue i content) := by
  have hleft : difference (byteLength content) (min i.location.offset (byteLength content)) =
      .ok (byteLength content - min i.location.offset (byteLength content)) := difference_eq_ok (Nat.min_le_right _ _)
  rw [ofIssue]
  simp only [hleft, ok_bind]
  rfl

end Places

/-- No guard stops anything. A text can be cut at its boundaries only, and a word may hold no more than one more than the number
of bytes. Still the checks of templates come to their results, one by one and together, and so do the numbered lines of a file,
whose running index is never larger than that; the place of any line and column, of any offset and length, and of the first bad
byte, whatever number of bytes is said to come before it; and the diagnostic of any issue, whose span lies in the text. -/
theorem nothing_stops {largest : Nat} (f : SourceFile) (bytes : List UInt8) (i : Issue)
    (hcontent : byteLength f.content < largest) (hbytes : bytes.length < largest) :
    (∀ index s, (∃ rest, behind index s = .ok rest) ↔ IsBoundary s index) ∧
    (checkBraces largest f.content = .ok (Template.checkBraces f.content) ∧
      opensDeclaration largest f.content = .ok (Template.opensDeclaration f.content) ∧
      checkDeclarations largest f.content = .ok (Template.checkDeclarations f.content) ∧
      check largest f.content = .ok (Template.check f.content)) ∧
    (lines largest f = .ok f.lines ∧
      ∀ l ∈ f.lines, l.offset + (byteLength l.text + 1) ≤ byteLength f.content + 1) ∧
    (∀ line column, point largest f line column = .ok (f.point line column)) ∧
    (∀ offset length, locate largest f offset length = .ok (f.locate offset length)) ∧
    (∀ valid, ofBytes largest bytes valid = .ok (SyntaxFailure.ofBytes bytes valid)) ∧
    ofIssue i f.content = .ok (Diagnostic.ofIssue i f.content) ∧
      (Diagnostic.ofIssue i f.content).label.offset + (Diagnostic.ofIssue i f.content).label.length ≤
        byteLength f.content := by
  refine ⟨fun index s => exists_behind_iff, ⟨checkBraces_eq hcontent, opensDeclaration_eq hcontent,
    checkDeclarations_eq hcontent, check_eq hcontent⟩, ⟨lines_eq hcontent, fun l hl => bound_of_mem_lines hl⟩,
    point_eq hcontent, locate_eq hcontent, ofBytes_eq hbytes, ofIssue_eq i f.content, ?_⟩
  simp only [Diagnostic.ofIssue]
  omega

/-- A template with a receiver, a declaration over two lines and characters of two bytes. -/
def receiverFile : SourceFile :=
  ⟨⟨"a.templ"⟩, .templ, "é\n\ttempl (é C) A1(\n) \x7b\x7d".toList⟩

/-- An issue that is said to start within the first character and to go on as far as a word counts. -/
def midwayIssue : Issue :=
  .ofRule "r" .error ⟨⟨"a.templ"⟩, 1, 1, 1, 2 ^ 64 - 1⟩ "m"

/-- Words of 64 bits are enough, for an offset within a character and for numbers of bytes far beyond the end, too. -/
theorem nothing_stops_receiver :
    byteLength receiverFile.content < 2 ^ 64 - 1 ∧ [(0x0A : UInt8), 0xFF].length < 2 ^ 64 - 1 ∧
    ¬IsBoundary receiverFile.content 1 ∧
    check (2 ^ 64 - 1) receiverFile.content = .ok (.ok ()) ∧
    point (2 ^ 64 - 1) receiverFile 2 0 = .ok ⟨⟨"a.templ"⟩, 2, 0, 3, 1⟩ ∧
    locate (2 ^ 64 - 1) receiverFile 1 (2 ^ 64 - 1) = .ok ⟨⟨"a.templ"⟩, 3, 5, 1, 2 ^ 64 - 1⟩ ∧
    ofBytes (2 ^ 64 - 1) [0x0A, 0xFF] (2 ^ 64 - 1) = .ok (.encoding 2 2) ∧
    ofIssue midwayIssue receiverFile.content = .ok (Diagnostic.ofIssue midwayIssue receiverFile.content) := by
  have hcontent : byteLength receiverFile.content < 2 ^ 64 - 1 := by decide
  have hbytes : [(0x0A : UInt8), 0xFF].length < 2 ^ 64 - 1 := by decide
  obtain ⟨hboundary, ⟨-, -, -, hcheck⟩, -, hpoint, hlocate, hfailure, hdiagnostic, -⟩ :=
    nothing_stops receiverFile [0x0A, 0xFF] midwayIssue hcontent hbytes
  have htake : takeBytes? 1 receiverFile.content = none := takeBytes?_eq_none _ (by decide) (by decide)
  have hbehind : behind 1 receiverFile.content = .error (.noBoundary 1) := by
    rw [behind, dropBytes?_eq_map, htake]
    rfl
  have htemplate : Template.check receiverFile.content = .ok () := by decide
  have hplace : receiverFile.point 2 0 = ⟨⟨"a.templ"⟩, 2, 0, 3, 1⟩ := by decide
  have hend : receiverFile.locate 1 (2 ^ 64 - 1) = ⟨⟨"a.templ"⟩, 3, 5, 1, 2 ^ 64 - 1⟩ := by
    have hoffset : min 1 (byteLength receiverFile.content) = 1 := by decide
    rw [SourceFile.locate, hoffset]
    simp only [htake]
    rfl
  have hencoding : SyntaxFailure.ofBytes [0x0A, 0xFF] (2 ^ 64 - 1) = .encoding 2 2 := by decide
  refine ⟨hcontent, hbytes, fun h => ?_, by rw [hcheck, htemplate], by rw [hpoint, hplace], by rw [hlocate, hend],
    by rw [hfailure, hencoding], hdiagnostic⟩
  obtain ⟨rest, hrest⟩ := (hboundary 1 receiverFile.content).2 h
  rw [hbehind] at hrest
  cases hrest

end Guarded

end ComponentAudit
