import ComponentAudit.Proofs.Lines

/-!
# Indices of bytes

A part of a text may be named by the index of a byte. The index has to be a boundary: a character starts there, or the text ends
(`Text.dropBytes?_eq_some_iff`, `Text.takeBytes?_eq_some_iff`); an index within a character names nothing. The indices that a
search for a character gives are boundaries, and so are those behind a character of one byte (`Text.firstIndex?_append_cons`,
`Text.lastIndex?_append_cons`). Searches are the same over bytes, where each entry takes up one.
-/

namespace ComponentAudit.Text

/-! ## Parts of a text -/

/-- What stands before an index is a part of the text with so many bytes, from its start on. -/
theorem takeBytes?_eq_some_iff {n : Nat} {s before : List Char} :
    takeBytes? n s = some before ↔ ∃ after, s = before ++ after ∧ n = byteLength before := by
  constructor
  · intro h
    fun_induction takeBytes? n s generalizing before with
    | case1 s =>
      obtain rfl := Option.some.inj h
      exact ⟨s, rfl, rfl⟩
    | case2 n => cases h
    | case3 n c rest hsize ih =>
      obtain ⟨taken, htaken, rfl⟩ := Option.map_eq_some_iff.1 h
      obtain ⟨after, rfl, hn⟩ := ih htaken
      exact ⟨after, rfl, by rw [byteLength_cons, ← hn]; omega⟩
    | case4 n c rest hsize => cases h
  · rintro ⟨after, rfl, rfl⟩
    exact takeBytes?_byteLength before after

/-- No part of a text ends within its first character. -/
theorem takeBytes?_eq_none {n : Nat} {c : Char} (rest : List Char) (hpos : 0 < n) (hlt : n < c.utf8Size) :
    takeBytes? n (c :: rest) = none := by
  obtain ⟨m, rfl⟩ := Nat.exists_eq_add_one.2 hpos
  rw [takeBytes?, if_neg (Nat.not_le_of_lt hlt)]

/-- What stands behind an index is what is left without the part before it. -/
theorem dropBytes?_eq_map (n : Nat) (s : List Char) :
    dropBytes? n s = (takeBytes? n s).map fun before => s.drop before.length := by
  fun_induction dropBytes? n s with
  | case1 s =>
    rw [takeBytes?]
    rfl
  | case2 n =>
    rw [takeBytes?]
    rfl
  | case3 n c rest hsize ih =>
    rw [takeBytes?, if_pos hsize, ih, Option.map_map]
    rfl
  | case4 n c rest hsize =>
    rw [takeBytes?, if_neg hsize]
    rfl

/-- What stands behind an index follows a part of the text with so many bytes. Where there is no such part, nothing does. -/
theorem dropBytes?_eq_some_iff {n : Nat} {s after : List Char} :
    dropBytes? n s = some after ↔ ∃ before, s = before ++ after ∧ n = byteLength before := by
  rw [dropBytes?_eq_map, Option.map_eq_some_iff]
  simp only [takeBytes?_eq_some_iff]
  constructor
  · rintro ⟨before, ⟨after', rfl, rfl⟩, rfl⟩
    exact ⟨before, by rw [List.drop_left], rfl⟩
  · rintro ⟨before, rfl, rfl⟩
    exact ⟨before, ⟨after, rfl, rfl⟩, List.drop_left⟩

/-- What is left of a text is not longer. -/
theorem byteLength_le_of_suffix {s rest : List Char} (h : rest <:+ s) : byteLength rest ≤ byteLength s := by
  obtain ⟨before, rfl⟩ := h
  rw [byteLength_append]
  exact Nat.le_add_left _ _

/-- Each character has a byte at least. -/
theorem length_le_byteLength (s : List Char) : s.length ≤ byteLength s := by
  induction s with
  | nil => exact Nat.le_refl _
  | cons c s ih =>
    have hpos : 0 < c.utf8Size := Char.utf8Size_pos c
    rw [List.length_cons, byteLength_cons]
    omega

/-! ## Searches -/

section Search

variable {α : Type} (size : α → Nat) (p : α → Bool)

/-- The room that a list takes up, entry by entry. -/
def room (s : List α) : Nat :=
  s.foldr (fun x n => size x + n) 0

/-- The index at which the first entry of a kind starts. -/
def firstIndex? : List α → Option Nat
  | [] => none
  | x :: rest => if p x then some 0 else (firstIndex? rest).map (size x + ·)

/-- The index at which the last entry of a kind starts. -/
def lastIndex? : List α → Option Nat
  | [] => none
  | x :: rest =>
    match lastIndex? rest with
    | some i => some (size x + i)
    | none => if p x then some 0 else none

variable {size p} {before after : List α} {x : α}

theorem room_cons (x : α) (s : List α) : room size (x :: s) = size x + room size s := rfl

theorem room_append (s t : List α) : room size (s ++ t) = room size s + room size t := by
  induction s with
  | nil => exact (Nat.zero_add _).symm
  | cons x s ih => rw [List.cons_append, room_cons, room_cons, ih, Nat.add_assoc]

theorem firstIndex?_eq_none (h : ∀ y ∈ before, p y = false) : firstIndex? size p before = none := by
  induction before with
  | nil => rfl
  | cons y before ih =>
    rw [List.forall_mem_cons] at h
    rw [firstIndex?, if_neg (Bool.not_eq_true _ ▸ h.1), ih h.2, Option.map_none]

/-- The first entry of a kind starts where the entries before it end. -/
theorem firstIndex?_append_cons (h : ∀ y ∈ before, p y = false) (hx : p x = true) :
    firstIndex? size p (before ++ x :: after) = some (room size before) := by
  induction before with
  | nil => exact if_pos hx
  | cons y before ih =>
    rw [List.forall_mem_cons] at h
    rw [List.cons_append, firstIndex?, if_neg (Bool.not_eq_true _ ▸ h.1), ih h.2, Option.map_some, room_cons]

theorem lastIndex?_eq_none (h : ∀ y ∈ after, p y = false) : lastIndex? size p after = none := by
  induction after with
  | nil => rfl
  | cons y after ih =>
    rw [List.forall_mem_cons] at h
    rw [lastIndex?, ih h.2]
    exact if_neg (Bool.not_eq_true _ ▸ h.1)

/-- The last entry of a kind starts where the entries before it end, whatever they are. -/
theorem lastIndex?_append_cons (hx : p x = true) (h : ∀ y ∈ after, p y = false) :
    lastIndex? size p (before ++ x :: after) = some (room size before) := by
  induction before with
  | nil =>
    rw [List.nil_append, lastIndex?, lastIndex?_eq_none h]
    exact if_pos hx
  | cons y before ih => rw [List.cons_append, lastIndex?, ih, room_cons]

/-- Up to the first entry of another kind, or to the end, stand entries of one kind. -/
theorem getD_firstIndex? (p : α → Bool) (s : List α) :
    (firstIndex? size (fun x => !p x) s).getD (room size s) = room size (s.takeWhile p) := by
  induction s with
  | nil => rfl
  | cons x s ih =>
    rw [firstIndex?]
    cases hx : p x with
    | true =>
      rw [List.takeWhile_cons_of_pos hx, room_cons, room_cons, ← ih]
      cases firstIndex? size (fun x => !p x) s with
      | none => rfl
      | some i => rfl
    | false =>
      rw [List.takeWhile_cons_of_neg (by simp [hx])]
      rfl

end Search

/-- In a text, the characters take up their bytes. -/
theorem room_utf8Size (s : List Char) : room Char.utf8Size s = byteLength s := rfl

theorem room_one {α : Type} (s : List α) : room (fun _ => 1) s = s.length := by
  induction s with
  | nil => rfl
  | cons x s ih => rw [room_cons, ih, List.length_cons, Nat.add_comm]

/-- The lines of a text take up as much as the text, if each has a line feed, and one byte more. -/
theorem room_lines (s : List Char) : room (fun line => byteLength line + 1) (lines s) = byteLength s + 1 := by
  rw [lines]
  induction s with
  | nil => rfl
  | cons c s ih =>
    rw [split, byteLength_cons]
    split
    · rename_i hc
      rw [room_cons, ih, hc, show '\n'.utf8Size = 1 from rfl, show byteLength [] = 0 from rfl]
      omega
    · obtain ⟨part, others, hsplit⟩ := List.exists_cons_of_ne_nil (split_ne_nil '\n' s)
      rw [hsplit, room_cons] at ih
      rw [hsplit, room_cons, byteLength_cons]
      omega

end ComponentAudit.Text
