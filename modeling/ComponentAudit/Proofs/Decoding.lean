import ComponentAudit.Proofs.ByteOrder
import ComponentAudit.Proofs.Lines
import ComponentAudit.Text.Utf8

/-!
# What is decoded of bytes

Bytes are cut into pieces, and each piece is a character or bytes that are replaced together (`Utf8.reads_piece`). A piece ends
before any byte that a character can start with, complete or not (`Utf8.pieces_append_cons`), so a line feed is decoded to itself
whatever stands before it, and the lines of what is decoded are what is decoded of the lines (`Utf8.lines_decodeLossy`). All
pieces are characters exactly if the bytes are those of a text (`Utf8.decode?_eq_some_iff`); else there are first bytes that are
none (`Utf8.exists_firstBroken`).
-/

namespace ComponentAudit.Text.Utf8

/-! ## The bytes of a character -/

theorem between_iff {low high : Nat} {b : UInt8} : between low high b = true ↔ low ≤ b.toNat ∧ b.toNat ≤ high := by
  rw [between, Bool.and_eq_true, decide_eq_true_eq, decide_eq_true_eq]

theorem isTail_iff {b : UInt8} : isTail b = true ↔ 0x80 ≤ b.toNat ∧ b.toNat ≤ 0xBF :=
  between_iff

theorem opensThree_iff {a b : UInt8} : opensThree a b = true ↔
    a.toNat = 0xE0 ∧ 0xA0 ≤ b.toNat ∧ b.toNat ≤ 0xBF ∨
      (0xE1 ≤ a.toNat ∧ a.toNat ≤ 0xEC) ∧ 0x80 ≤ b.toNat ∧ b.toNat ≤ 0xBF ∨
      a.toNat = 0xED ∧ 0x80 ≤ b.toNat ∧ b.toNat ≤ 0x9F ∨
      (0xEE ≤ a.toNat ∧ a.toNat ≤ 0xEF) ∧ 0x80 ≤ b.toNat ∧ b.toNat ≤ 0xBF := by
  simp only [opensThree, Bool.or_eq_true, Bool.and_eq_true, between_iff, isTail_iff, beq_iff_eq, ← UInt8.toNat_inj, or_assoc]
  rfl

theorem opensFour_iff {a b : UInt8} : opensFour a b = true ↔
    a.toNat = 0xF0 ∧ 0x90 ≤ b.toNat ∧ b.toNat ≤ 0xBF ∨
      (0xF1 ≤ a.toNat ∧ a.toNat ≤ 0xF3) ∧ 0x80 ≤ b.toNat ∧ b.toNat ≤ 0xBF ∨
      a.toNat = 0xF4 ∧ 0x80 ≤ b.toNat ∧ b.toNat ≤ 0x8F := by
  simp only [opensFour, Bool.or_eq_true, Bool.and_eq_true, between_iff, isTail_iff, beq_iff_eq, ← UInt8.toNat_inj, or_assoc]
  rfl

theorem isTail_of_opensThree {a b : UInt8} (h : opensThree a b = true) : isTail b = true := by
  rw [opensThree_iff] at h
  rw [isTail_iff]
  omega

theorem isTail_of_opensFour {a b : UInt8} (h : opensFour a b = true) : isTail b = true := by
  rw [opensFour_iff] at h
  rw [isTail_iff]
  omega

/-- A character has the code point that it is made from. -/
theorem val_ofNat {n : Nat} (h : n.isValidChar) : (Char.ofNat n).val.toNat = n := by
  rw [Char.ofNat, dif_pos h]
  rfl

theorem utf8EncodeChar_one {a : UInt8} (h : a.toNat < 0x80) : String.utf8EncodeChar (Char.ofNat a.toNat) = [a] := by
  have hval := val_ofNat (n := a.toNat) (.inl (by omega))
  simp only [String.utf8EncodeChar, hval]
  refine (if_pos (by omega)).trans ?_
  rw [UInt8.ofNat_toNat]

theorem utf8EncodeChar_two {a b : UInt8} (ha : between 0xC2 0xDF a = true) (hb : isTail b = true) :
    String.utf8EncodeChar (Char.ofNat (join (a.toNat - 0xC0) b)) = [a, b] := by
  rw [between_iff] at ha
  rw [isTail_iff] at hb
  have hn : join (a.toNat - 0xC0) b = (a.toNat - 0xC0) * 64 + (b.toNat - 0x80) := rfl
  generalize join (a.toNat - 0xC0) b = n at hn
  rw [String.utf8EncodeChar, val_ofNat (.inl (by omega))]
  refine (if_neg (by omega)).trans ((if_pos (by omega)).trans ?_)
  simp only [List.cons.injEq, and_true, ← UInt8.toNat_inj, UInt8.toNat_ofNat']
  omega

theorem utf8EncodeChar_three {a b c : UInt8} (hab : opensThree a b = true) (hc : isTail c = true) :
    String.utf8EncodeChar (Char.ofNat (join (join (a.toNat - 0xE0) b) c)) = [a, b, c] := by
  rw [opensThree_iff] at hab
  rw [isTail_iff] at hc
  have hn : join (join (a.toNat - 0xE0) b) c = ((a.toNat - 0xE0) * 64 + (b.toNat - 0x80)) * 64 + (c.toNat - 0x80) := rfl
  generalize join (join (a.toNat - 0xE0) b) c = n at hn
  have hvalid : n < 0xd800 ∨ 0xdfff < n ∧ n < 0x110000 := by omega
  rw [String.utf8EncodeChar, val_ofNat hvalid]
  refine (if_neg (by omega)).trans ((if_neg (by omega)).trans ((if_pos (by omega)).trans ?_))
  simp only [List.cons.injEq, and_true, ← UInt8.toNat_inj, UInt8.toNat_ofNat']
  omega

theorem utf8EncodeChar_four {a b c d : UInt8} (hab : opensFour a b = true) (hc : isTail c = true) (hd : isTail d = true) :
    String.utf8EncodeChar (Char.ofNat (join (join (join (a.toNat - 0xF0) b) c) d)) = [a, b, c, d] := by
  rw [opensFour_iff] at hab
  rw [isTail_iff] at hc hd
  have hn : join (join (join (a.toNat - 0xF0) b) c) d =
      (((a.toNat - 0xF0) * 64 + (b.toNat - 0x80)) * 64 + (c.toNat - 0x80)) * 64 + (d.toNat - 0x80) := rfl
  generalize join (join (join (a.toNat - 0xF0) b) c) d = n at hn
  have hvalid : n < 0xd800 ∨ 0xdfff < n ∧ n < 0x110000 := by omega
  rw [String.utf8EncodeChar, val_ofNat hvalid]
  refine (if_neg (by omega)).trans ((if_neg (by omega)).trans ((if_neg (by omega)).trans ?_))
  simp only [List.cons.injEq, and_true, ← UInt8.toNat_inj, UInt8.toNat_ofNat']
  omega

/-! ## One piece -/

/-- What the piece that starts with a byte can be: a character whose bytes stand there, or bytes that are replaced together.
None of its bytes but the first is one that a character can start with. -/
def Reads (a : UInt8) (rest : List UInt8) (p : Piece × Nat) : Prop :=
  ∃ tail later, rest = tail ++ later ∧ (∀ b ∈ tail, isTail b = true) ∧
    ((∃ c, p = (.char c, tail.length) ∧ String.utf8EncodeChar c = a :: tail) ∨ p = (.bad (tail.length + 1), tail.length))

theorem reads_piece (a : UInt8) (rest : List UInt8) : Reads a rest (piece a rest) := by
  have char : ∀ tail later c, (∀ b ∈ tail, isTail b = true) → String.utf8EncodeChar c = a :: tail →
      Reads a (tail ++ later) (.char c, tail.length) :=
    fun tail later c htail hc => ⟨tail, later, rfl, htail, .inl ⟨c, rfl, hc⟩⟩
  have bad : ∀ tail later, (∀ b ∈ tail, isTail b = true) → Reads a (tail ++ later) (.bad (tail.length + 1), tail.length) :=
    fun tail later htail => ⟨tail, later, rfl, htail, .inr rfl⟩
  have badOne : Reads a rest (.bad 1, 0) := bad [] rest (by simp)
  unfold piece
  split
  · rename_i ha
    exact char [] rest _ (by simp) (utf8EncodeChar_one ha)
  split
  · rename_i ha
    split
    · split
      · rename_i hb
        exact char [_] _ _ (by simp [hb]) (utf8EncodeChar_two ha hb)
      · exact badOne
    · exact badOne
  split
  · split
    · split
      · rename_i hab
        have hb := isTail_of_opensThree hab
        split
        · rename_i hc
          exact char [_, _] _ _ (by simp [hb, hc]) (utf8EncodeChar_three hab hc)
        · exact bad [_] _ (by simp [hb])
      · exact badOne
    · split
      · rename_i hab
        exact bad [_] [] (by simp [isTail_of_opensThree hab])
      · exact badOne
    · exact badOne
  split
  · split
    · split
      · rename_i hab
        have hb := isTail_of_opensFour hab
        split
        · rename_i hc
          split
          · rename_i hd
            exact char [_, _, _] _ _ (by simp [hb, hc, hd]) (utf8EncodeChar_four hab hc hd)
          · exact bad [_, _] _ (by simp [hb, hc])
        · exact bad [_] _ (by simp [hb])
      · exact badOne
    · split
      · rename_i hab
        have hb := isTail_of_opensFour hab
        split
        · rename_i hc
          exact bad [_, _] [] (by simp [hb, hc])
        · exact bad [_] [_] (by simp [hb])
      · exact badOne
    · split
      · rename_i hab
        exact bad [_] [] (by simp [isTail_of_opensFour hab])
      · exact badOne
    · exact badOne
  · exact badOne

/-- A piece looks at one byte beyond its own at most, and only to see that it does not belong to it. -/
theorem piece_of_le {a : UInt8} {s t : List UInt8} (h : (piece a (s ++ t)).2 ≤ s.length) : piece a (s ++ t) = piece a s := by
  rcases s with _ | ⟨b, _ | ⟨c, _ | ⟨d, s⟩⟩⟩ <;> unfold piece at h ⊢ <;> grind

/-- A byte that a character can start with ends the piece before it. -/
theorem piece_append_cons (a : UInt8) (s : List UInt8) {b : UInt8} (hb : isTail b = false) (t : List UInt8) :
    piece a (s ++ b :: t) = piece a s := by
  obtain ⟨tail, later, heq, htail, hpiece⟩ := reads_piece a (s ++ b :: t)
  have hsize : (piece a (s ++ b :: t)).2 = tail.length := by
    rcases hpiece with ⟨c, hpiece, -⟩ | hpiece
    · rw [hpiece]
    · rw [hpiece]
  refine piece_of_le ?_
  rw [hsize]
  rcases List.append_eq_append_iff.1 heq with ⟨between, rfl, hrest⟩ | ⟨between, rfl, -⟩
  · cases between with
    | nil => rw [List.append_nil]
    | cons b' between =>
      obtain ⟨rfl, -⟩ := List.cons.inj hrest
      rw [htail b (List.mem_append_right _ (List.mem_cons_self ..))] at hb
      cases hb
  · rw [List.length_append]
    exact Nat.le_add_right _ _

theorem piece_one {a : UInt8} (ha : a.toNat < 0x80) (later : List UInt8) :
    piece a later = (.char (Char.ofNat a.toNat), 0) := by
  unfold piece
  rw [if_pos ha]

theorem piece_two {a b : UInt8} (ha : between 0xC2 0xDF a = true) (hb : isTail b = true) (later : List UInt8) :
    piece a (b :: later) = (.char (Char.ofNat (join (a.toNat - 0xC0) b)), 1) := by
  have hone : ¬a.toNat < 0x80 := by
    rw [between_iff] at ha
    omega
  unfold piece
  rw [if_neg hone, if_pos ha]
  simp only
  rw [if_pos hb]

theorem piece_three {a b c : UInt8} (hab : opensThree a b = true) (hc : isTail c = true) (later : List UInt8) :
    piece a (b :: c :: later) = (.char (Char.ofNat (join (join (a.toNat - 0xE0) b) c)), 2) := by
  have hlead : 0xE0 ≤ a.toNat ∧ a.toNat ≤ 0xEF := by
    rw [opensThree_iff] at hab
    omega
  have hone : ¬a.toNat < 0x80 := by omega
  have htwo : ¬between 0xC2 0xDF a = true := fun h => by
    rw [between_iff] at h
    omega
  unfold piece
  rw [if_neg hone, if_neg htwo, if_pos (between_iff.2 hlead)]
  simp only
  rw [if_pos hab, if_pos hc]

theorem piece_four {a b c d : UInt8} (hab : opensFour a b = true) (hc : isTail c = true) (hd : isTail d = true)
    (later : List UInt8) :
    piece a (b :: c :: d :: later) = (.char (Char.ofNat (join (join (join (a.toNat - 0xF0) b) c) d)), 3) := by
  have hlead : 0xF0 ≤ a.toNat ∧ a.toNat ≤ 0xF4 := by
    rw [opensFour_iff] at hab
    omega
  have hone : ¬a.toNat < 0x80 := by omega
  have htwo : ¬between 0xC2 0xDF a = true := fun h => by
    rw [between_iff] at h
    omega
  have hthree : ¬between 0xE0 0xEF a = true := fun h => by
    rw [between_iff] at h
    omega
  unfold piece
  rw [if_neg hone, if_neg htwo, if_neg hthree, if_pos (between_iff.2 hlead)]
  simp only
  rw [if_pos hab, if_pos hc, if_pos hd]

/-- The bytes of a character are read as the character, whatever follows. -/
theorem piece_utf8EncodeChar {c : Char} {a : UInt8} {tail : List UInt8} (h : String.utf8EncodeChar c = a :: tail)
    (later : List UInt8) : piece a (tail ++ later) = (.char c, tail.length) := by
  have hvalid : c.val.toNat < 0xd800 ∨ 0xdfff < c.val.toNat ∧ c.val.toNat < 0x110000 := c.valid
  have hchar : Char.ofNat c.val.toNat = c := Char.ofNat_toNat c
  have hbyte : ∀ {n : Nat} {b : UInt8}, n < 256 → UInt8.ofNat n = b → b.toNat = n := fun hn h => h ▸ Nat.mod_eq_of_lt hn
  rw [String.utf8EncodeChar] at h
  generalize c.val.toNat = n at h hvalid hchar
  split at h
  · obtain ⟨ha, rfl⟩ := List.cons.inj h
    have ha := hbyte (by omega) ha
    rw [piece_one (by omega), ha, hchar]
    rfl
  split at h
  · obtain ⟨y, rfl⟩ : ∃ y, tail = [y] := ⟨_, (List.cons.inj h).2.symm⟩
    simp only [List.cons.injEq, and_true] at h
    have ha := hbyte (by omega) h.1
    have hy := hbyte (by omega) h.2
    have hlead : between 0xC2 0xDF a = true := between_iff.2 (by omega)
    have htail : isTail y = true := isTail_iff.2 (by omega)
    have hjoin : join (a.toNat - 0xC0) y = n := by
      unfold join
      omega
    have hread := piece_two hlead htail later
    rw [hjoin, hchar] at hread
    exact hread
  split at h
  · obtain ⟨y, z, rfl⟩ : ∃ y z, tail = [y, z] := ⟨_, _, (List.cons.inj h).2.symm⟩
    simp only [List.cons.injEq, and_true] at h
    have ha := hbyte (by omega) h.1
    have hy := hbyte (by omega) h.2.1
    have hz := hbyte (by omega) h.2.2
    have hopens : opensThree a y = true := opensThree_iff.2 (by omega)
    have htail : isTail z = true := isTail_iff.2 (by omega)
    have hjoin : join (join (a.toNat - 0xE0) y) z = n := by
      unfold join
      omega
    have hread := piece_three hopens htail later
    rw [hjoin, hchar] at hread
    exact hread
  · obtain ⟨y, z, w, rfl⟩ : ∃ y z w, tail = [y, z, w] := ⟨_, _, _, (List.cons.inj h).2.symm⟩
    simp only [List.cons.injEq, and_true] at h
    have ha := hbyte (by omega) h.1
    have hy := hbyte (by omega) h.2.1
    have hz := hbyte (by omega) h.2.2.1
    have hw := hbyte (by omega) h.2.2.2
    have hopens : opensFour a y = true := opensFour_iff.2 (by omega)
    have htail : isTail z = true := isTail_iff.2 (by omega)
    have htail' : isTail w = true := isTail_iff.2 (by omega)
    have hjoin : join (join (join (a.toNat - 0xF0) y) z) w = n := by
      unfold join
      omega
    have hread := piece_four hopens htail htail' later
    rw [hjoin, hchar] at hread
    exact hread

/-! ## All pieces -/

theorem pieces_nil : pieces [] = [] := by
  rw [pieces]

/-- Behind a piece the next one starts. -/
theorem pieces_cons {a : UInt8} {tail : List UInt8} {p : Piece} (later : List UInt8)
    (h : piece a (tail ++ later) = (p, tail.length)) : pieces (a :: (tail ++ later)) = p :: pieces later := by
  rw [pieces, h, List.drop_left]

/-- Bytes are none, or they start with a piece. -/
theorem exists_pieces_cons (a : UInt8) (rest : List UInt8) :
    ∃ tail later p, rest = tail ++ later ∧ piece a rest = (p, tail.length) ∧ (∀ b ∈ tail, isTail b = true) ∧
      p.size = tail.length + 1 ∧ (∀ c, p = .char c → String.utf8EncodeChar c = a :: tail) := by
  obtain ⟨tail, later, rfl, htail, ⟨c, hpiece, hc⟩ | hpiece⟩ := reads_piece a rest
  · refine ⟨tail, later, .char c, rfl, hpiece, htail, ?_, fun c' h => ?_⟩
    · rw [Piece.size, ← String.length_utf8EncodeChar, hc, List.length_cons]
    · cases h
      exact hc
  · exact ⟨tail, later, _, rfl, hpiece, htail, rfl, fun c h => by cases h⟩

/-- Bytes whose pieces are divided are divided themselves. -/
theorem exists_append_of_pieces {bytes : List UInt8} {ps qs : List Piece} (h : pieces bytes = ps ++ qs) :
    ∃ raw rest, bytes = raw ++ rest ∧ pieces raw = ps ∧ pieces rest = qs := by
  induction ps generalizing bytes with
  | nil => exact ⟨[], bytes, rfl, pieces_nil, h⟩
  | cons p ps ih =>
    cases bytes with
    | nil =>
      rw [pieces_nil] at h
      cases h
    | cons a bytes =>
      obtain ⟨tail, later, q, rfl, hpiece, -⟩ := exists_pieces_cons a bytes
      rw [pieces_cons later hpiece, List.cons_append] at h
      obtain ⟨rfl, hlater⟩ := List.cons.inj h
      obtain ⟨raw, rest, rfl, hraw, hrest⟩ := ih hlater
      have hcut : piece a (tail ++ raw) = (q, tail.length) := by
        rw [← List.append_assoc] at hpiece
        rw [← piece_of_le, hpiece]
        rw [hpiece, List.length_append]
        exact Nat.le_add_right _ _
      refine ⟨a :: (tail ++ raw), rest, ?_, ?_, hrest⟩
      · rw [List.cons_append, List.append_assoc]
      · rw [pieces_cons raw hcut, hraw]

/-- Where a byte stands that a character can start with, a piece starts. -/
theorem pieces_append_cons (s : List UInt8) {b : UInt8} (hb : isTail b = false) (t : List UInt8) :
    pieces (s ++ b :: t) = pieces s ++ pieces (b :: t) := by
  induction hn : s.length using Nat.strongRecOn generalizing s with
  | ind n ih =>
    cases s with
    | nil => rw [pieces_nil, List.nil_append, List.nil_append]
    | cons a s =>
      obtain ⟨tail, later, p, rfl, hpiece, -⟩ := exists_pieces_cons a s
      have hpiece' : piece a (tail ++ (later ++ b :: t)) = (p, tail.length) := by
        rw [← List.append_assoc, piece_append_cons a _ hb, hpiece]
      have hlater := ih later.length (by rw [← hn, List.length_cons, List.length_append]; omega) later rfl
      rw [List.cons_append, List.append_assoc, pieces_cons _ hpiece', hlater, pieces_cons _ hpiece, List.cons_append]

/-- The bytes of a text are read as the text. -/
theorem pieces_utf8 (s : List Char) : pieces (utf8 s) = s.map .char := by
  induction s with
  | nil => exact pieces_nil
  | cons c s ih =>
    obtain ⟨a, tail, hc⟩ := List.exists_cons_of_ne_nil (String.utf8EncodeChar_ne_nil (c := c))
    rw [utf8_cons, hc, List.cons_append, pieces_cons _ (piece_utf8EncodeChar hc _), ih, List.map_cons]

/-- Bytes that are read as characters throughout are the bytes of the text. -/
theorem utf8_of_pieces {bytes : List UInt8} {s : List Char} (h : pieces bytes = s.map .char) : utf8 s = bytes := by
  induction s generalizing bytes with
  | nil =>
    cases bytes with
    | nil => rfl
    | cons a bytes =>
      rw [pieces] at h
      cases h
  | cons c s ih =>
    cases bytes with
    | nil =>
      rw [pieces_nil] at h
      cases h
    | cons a bytes =>
      obtain ⟨tail, later, p, rfl, hpiece, -, -, hchar⟩ := exists_pieces_cons a bytes
      rw [pieces_cons later hpiece, List.map_cons] at h
      obtain ⟨rfl, hlater⟩ := List.cons.inj h
      rw [utf8_cons, hchar c rfl, ih hlater, List.cons_append]

/-! ## Texts -/

/-- Bytes are decoded to a text if all of them are characters. -/
theorem decode?_eq_some_iff_pieces {bytes : List UInt8} {s : List Char} :
    decode? bytes = some s ↔ pieces bytes = s.map .char := by
  rw [decode?]
  generalize pieces bytes = ps
  induction ps generalizing s with
  | nil =>
    rw [List.mapM_nil]
    cases s with
    | nil => exact iff_of_true rfl rfl
    | cons c s => exact iff_of_false (fun h => by cases h) (fun h => by cases h)
  | cons p ps ih =>
    rw [List.mapM_cons]
    cases p with
    | bad n =>
      refine iff_of_false (fun h => by cases h) (fun h => ?_)
      cases s with
      | nil => cases h
      | cons c s => cases h
    | char c =>
      constructor
      · intro h
        obtain ⟨_, hc, h⟩ := Option.bind_eq_some_iff.1 h
        obtain ⟨others, hothers, h⟩ := Option.bind_eq_some_iff.1 h
        obtain rfl := Option.some.inj hc
        obtain rfl := Option.some.inj h
        rw [List.map_cons, ih.1 hothers]
      · intro h
        cases s with
        | nil => cases h
        | cons d s =>
          rw [List.map_cons] at h
          obtain ⟨hc, hothers⟩ := List.cons.inj h
          cases hc
          rw [ih.2 hothers]
          rfl

/-- Bytes are decoded to a text exactly if they are the bytes of the text. -/
theorem decode?_eq_some_iff {bytes : List UInt8} {s : List Char} : decode? bytes = some s ↔ utf8 s = bytes := by
  rw [decode?_eq_some_iff_pieces]
  exact ⟨utf8_of_pieces, fun h => h ▸ pieces_utf8 s⟩

theorem length_utf8 (s : List Char) : (utf8 s).length = byteLength s := by
  induction s with
  | nil => rfl
  | cons c s ih => rw [utf8_cons, List.length_append, String.length_utf8EncodeChar, ih, byteLength_cons]

theorem decodeLossy_utf8 (s : List Char) : decodeLossy (utf8 s) = s := by
  rw [decodeLossy, pieces_utf8, List.map_map]
  exact List.map_id s

/-- The text of bytes that are UTF-8 throughout is what can be decoded of them. -/
theorem decodeLossy_of_decode? {bytes : List UInt8} {content : List Char} (h : decode? bytes = some content) :
    decodeLossy bytes = content := by
  rw [← decode?_eq_some_iff.1 h, decodeLossy_utf8]

/-- What is decoded is divided where the bytes are. -/
theorem exists_append_of_decodeLossy {bytes : List UInt8} {before after : List Char}
    (h : decodeLossy bytes = before ++ after) :
    ∃ raw rest, bytes = raw ++ rest ∧ decodeLossy raw = before ∧ decodeLossy rest = after := by
  obtain ⟨ps, qs, hpieces, hps, hqs⟩ := List.map_eq_append_iff.1 h
  obtain ⟨raw, rest, hbytes, hraw, hrest⟩ := exists_append_of_pieces hpieces
  exact ⟨raw, rest, hbytes, by rw [decodeLossy, hraw, hps], by rw [decodeLossy, hrest, hqs]⟩

/-! ## Lines -/

/-- A line feed is decoded to itself, whatever stands before it: a character that is not complete ends there. -/
theorem decodeLossy_append_feed (s t : List UInt8) :
    decodeLossy (s ++ 10 :: t) = decodeLossy s ++ '\n' :: decodeLossy t := by
  have hpiece : piece 10 ([] ++ t) = (.char '\n', ([] : List UInt8).length) := piece_one (by decide) t
  have hfeed : pieces (10 :: t) = .char '\n' :: pieces t := pieces_cons t hpiece
  rw [decodeLossy, pieces_append_cons s (by decide), hfeed, List.map_append, List.map_cons]
  rfl

/-- No other byte is decoded to a line feed. -/
theorem feed_not_mem_decodeLossy {bytes : List UInt8} (h : 10 ∉ bytes) : '\n' ∉ decodeLossy bytes := by
  intro hmem
  obtain ⟨before, after, htext⟩ := List.append_of_mem hmem
  obtain ⟨raw, rest, rfl, -, hrest⟩ := exists_append_of_decodeLossy htext
  cases rest with
  | nil =>
    rw [decodeLossy, pieces_nil] at hrest
    cases hrest
  | cons a rest =>
    obtain ⟨tail, later, p, rfl, hpiece, -, -, hchar⟩ := exists_pieces_cons a rest
    rw [decodeLossy, pieces_cons later hpiece, List.map_cons] at hrest
    have hshown := (List.cons.inj hrest).1
    cases p with
    | bad n => exact absurd (show '\uFFFD' = '\n' from hshown) (by decide)
    | char c =>
      obtain rfl : c = '\n' := hshown
      have hbyte : String.utf8EncodeChar '\n' = [10] := by decide
      obtain ⟨rfl, -⟩ := List.cons.inj (hbyte.symm.trans (hchar _ rfl))
      exact h (List.mem_append_right _ (List.mem_cons_self ..))

/-- Bytes are a line, or a line and a line feed before other bytes. -/
theorem line_induction {P : List UInt8 → Prop} (last : ∀ line, 10 ∉ line → P line)
    (feed : ∀ line rest, 10 ∉ line → P rest → P (line ++ 10 :: rest)) (bytes : List UInt8) : P bytes := by
  induction hn : bytes.length using Nat.strongRecOn generalizing bytes with
  | ind n ih =>
    by_cases hmem : 10 ∈ bytes
    · obtain ⟨line, rest, rfl, hline⟩ := List.eq_append_cons_of_mem hmem
      have hlt : rest.length < n := by
        rw [← hn, List.length_append, List.length_cons]
        omega
      exact feed line rest hline (ih rest.length hlt rest rfl)
    · exact last bytes hmem

/-- The lines of what is decoded are what is decoded of the lines. -/
theorem lines_decodeLossy (bytes : List UInt8) : lines (decodeLossy bytes) = (bytes.splitOn 10).map decodeLossy := by
  induction bytes using line_induction with
  | last line h =>
    rw [List.splitOn_eq_singleton h, lines, split_of_not_mem (feed_not_mem_decodeLossy h), List.map_singleton]
  | feed line rest h ih =>
    rw [decodeLossy_append_feed, List.splitOn_append_cons_self, List.splitOn_eq_singleton h, lines, split_append_cons,
      split_of_not_mem (feed_not_mem_decodeLossy h), List.singleton_append, List.singleton_append, List.map_cons, ← ih, lines]

/-- As many line feeds are decoded as there are. -/
theorem count_decodeLossy (bytes : List UInt8) : (decodeLossy bytes).count '\n' = bytes.count 10 := by
  induction bytes using line_induction with
  | last line h => rw [List.count_eq_zero_of_not_mem h, List.count_eq_zero_of_not_mem (feed_not_mem_decodeLossy h)]
  | feed line rest h ih =>
    rw [decodeLossy_append_feed, List.count_append, List.count_append, List.count_cons_self, List.count_cons_self, ih,
      List.count_eq_zero_of_not_mem h, List.count_eq_zero_of_not_mem (feed_not_mem_decodeLossy h)]

theorem count_utf8 (s : List Char) : (utf8 s).count 10 = s.count '\n' := by
  rw [← count_decodeLossy, decodeLossy_utf8]

/-! ## The first bytes that are no character -/

/-- The first bytes that are no character: what stands before them is text, no character starts with them, and one U+FFFD is
read for them. -/
structure FirstBroken (bytes : List UInt8) (before : List Char) (broken later : List UInt8) : Prop where
  bytes_eq : bytes = utf8 before ++ (broken ++ later)
  broken_ne : broken ≠ []
  no_char : ∀ c rest, broken ++ later ≠ String.utf8EncodeChar c ++ rest
  decoded : decodeLossy bytes = before ++ '\uFFFD' :: decodeLossy later

/-- Pieces are all characters, or characters stand before one that is none. -/
theorem exists_map_char_or_bad (ps : List Piece) :
    (∃ s : List Char, ps = s.map .char) ∨
      ∃ (before : List Char) (n : Nat) (later : List Piece), ps = before.map .char ++ .bad n :: later := by
  induction ps with
  | nil => exact .inl ⟨[], rfl⟩
  | cons p ps ih =>
    cases p with
    | bad n => exact .inr ⟨[], n, ps, rfl⟩
    | char c =>
      rcases ih with ⟨s, rfl⟩ | ⟨before, n, later, rfl⟩
      · exact .inl ⟨c :: s, rfl⟩
      · exact .inr ⟨c :: before, n, later, rfl⟩

theorem validLength_of_pieces {bytes : List UInt8} {before : List Char} {n : Nat} {later : List Piece}
    (h : pieces bytes = before.map .char ++ .bad n :: later) : validLength bytes = (utf8 before).length := by
  rw [validLength, h]
  clear h
  induction before with
  | nil => rfl
  | cons c before ih =>
    rw [utf8_cons, List.length_append, String.length_utf8EncodeChar, ← ih]
    rfl

/-- In bytes that are no text there are first bytes that are no character, and the valid bytes are those before. -/
theorem exists_firstBroken {bytes : List UInt8} (h : ∀ s, utf8 s ≠ bytes) :
    ∃ before broken later, FirstBroken bytes before broken later ∧ validLength bytes = (utf8 before).length := by
  rcases exists_map_char_or_bad (pieces bytes) with ⟨s, hs⟩ | ⟨before, n, later, hpieces⟩
  · exact absurd (utf8_of_pieces hs) (h s)
  · obtain ⟨raw, rest, rfl, hraw, hrest⟩ := exists_append_of_pieces hpieces
    obtain rfl := utf8_of_pieces hraw
    cases rest with
    | nil =>
      rw [pieces_nil] at hrest
      cases hrest
    | cons a rest =>
      obtain ⟨tail, rest, p, rfl, hpiece, -⟩ := exists_pieces_cons a rest
      rw [pieces_cons rest hpiece] at hrest
      obtain ⟨rfl, rfl⟩ := List.cons.inj hrest
      refine ⟨before, a :: tail, rest, ⟨rfl, List.cons_ne_nil _ _, fun c t heq => ?_, ?_⟩, ?_⟩
      · obtain ⟨b, others, hc⟩ := List.exists_cons_of_ne_nil (String.utf8EncodeChar_ne_nil (c := c))
        rw [hc, List.cons_append, List.cons_append] at heq
        obtain ⟨rfl, hrest⟩ := List.cons.inj heq
        rw [hrest, piece_utf8EncodeChar hc] at hpiece
        cases (Prod.mk.inj hpiece).1
      · rw [decodeLossy, hpieces, List.map_append, List.map_map, List.map_cons]
        exact congrArg (· ++ _) (List.map_id before)
      · exact validLength_of_pieces hpieces

end ComponentAudit.Text.Utf8
