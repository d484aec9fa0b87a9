import ComponentAudit.Proofs.FinalFeeds
import ComponentAudit.Proofs.IllFormed

/-!
# Offsets in the bytes of a file

The offset and the length of an issue count the bytes of what is decoded of a file. Characters are as long there as in the file. The
U+FFFD that is shown for ill-formed bytes has three bytes and stands for one, two or three, so what is decoded is longer than the
file by what such bytes lack of three (`Utf8.byteLength_decodeLossy`), and the issue of a match is moved by what the bytes before
it lack (`Issue.Decodes`). So the files whose issues address their bytes are those in which no ill-formed bytes lack any
(`Checker.addresses_iff`).
-/

namespace ComponentAudit

open Collector Pattern Text

/-! ## How much longer the decoded text is -/

namespace Text.Utf8

/-- How many more bytes the character that is shown for a piece has than the piece. -/
def Piece.growth : Piece → Nat
  | .char _ => 0
  | .bad n => 3 - n

/-- How many more bytes the text that is decoded of a byte string has. -/
def growth (bytes : List UInt8) : Nat :=
  ((pieces bytes).map Piece.growth).sum

/-- At most three bytes are replaced together. -/
theorem le_three_of_piece {a : UInt8} {rest : List UInt8} {n : Nat} (h : (piece a rest).1 = .bad n) : n ≤ 3 := by
  unfold piece at h
  grind

theorem growth_cons {a : UInt8} {tail : List UInt8} {p : Piece} (later : List UInt8)
    (h : piece a (tail ++ later) = (p, tail.length)) : growth (a :: (tail ++ later)) = p.growth + growth later := by
  rw [growth, pieces_cons later h, List.map_cons, List.sum_cons, growth]

/-- What is decoded of a byte string is longer by its growth. -/
theorem byteLength_decodeLossy (bytes : List UInt8) : byteLength (decodeLossy bytes) = bytes.length + growth bytes := by
  -- By the number of bytes: a piece may take several of them away.
  induction hn : bytes.length using Nat.strongRecOn generalizing bytes with
  | ind n ih =>
    cases bytes with
    | nil =>
      rw [← hn, decodeLossy, growth, pieces_nil]
      rfl
    | cons a rest =>
      obtain ⟨tail, later, p, rfl, hpiece, -, hsize, -⟩ := exists_pieces_cons a rest
      rw [List.length_cons, List.length_append] at hn
      have hlater := ih later.length (by omega) later rfl
      have hshown : p.shown.utf8Size = p.size + p.growth := by
        cases p with
        | char c => rfl
        | bad m =>
          have hle : m ≤ 3 := le_three_of_piece (congrArg Prod.fst hpiece)
          exact (Nat.add_sub_cancel' hle).symm
      rw [decodeLossy] at hlater
      rw [growth_cons later hpiece, decodeLossy, pieces_cons later hpiece, List.map_cons, byteLength_cons, hshown, hlater]
      omega

theorem le_three_of_mem_pieces {bytes : List UInt8} {n : Nat} (h : .bad n ∈ pieces bytes) : n ≤ 3 := by
  obtain ⟨ps, qs, hpieces⟩ := List.append_of_mem h
  obtain ⟨raw, rest, -, -, hrest⟩ := exists_append_of_pieces hpieces
  cases rest with
  | nil =>
    rw [pieces_nil] at hrest
    cases hrest
  | cons a rest =>
    rw [pieces] at hrest
    exact le_three_of_piece (List.cons.inj hrest).1

/-- What is decoded is as long as the bytes exactly if the bytes that are replaced together are always three. -/
theorem growth_eq_zero_iff {bytes : List UInt8} : growth bytes = 0 ↔ ∀ n, .bad n ∈ pieces bytes → n = 3 := by
  rw [growth, List.sum_eq_zero_iff, List.forall_mem_map]
  constructor
  · intro h n hn
    have hle := le_three_of_mem_pieces hn
    have hgrowth : 3 - n = 0 := h _ hn
    omega
  · intro h p hp
    cases p with
    | char c => rfl
    | bad n =>
      rw [h n hp]
      rfl

end Text.Utf8

/-! ## Issues and bytes -/

namespace Issue

/-- An issue addresses the bytes of a file: its span lies in the file, and what it gives as matched is decoded of the bytes
there. -/
def Addresses (i : Issue) (bytes : List UInt8) : Prop :=
  i.location.offset + i.location.length ≤ bytes.length ∧
    Utf8.decodeLossy ((bytes.drop i.location.offset).take i.location.length) = i.matchedText.toList

/-- What an issue gives as matched is decoded of some bytes of a file, between others. Its offset is larger than theirs by the
growth of the bytes before, and its length by their own. -/
structure Decodes (i : Issue) (raw matched rest : List UInt8) : Prop where
  decoded : Utf8.decodeLossy (raw ++ (matched ++ rest)) =
    Utf8.decodeLossy raw ++ (Utf8.decodeLossy matched ++ Utf8.decodeLossy rest)
  matched_eq : Utf8.decodeLossy matched = i.matchedText.toList
  offset : i.location.offset = raw.length + Utf8.growth raw
  length : i.location.length = matched.length + Utf8.growth matched

/-- An issue that covers what it gives as matched is decoded of bytes. -/
theorem Quotes.exists_decodes {i : Issue} {f : SourceFile} {bytes : List UInt8} (h : i.Quotes f)
    (hcontent : f.content = Utf8.decodeLossy bytes) :
    ∃ raw matched rest, bytes = raw ++ (matched ++ rest) ∧ i.Decodes raw matched rest := by
  obtain ⟨before, after, hcovers, hoffset, hlength, -, -⟩ := h
  rw [hcontent, List.append_assoc] at hcovers
  obtain ⟨raw, later, rfl, rfl, hlater⟩ := Utf8.exists_append_of_decodeLossy hcovers
  obtain ⟨matched, rest, rfl, hmatched, rfl⟩ := Utf8.exists_append_of_decodeLossy hlater
  refine ⟨raw, matched, rest, rfl, ?_, hmatched, ?_, ?_⟩
  · rw [hcovers, hmatched]
  · rw [hoffset, Utf8.byteLength_decodeLossy]
  · rw [hlength, ← hmatched, Utf8.byteLength_decodeLossy]

namespace Decodes

variable {i : Issue} {raw matched rest : List UInt8}

/-- The growth of a file is that of the bytes before an issue, at it and behind it. -/
theorem growth_eq (h : i.Decodes raw matched rest) :
    Utf8.growth (raw ++ (matched ++ rest)) = Utf8.growth raw + (Utf8.growth matched + Utf8.growth rest) := by
  have hlength := congrArg byteLength h.decoded
  simp only [byteLength_append, Utf8.byteLength_decodeLossy, List.length_append] at hlength
  omega

/-- An issue is at the bytes that it is decoded of, if nothing grows before their end. -/
theorem addresses (h : i.Decodes raw matched rest) (hraw : Utf8.growth raw = 0) (hmatched : Utf8.growth matched = 0) :
    i.Addresses (raw ++ (matched ++ rest)) := by
  have hoffset : i.location.offset = raw.length := by rw [h.offset, hraw, Nat.add_zero]
  have hlength : i.location.length = matched.length := by rw [h.length, hmatched, Nat.add_zero]
  refine ⟨?_, ?_⟩
  · rw [hoffset, hlength, List.length_append, List.length_append]
    omega
  · rw [hoffset, hlength, List.drop_left, List.take_left]
    exact h.matched_eq

end Decodes

/-- A rule on text records an issue for a file of some kind with some bytes, whatever the other rules are. -/
def OnText (i : Issue) (kind : FileKind) (bytes : List UInt8) : Prop :=
  ∃ (c : Checker) (root path : Path), ∃ r ∈ c.registry.rules, r.kind.regex?.isSome = true ∧ i.ruleId = r.id ∧
    i ∈ (c.checkBytes root path kind bytes).issues

end Issue

/-- The issues of an import requirement that inspects a file are those of the first use. -/
theorem Rule.Places.atFirstUse {r : Rule} {f : SourceFile} {issues : List Issue} (h : r.Places f issues)
    {pattern declaration : String} {regex : Regex} (hkind : r.kind = .importRequirement pattern declaration)
    (happlies : f.kind ∈ r.fileKinds) (hregex : Matcher.compile pattern = .ok regex) :
    AtFirstUse regex declaration f issues := by
  rw [Places] at h
  simp only [hkind, happlies, if_true, hregex] at h
  exact h

/-- The issues of a rule on text in a file of bytes are where its matches are in what is decoded. -/
theorem Checker.places_checkBytes {c : Checker} {r : Rule} (hr : r ∈ c.registry.rules) (root path : Path) (kind : FileKind)
    (bytes : List UInt8) :
    r.Places (.ofPath path (Utf8.decodeLossy bytes) root kind)
      ((c.checkBytes root path kind bytes).issues.filter fun i => i.ruleId = r.id) := by
  rw [checkBytes_eq, (runAll_callsFor hr _ _).1]
  exact r.places_calls _ _

/-- An issue of a rule on text is decoded of bytes. -/
theorem Issue.OnText.exists_decodes {i : Issue} {kind : FileKind} {bytes : List UInt8} (h : i.OnText kind bytes) :
    ∃ raw matched rest, bytes = raw ++ (matched ++ rest) ∧ i.Decodes raw matched rest := by
  obtain ⟨c, root, path, r, hr, htext, hid, hi⟩ := h
  have hquotes := (Checker.places_checkBytes hr root path kind bytes).quotes htext
    (List.mem_filter.2 ⟨hi, decide_eq_true hid⟩)
  exact hquotes.exists_decodes rfl

/-! ## The end of a file -/

/-- The expression that asks for the end of a text matches there. -/
theorem Pattern.Regex.leftmost_textEnd (s : List Char) : (Regex.look .textEnd).Leftmost s ⟨s.length, 0⟩ := by
  have hends (k : Nat) : (Regex.look .textEnd).ends (.after s k) = if s.length ≤ k then [.after s k] else [] := by
    simp only [ends, Look.holds, Cursor.after, Option.isNone_iff_eq_none, List.head?_eq_none_iff, List.drop_eq_nil_iff]
  refine ⟨Nat.le_refl _, ?_, fun k hk => ?_⟩
  · rw [hends, if_pos (Nat.le_refl _)]
    rfl
  · rw [hends, if_neg (Nat.not_le_of_lt hk)]

/-- A rule that asks for a declaration wherever a file ends. -/
def endRule (kind : FileKind) (declaration : String) : Rule :=
  { id := "end", name := "End", kind := .importRequirement "$" declaration, fileKinds := [kind], message := "end" }

/-- A checker with that rule. -/
def endChecker (kind : FileKind) (declaration : String) : Checker :=
  .ofRegistry ⟨[endRule kind declaration], List.nodup_singleton _⟩ .acceptAll

theorem endRule_mem (kind : FileKind) (declaration : String) :
    endRule kind declaration ∈ (endChecker kind declaration).registry.rules := by
  rw [endChecker, Checker.registry_ofRegistry]
  exact List.mem_singleton_self _

/-- A declaration that some bytes do not hold, since it is longer than their text. -/
def missingFrom (bytes : List UInt8) : String :=
  String.ofList (Utf8.decodeLossy bytes ++ ['.'])

theorem not_infix_missingFrom (bytes : List UInt8) : ¬(missingFrom bytes).toList <:+: Utf8.decodeLossy bytes := by
  intro h
  have hle := h.length_le
  rw [missingFrom, String.toList_ofList, List.length_append, List.length_singleton] at hle
  omega

/-- There is an issue of a rule on text at the end of any file. -/
theorem exists_onText_end (kind : FileKind) (bytes : List UInt8) :
    ∃ i : Issue, i.OnText kind bytes ∧ i.location.offset = bytes.length + Utf8.growth bytes := by
  have hr := endRule_mem kind (missingFrom bytes)
  have hregex : Matcher.compile "$" = .ok (.look .textEnd) := Matcher.compile_eq_ok_iff.2 ⟨by decide, by cbv, by decide⟩
  have hend := Regex.leftmost_textEnd (Utf8.decodeLossy bytes)
  have hmatches : (Regex.look .textEnd).Matches (Utf8.decodeLossy bytes) :=
    Regex.isSome_find?_iff.1 (Option.isSome_of_eq_some (Regex.find?_eq_some_iff.2 hend))
  have hplaces := (Checker.places_checkBytes hr ⟨"/"⟩ ⟨"/a"⟩ kind bytes).atFirstUse rfl (List.mem_singleton_self kind) hregex
  obtain ⟨i, hi⟩ := List.exists_mem_of_ne_nil _ (hplaces.some_iff.2 ⟨hmatches, not_infix_missingFrom bytes⟩)
  obtain ⟨hissue, hid⟩ := List.mem_filter.1 hi
  obtain ⟨-, found, hfound, hoffset, -⟩ := hplaces.each i hi
  refine ⟨i, ⟨_, ⟨"/"⟩, ⟨"/a"⟩, _, hr, rfl, of_decide_eq_true hid, hissue⟩, ?_⟩
  obtain rfl := hfound.unique hend
  rw [hoffset, Nat.zero_add, ← Utf8.byteLength_decodeLossy]
  exact congrArg byteLength List.take_length

namespace Checker

/-- Where the offsets of issues of rules on text point to, whatever the rules and the bytes are. What an issue gives as matched is
decoded of some bytes of the file; its offset and its length are theirs, and the growth of the bytes before and of their own on
top. So it addresses them if nothing grows up to their end. All issues that there can be in a file address its bytes exactly if
the bytes that are replaced together are always three, and so they do in a file of UTF-8. -/
theorem addresses_iff (kind : FileKind) (bytes : List UInt8) :
    (∀ i : Issue, i.OnText kind bytes → ∃ raw matched rest, bytes = raw ++ (matched ++ rest) ∧ i.Decodes raw matched rest ∧
      (Utf8.growth raw = 0 → Utf8.growth matched = 0 → i.Addresses bytes)) ∧
    ((∀ i : Issue, i.OnText kind bytes → i.Addresses bytes) ↔ ∀ n, .bad n ∈ Utf8.pieces bytes → n = 3) ∧
    ((∃ s, utf8 s = bytes) → ∀ i : Issue, i.OnText kind bytes → i.Addresses bytes) := by
  have ofGrowth (hgrowth : Utf8.growth bytes = 0) (i : Issue) (hi : i.OnText kind bytes) : i.Addresses bytes := by
    obtain ⟨raw, matched, rest, rfl, hdecodes⟩ := hi.exists_decodes
    rw [hdecodes.growth_eq] at hgrowth
    exact hdecodes.addresses (by omega) (by omega)
  refine ⟨fun i hi => ?_, ⟨fun h => ?_, fun h => ofGrowth (Utf8.growth_eq_zero_iff.2 h)⟩, ?_⟩
  · obtain ⟨raw, matched, rest, rfl, hdecodes⟩ := hi.exists_decodes
    exact ⟨raw, matched, rest, rfl, hdecodes, hdecodes.addresses⟩
  · obtain ⟨i, hi, hoffset⟩ := exists_onText_end kind bytes
    have hbound := (h i hi).1
    exact Utf8.growth_eq_zero_iff.1 (by omega)
  · rintro ⟨s, rfl⟩
    refine ofGrowth (Utf8.growth_eq_zero_iff.2 fun n hn => ?_)
    rw [Utf8.pieces_utf8, List.mem_map] at hn
    obtain ⟨c, -, hc⟩ := hn
    cases hc

/-- A byte that no character starts with, and three that are text. -/
def markedBytes : List UInt8 :=
  [0xFF, 0x6F, 0x6C, 0x64]

/-- The text behind the byte is found, and the issue points behind the end of the file. -/
theorem not_addresses_markedBytes :
    ∃ i ∈ ((lineChecker "old").checkBytes ⟨"/p"⟩ ⟨"/p/a.go"⟩ .go markedBytes).issues, i.OnText .go markedBytes ∧
      i.location.offset = 3 ∧ i.location.length = 3 ∧ i.matchedText = "old" ∧ markedBytes.length = 4 ∧
      Utf8.decodeLossy ((markedBytes.drop 1).take 3) = "old".toList ∧ ¬i.Addresses markedBytes := by
  have hissues : ((lineChecker "old").checkBytes ⟨"/p"⟩ ⟨"/p/a.go"⟩ .go markedBytes).issues.map
      (fun i => (i.ruleId, i.location.offset, i.location.length, i.matchedText)) = [("line", 3, 3, "old")] := by
    cbv
  obtain ⟨i, hi, hfound⟩ := List.mem_map.1 (hissues ▸ List.mem_singleton_self _)
  obtain ⟨hid, hoffset, hlength, hmatched⟩ : i.ruleId = "line" ∧ i.location.offset = 3 ∧ i.location.length = 3 ∧
      i.matchedText = "old" := by
    simpa using hfound
  have htext : Utf8.decodeLossy ((markedBytes.drop 1).take 3) = "old".toList := by cbv
  refine ⟨i, hi, ⟨_, _, _, _, lineRule_mem "old", rfl, hid, hi⟩, hoffset, hlength, hmatched, rfl, htext, fun h => ?_⟩
  have hbound := h.1
  rw [hoffset, hlength] at hbound
  exact absurd hbound (by decide)

end Checker

end ComponentAudit
