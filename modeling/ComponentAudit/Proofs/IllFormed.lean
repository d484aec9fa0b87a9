import ComponentAudit.Proofs.Places
import ComponentAudit.Proofs.Verdicts
import ComponentAudit.Rules.Builtin

/-!
# Files that are not UTF-8

The syntax check fails on bytes that are not UTF-8, and rules on text look at what can be decoded of them. The two speak of the
same lines: those of the text are decoded from those of the bytes, an issue of a rule on text has the line of the bytes that it
stands at, and the failure has the line of the first U+FFFD that stands for bytes (`Checker.checkBytes_illFormed`).
-/

namespace ComponentAudit

open Collector Text

/-- An issue stands at a byte of a file, between what is decoded of the bytes before and after; its line counts the line feeds
among the bytes before. -/
def Issue.InBytes (i : Issue) (bytes : List UInt8) : Prop :=
  ∃ raw rest, bytes = raw ++ rest ∧ Utf8.decodeLossy bytes = Utf8.decodeLossy raw ++ Utf8.decodeLossy rest ∧
    i.location.offset = byteLength (Utf8.decodeLossy raw) ∧ i.matchedText.toList <+: Utf8.decodeLossy rest ∧
    i.location.line = raw.count 10 + 1

/-- An issue that covers what it gives as matched stands at a byte. -/
theorem Issue.Quotes.inBytes {i : Issue} {f : SourceFile} {bytes : List UInt8} (h : i.Quotes f)
    (hcontent : f.content = Utf8.decodeLossy bytes) : i.InBytes bytes := by
  obtain ⟨before, after, hcovers, hoffset, -, hline, -⟩ := h
  rw [hcontent, List.append_assoc] at hcovers
  obtain ⟨raw, rest, hbytes, hraw, hrest⟩ := Utf8.exists_append_of_decodeLossy hcovers
  refine ⟨raw, rest, hbytes, ?_, ?_, ?_, ?_⟩
  · rw [hcovers, hraw, hrest]
  · rw [hoffset, hraw]
  · exact ⟨after, hrest.symm⟩
  · rw [hline, ← hraw, Utf8.count_decodeLossy]

/-- The failure of bytes has the line of the first bad one, and the bytes of the line before it give the column. -/
theorem SyntaxFailure.ofBytes_append (valid rest : List UInt8) :
    ofBytes (valid ++ rest) valid.length =
      .encoding (valid.count 10 + 1) ((valid.rtakeWhile (· ≠ 10)).length + 1) := by
  rw [ofBytes, List.take_left, List.rtakeWhile, List.length_reverse]

/-- The syntax check fails on bytes that are no text. -/
theorem syntaxOutcome_illFormed {bytes : List UInt8} (h : ∀ s, utf8 s ≠ bytes) (parser : SourceParser) (kind : FileKind) :
    syntaxOutcome parser kind bytes = .error (.ofBytes bytes (Utf8.validLength bytes)) := by
  rw [syntaxOutcome]
  cases hdecode : Utf8.decode? bytes with
  | none => rfl
  | some s => exact absurd (Utf8.decode?_eq_some_iff.1 hdecode) (h s)

namespace Checker

/-- What a check says of bytes that are no text. Their lines are those of what is decoded of them, and an issue of a rule on text
has the line of the byte that it stands at. The failure of the syntax check stands where the first U+FFFD is read for bytes that
are no character: it has the line of that character, as the end of the valid bytes has in what is decoded, and its column counts
the bytes of the line. A rule on syntax records the failure in one issue at the start of the file, and a rule on compilation
fails. -/
theorem checkBytes_illFormed (c : Checker) (root path : Path) (kind : FileKind) {bytes : List UInt8}
    (h : ∀ s, utf8 s ≠ bytes) :
    let f := SourceFile.ofPath path (Utf8.decodeLossy bytes) root kind
    let found := c.checkBytes root path kind bytes
    let failure := SyntaxFailure.ofBytes bytes (Utf8.validLength bytes)
    lines f.content = (bytes.splitOn 10).map Utf8.decodeLossy ∧
    (∀ r ∈ c.registry.rules, r.kind.regex?.isSome = true → ∀ i ∈ found.issues, i.ruleId = r.id → i.InBytes bytes) ∧
    (∃ before broken later, Utf8.FirstBroken bytes before broken later ∧
      failure = .encoding (before.count '\n' + 1) (((utf8 before).rtakeWhile (· ≠ 10)).length + 1) ∧
      (f.locate (Utf8.validLength bytes) 0).line = before.count '\n' + 1) ∧
    ∀ r ∈ c.registry.rules, kind ∈ r.fileKinds →
      (r.kind = .syntaxCheck → ∃ i, found.issues.filter (fun i => i.ruleId = r.id) = [i] ∧
        i.location.line = 1 ∧ i.location.column = 1 ∧ i.matchedText = failure.message) ∧
      (r.kind = .compilation → r.id ∈ found.failed.ids ∧ r.id ∉ found.passed.ids) := by
  intro f found failure
  have hfound : found = Collector.empty.runAll (c.callsFor f (.error failure)) := by
    rw [← syntaxOutcome_illFormed h c.parser kind]
    exact checkBytes_eq c root path kind bytes
  refine ⟨Utf8.lines_decodeLossy bytes, ?_, ?_, ?_⟩
  · intro r hr htext i hi hid
    obtain ⟨hissues, -, -⟩ := runAll_callsFor hr f (.error failure)
    have hmem : i ∈ (r.calls f (.error failure)).filterMap Call.issue? := by
      rw [← hissues, ← hfound]
      exact List.mem_filter.2 ⟨hi, decide_eq_true hid⟩
    exact ((r.places_calls f (.error failure)).quotes htext hmem).inBytes rfl
  · obtain ⟨before, broken, later, hbroken, hvalid⟩ := Utf8.exists_firstBroken h
    refine ⟨before, broken, later, hbroken, ?_, ?_⟩
    · have hfailure := SyntaxFailure.ofBytes_append (utf8 before) (broken ++ later)
      rw [← hbroken.bytes_eq, ← hvalid, Utf8.count_utf8] at hfailure
      exact hfailure
    · have hcontent : f.content = before ++ [] ++ '\uFFFD' :: Utf8.decodeLossy later := by
        rw [List.append_nil]
        exact hbroken.decoded
      rw [hvalid, Utf8.length_utf8]
      exact congrArg Location.line (SourceFile.locate_eq hcontent)
  · intro r hr hkind
    have happlies : r.appliesTo f.kind = true := List.contains_iff_mem.2 hkind
    obtain ⟨hissues, hpassed, hfailed⟩ := runAll_callsFor hr f (.error failure)
    rw [hfound, hissues, hpassed, hfailed, Rule.calls, if_pos happlies]
    constructor
    · intro hcheck
      rw [hcheck]
      obtain ⟨hline, hcolumn⟩ := f.point_position failure.position.line failure.position.column
      exact ⟨_, rfl, hline, hcolumn, rfl⟩
    · intro hcompilation
      rw [hcompilation]
      exact ⟨⟨_, List.mem_singleton_self _, .inl rfl⟩, fun hpass => by cases List.mem_singleton.1 hpass⟩

/-- Three lines of bytes, of which the second is a character that is not complete. -/
def truncatedBytes : List UInt8 :=
  [97, 10, 0xE2, 0x82, 10, 98]

/-- A checker with the rule on the syntax of source files. -/
def syntaxChecker : Checker :=
  ofRegistry ⟨[Rules.goSyntax], List.nodup_singleton _⟩ .acceptAll

/-- The line feed behind the incomplete character is still one. -/
theorem checkBytes_illFormed_truncated :
    (∀ s, utf8 s ≠ truncatedBytes) ∧
    lines (Utf8.decodeLossy truncatedBytes) = [['a'], ['\uFFFD'], ['b']] ∧
    SyntaxFailure.ofBytes truncatedBytes (Utf8.validLength truncatedBytes) = .encoding 2 1 ∧
    ∃ i, (syntaxChecker.checkBytes ⟨"/p"⟩ ⟨"/p/a.go"⟩ .go truncatedBytes).issues.filter
        (fun i => i.ruleId = Rules.goSyntax.id) = [i] ∧ i.location.line = 1 ∧ i.location.column = 1 ∧
      i.matchedText = "2:1: illegal UTF-8 encoding" := by
  have hnone : Utf8.decode? truncatedBytes = none := by cbv
  have hbroken : ∀ s, utf8 s ≠ truncatedBytes := fun s hs => by
    rw [Utf8.decode?_eq_some_iff.2 hs] at hnone
    cases hnone
  have hfailure : SyntaxFailure.ofBytes truncatedBytes (Utf8.validLength truncatedBytes) = .encoding 2 1 := by cbv
  obtain ⟨hlines, -, -, hrules⟩ := syntaxChecker.checkBytes_illFormed ⟨"/p"⟩ ⟨"/p/a.go"⟩ .go hbroken
  obtain ⟨hrecorded, -⟩ := hrules Rules.goSyntax (List.mem_singleton_self _) (List.mem_singleton_self _)
  obtain ⟨i, hi, hline, hcolumn, hmatched⟩ := hrecorded rfl
  rw [hfailure] at hmatched
  refine ⟨hbroken, hlines.trans ?_, hfailure, i, hi, hline, hcolumn, hmatched.trans (by decide)⟩
  cbv

end Checker

end ComponentAudit
