import ComponentAudit.Proofs.Checking
import ComponentAudit.Proofs.Lines
import ComponentAudit.Proofs.Matching

/-!
# Where issues are

A place of a file is computed in three ways: the running offsets of the lines, a search of the text for line and column of an
offset, and the characters of a line (`SourceFile.pointSpan?_eq_some_iff`). They agree, so the issue of a match stands where
the match is (`Matcher.quotes_issue`), and every span that a check records lies between characters of the text
(`Checker.check_located`).
-/

namespace ComponentAudit

open Collector Pattern Text

/-- A byte offset of a text at which a character starts or the text ends. -/
def Text.IsBoundary (s : List Char) (n : Nat) : Prop :=
  ∃ before after, s = before ++ after ∧ n = byteLength before

namespace Location

/-- The span of a place lies in a text, from the start of a character to the end of one. -/
structure Within (l : Location) (s : List Char) : Prop where
  starts : IsBoundary s l.offset
  ends : IsBoundary s (l.offset + l.length)
  bound : l.offset + l.length ≤ byteLength s

/-- The span of a place covers a part of a text; the line counts the line feeds before it, and the column the characters
between the last of them and the part. -/
def Covers (l : Location) (s part : List Char) : Prop :=
  ∃ before after, s = before ++ part ++ after ∧ l.offset = byteLength before ∧ l.length = byteLength part ∧
    l.line = before.count '\n' + 1 ∧ l.column = (before.rtakeWhile (· ≠ '\n')).length + 1

/-- A span over a part of a text lies in the text. -/
theorem within_of_append {l : Location} {before part after : List Char} (hoffset : l.offset = byteLength before)
    (hlength : l.length = byteLength part) : l.Within (before ++ part ++ after) := by
  have hend : l.offset + l.length = byteLength (before ++ part) := by
    rw [byteLength_append, hoffset, hlength]
  refine ⟨⟨before, part ++ after, by rw [List.append_assoc], hoffset⟩, ⟨before ++ part, after, rfl, hend⟩, ?_⟩
  rw [hend, byteLength_append (before ++ part)]
  exact Nat.le_add_right _ _

theorem Covers.within {l : Location} {s part : List Char} (h : l.Covers s part) : l.Within s := by
  obtain ⟨before, after, rfl, hoffset, hlength, -, -⟩ := h
  exact within_of_append hoffset hlength

end Location

/-- A diagnostic keeps the span of an issue that lies in the text. -/
theorem Diagnostic.label_ofIssue {i : Issue} {content : List Char} (h : i.location.Within content) :
    (ofIssue i content).label = ⟨i.severity.name, i.location.offset, i.location.length⟩ := by
  have hbound := h.bound
  have hoffset : min i.location.offset (byteLength content) = i.location.offset := by omega
  have hlength : min i.location.length (byteLength content - i.location.offset) = i.location.length := by omega
  simp only [ofIssue, hoffset, hlength]

/-! ## Places of a file -/

namespace SourceFile

/-- The span of the character at an index of a text. -/
theorem charSpan?_eq_some_iff {s : List Char} {n offset size : Nat} : charSpan? s n = some (offset, size) ↔
    ∃ before c after, s = before ++ c :: after ∧ n = before.length ∧ offset = byteLength before ∧ size = c.utf8Size := by
  induction s generalizing n offset with
  | nil => simp [charSpan?]
  | cons c rest ih =>
    cases n with
    | zero =>
      rw [charSpan?, Option.some.injEq, Prod.mk.injEq]
      constructor
      · rintro ⟨rfl, rfl⟩
        exact ⟨[], c, rest, rfl, rfl, rfl, rfl⟩
      · rintro ⟨before, d, after, hs, hn, rfl, rfl⟩
        obtain rfl := List.eq_nil_of_length_eq_zero hn.symm
        obtain ⟨rfl, -⟩ := List.cons.inj hs
        exact ⟨rfl, rfl⟩
    | succ n =>
      rw [charSpan?, Option.map_eq_some_iff]
      constructor
      · rintro ⟨⟨o, size'⟩, hrest, h⟩
        cases h
        obtain ⟨before, d, after, rfl, rfl, rfl, rfl⟩ := ih.1 hrest
        exact ⟨c :: before, d, after, rfl, rfl, rfl, rfl⟩
      · rintro ⟨before, d, after, hs, hn, rfl, rfl⟩
        cases before with
        | nil => cases hn
        | cons b before =>
          obtain ⟨rfl, rfl⟩ := List.cons.inj hs
          exact ⟨_, ih.2 ⟨before, d, after, rfl, Nat.succ.inj hn, rfl, rfl⟩, rfl⟩

/-- A line and a column have the span of the character that stands there, if it is no line feed. Column nought counts as the
first. -/
theorem pointSpan?_eq_some_iff {f : SourceFile} {line column offset size : Nat} :
    f.pointSpan? line column = some (offset, size) ↔
      ∃ before c, before ++ [c] <+: f.content ∧ c ≠ '\n' ∧ Position.start.advance before = ⟨line, column - 1 + 1⟩ ∧
        offset = byteLength before ∧ size = c.utf8Size := by
  rw [pointSpan?, Option.bind_eq_some_iff]
  constructor
  · rintro ⟨l, hfind, hspan⟩
    obtain ⟨hl, rfl⟩ := find?_number.1 hfind
    obtain ⟨⟨inLine, _⟩, hchar, h⟩ := Option.map_eq_some_iff.1 hspan
    cases h
    obtain ⟨before, after, hstands⟩ := Line.standsIn_of_mem hl
    obtain ⟨pre, c, post, htext, hindex, rfl, rfl⟩ := charSpan?_eq_some_iff.1 hchar
    have hwhole := hstands.whole
    rw [htext, List.mem_append, List.mem_cons, not_or, not_or] at hwhole
    refine ⟨before ++ pre, c, ⟨post ++ after, ?_⟩, Ne.symm hwhole.2.1, ?_, ?_, rfl⟩
    · rw [hstands.content, htext]
      simp
    · rw [advance_append, hstands.advance_eq, advance_of_not_mem hwhole.1, ← hindex, Nat.add_comm]
    · rw [byteLength_append, hstands.offset]
  · rintro ⟨before, c, ⟨after, hcontent⟩, hc, hplace, rfl, rfl⟩
    rw [List.append_assoc] at hcontent
    have hle : before.count '\n' ≤ f.content.count '\n' := by
      rw [← hcontent, List.count_append]
      exact Nat.le_add_right _ _
    obtain ⟨l, hl, hnumber⟩ := exists_line hle
    obtain ⟨start, rest, hstands⟩ := Line.standsIn_of_mem hl
    obtain ⟨pre, post, rfl, htext⟩ := hstands.holds hcontent.symm hc hnumber
    have hpre : '\n' ∉ pre := fun hmem => hstands.whole (htext ▸ List.mem_append_left _ hmem)
    rw [advance_append, hstands.advance_eq, advance_of_not_mem hpre] at hplace
    obtain ⟨rfl, hindex⟩ : l.number = line ∧ 1 + pre.length = column - 1 + 1 := Position.mk.inj hplace
    have hspan : charSpan? l.text (column - 1) = some (byteLength pre, c.utf8Size) :=
      charSpan?_eq_some_iff.2 ⟨pre, c, post, htext, by omega, rfl, rfl⟩
    refine ⟨l, find?_number.2 ⟨hl, rfl⟩, ?_⟩
    rw [hspan, byteLength_append, hstands.offset]
    rfl

/-- The place of a line and a column has a span in the text, whatever they are. -/
theorem point_within (f : SourceFile) (line column : Nat) : (f.point line column).Within f.content := by
  unfold point
  split
  · rename_i offset length hspan
    obtain ⟨before, c, ⟨after, hcontent⟩, -, -, rfl, rfl⟩ := pointSpan?_eq_some_iff.1 hspan
    rw [← hcontent]
    exact Location.within_of_append rfl rfl
  · have hempty : (f.location line column).Within ([] ++ [] ++ f.content) := Location.within_of_append rfl rfl
    exact hempty

theorem file_point (f : SourceFile) (line column : Nat) : (f.point line column).file = f.relativePath := by
  unfold point
  split
  · rfl
  · rfl

/-- A place that is asked for by a line and a column has them, with a span or without one. -/
theorem point_position (f : SourceFile) (line column : Nat) :
    (f.point line column).line = line ∧ (f.point line column).column = column := by
  unfold point
  split
  · exact ⟨rfl, rfl⟩
  · exact ⟨rfl, rfl⟩

/-- The place of the bytes of a part of the text. -/
theorem locate_eq {f : SourceFile} {before part after : List Char} (h : f.content = before ++ part ++ after) :
    f.locate (byteLength before) (byteLength part) =
      { file := f.relativePath
        line := before.count '\n' + 1
        column := (before.rtakeWhile (· ≠ '\n')).length + 1
        offset := byteLength before
        length := byteLength part } := by
  have hmin : min (byteLength before) (byteLength f.content) = byteLength before := by
    rw [h, byteLength_append, byteLength_append]
    omega
  have htake : takeBytes? (byteLength before) f.content = some before := by
    rw [h, List.append_assoc]
    exact takeBytes?_byteLength before (part ++ after)
  have hline : (Position.start.advance before).line = before.count '\n' + 1 := by
    rw [line_advance, Nat.add_comm]
    rfl
  simp only [locate, location, hmin, htake, Option.getD_some, hline, column_advance_start]

end SourceFile

/-! ## Issues of rules on text -/

/-- An issue stands at the leftmost match of an expression in a part of a file that starts at a byte offset. -/
def Issue.AtMatch (i : Issue) (regex : Regex) (offset : Nat) (part : List Char) : Prop :=
  ∃ found, regex.Leftmost part found ∧ i.location.offset = offset + byteLength (part.take found.start) ∧
    i.matchedText = String.ofList ((part.drop found.start).take found.length)

/-- An issue covers the text that it gives as matched. -/
def Issue.Quotes (i : Issue) (f : SourceFile) : Prop :=
  i.location.Covers f.content i.matchedText.toList

/-- An issue belongs to a line of a file: it has the number of the line and stands at the leftmost match in it. -/
structure Issue.InLine (i : Issue) (regex : Regex) (l : Line) : Prop where
  number : i.location.line = l.number
  atMatch : i.AtMatch regex l.offset l.text

/-- Issues that belong to the lines that match an expression, one to each and in their order. -/
structure OnePerLine (regex : Regex) (f : SourceFile) (issues : List Issue) : Prop where
  quotes : ∀ i ∈ issues, i.Quotes f
  each : List.Forall₂ (fun i l => i.InLine regex l) issues (f.lines.filter fun l => regex.Matches l.text)
  ascending : issues.Pairwise fun i j => i.location.line < j.location.line

/-- At most one issue, which stands at the leftmost match in the whole text; there is one exactly if the text matches and
does not hold the declaration. -/
structure AtFirstUse (regex : Regex) (declaration : String) (f : SourceFile) (issues : List Issue) : Prop where
  atMostOne : issues.length ≤ 1
  some_iff : issues ≠ [] ↔ regex.Matches f.content ∧ ¬declaration.toList <:+: f.content
  each : ∀ i ∈ issues, i.Quotes f ∧ i.AtMatch regex 0 f.content

/-- The issues of a rule on text are where its matches are. There are none where it does not inspect the file, or where its
pattern cannot be used. -/
def Rule.Places (r : Rule) (f : SourceFile) (issues : List Issue) : Prop :=
  match r.kind with
  | .syntaxCheck | .compilation => True
  | .pattern pattern =>
    if f.kind ∈ r.fileKinds then
      match Matcher.compile pattern with
      | .ok regex => OnePerLine regex f issues
      | .error _ => issues = []
    else issues = []
  | .importRequirement pattern declaration =>
    if f.kind ∈ r.fileKinds then
      match Matcher.compile pattern with
      | .ok regex => AtFirstUse regex declaration f issues
      | .error _ => issues = []
    else issues = []

namespace Matcher

/-- The place of the issue of a match in a part of a file. -/
theorem location_issue {m : Matcher} {f : SourceFile} {before part after : List Char}
    (h : f.content = before ++ part ++ after) (found : Regex.Match) (fix : Option String) :
    (m.issue f (byteLength before) part found fix).location =
      { file := f.relativePath
        line := (before ++ part.take found.start).count '\n' + 1
        column := ((before ++ part.take found.start).rtakeWhile (· ≠ '\n')).length + 1
        offset := byteLength (before ++ part.take found.start)
        length := byteLength ((part.drop found.start).take found.length) } := by
  have hcontent : f.content = (before ++ part.take found.start) ++ (part.drop found.start).take found.length ++
      (part.drop (found.start + found.length) ++ after) := by
    rw [h]
    nth_rewrite 1 [found.eq_around part]
    simp only [List.append_assoc]
  rw [← SourceFile.locate_eq hcontent, byteLength_append]
  rfl

/-- The issue of a match in a part of a file covers the match. -/
theorem quotes_issue {m : Matcher} {f : SourceFile} {before part after : List Char}
    (h : f.content = before ++ part ++ after) (found : Regex.Match) (fix : Option String) :
    (m.issue f (byteLength before) part found fix).Quotes f := by
  have hmatched : (m.issue f (byteLength before) part found fix).matchedText.toList =
      (part.drop found.start).take found.length := String.toList_ofList
  rw [Issue.Quotes, hmatched, location_issue h found fix, h]
  refine ⟨before ++ part.take found.start, part.drop (found.start + found.length) ++ after, ?_, rfl, rfl, rfl, rfl⟩
  nth_rewrite 1 [found.eq_around part]
  simp only [List.append_assoc]

/-- The issue of a match in a part of a file stands at the match. -/
theorem atMatch_issue {m : Matcher} {f : SourceFile} {before part after : List Char} {found : Regex.Match}
    (h : f.content = before ++ part ++ after) (hfound : m.regex.Leftmost part found) (fix : Option String) :
    (m.issue f (byteLength before) part found fix).AtMatch m.regex (byteLength before) part := by
  refine ⟨found, hfound, ?_, rfl⟩
  rw [location_issue h found fix, byteLength_append]

/-! ### Forbidden patterns -/

/-- The issue of a match in a line of a file belongs to the line. -/
theorem inLine_issue {m : Matcher} {f : SourceFile} {l : Line} {found : Regex.Match} (hl : l ∈ f.lines)
    (hfound : m.regex.Leftmost l.text found) (fix : Option String) :
    (m.issue f l.offset l.text found fix).Quotes f ∧ (m.issue f l.offset l.text found fix).InLine m.regex l := by
  obtain ⟨before, after, hl⟩ := Line.standsIn_of_mem hl
  -- There is no line feed between the start of the line and the match.
  have hcount : (l.text.take found.start).count '\n' = 0 :=
    List.count_eq_zero_of_not_mem fun h => hl.whole (List.mem_of_mem_take h)
  have hnumber : (m.issue f (byteLength before) l.text found fix).location.line = l.number := by
    rw [location_issue hl.content found fix, List.count_append, hcount, hl.number]
  rw [hl.offset]
  exact ⟨quotes_issue hl.content found fix, hnumber, hl.offset ▸ atMatch_issue hl.content hfound fix⟩

/-- The issues of a forbidden pattern belong to the lines that match, one to each and in their order. -/
theorem forall₂_forbidden (m : Matcher) (f : SourceFile) :
    List.Forall₂ (fun i l => i.Quotes f ∧ i.InLine m.regex l) (m.forbidden f)
      (f.lines.filter fun l => m.regex.Matches l.text) := by
  have ofLines : ∀ ls : List Line, (∀ l ∈ ls, l ∈ f.lines) →
      List.Forall₂ (fun i l => i.Quotes f ∧ i.InLine m.regex l)
        (ls.filterMap fun line =>
          (m.regex.find? line.text).map fun found => m.issue f line.offset line.text found m.rule.suggestedFix)
        (ls.filter fun l => m.regex.Matches l.text) := by
    intro ls
    induction ls with
    | nil => exact fun _ => .nil
    | cons l ls ih =>
      intro hmem
      have hrest := ih fun x hx => hmem x (List.mem_cons_of_mem _ hx)
      cases hfind : m.regex.find? l.text with
      | none =>
        have hnot : ¬m.regex.Matches l.text := Regex.find?_eq_none_iff_not_matches.1 hfind
        rw [List.filterMap_cons_none (by rw [hfind, Option.map_none]), List.filter_cons_of_neg (by simpa using hnot)]
        exact hrest
      | some found =>
        have hmatches : m.regex.Matches l.text := Regex.isSome_find?_iff.1 (by rw [hfind, Option.isSome_some])
        rw [List.filterMap_cons_some (by rw [hfind, Option.map_some]), List.filter_cons_of_pos (by simpa using hmatches)]
        exact .cons (inLine_issue (hmem l (List.mem_cons_self ..)) (Regex.find?_eq_some_iff.1 hfind) _) hrest
  exact ofLines f.lines fun _ h => h

/-- The issues of a forbidden pattern are one to each line that matches. -/
theorem onePerLine_forbidden (m : Matcher) (f : SourceFile) : OnePerLine m.regex f (m.forbidden f) := by
  obtain ⟨hquotes, heach⟩ := (List.forall₂_and_left _ _).1 (forall₂_forbidden m f)
  have hlines : (m.forbidden f).map (·.location.line) = (f.lines.filter fun l => m.regex.Matches l.text).map (·.number) := by
    rw [← List.forall₂_eq_eq_eq, List.forall₂_map_left_iff, List.forall₂_map_right_iff]
    exact heach.imp fun _ _ h => h.number
  have hascending : ((m.forbidden f).map (·.location.line)).Pairwise (· < ·) := by
    rw [hlines, List.pairwise_map]
    exact (pairwise_numberedLines f.content).filter _
  exact ⟨hquotes, heach, List.pairwise_map.1 hascending⟩

/-- What a forbidden pattern says records its issues and no others. -/
theorem filterMap_issue?_forbid (m : Matcher) (f : SourceFile) : (m.forbid f).filterMap Call.issue? = m.forbidden f := by
  simp only [forbid]
  split
  · rename_i h
    rw [List.isEmpty_iff.1 h.1]
    rfl
  · rw [List.filterMap_map]
    exact List.filterMap_some

/-! ### Import requirements -/

/-- What an import requirement says records the issue of the first use, if the declaration is missing. -/
theorem atFirstUse_requireDeclaration (m : Matcher) (declaration : String) (f : SourceFile) :
    AtFirstUse m.regex declaration f ((m.requireDeclaration declaration f).filterMap Call.issue?) := by
  have none (h : ¬(m.regex.Matches f.content ∧ ¬declaration.toList <:+: f.content)) :
      AtFirstUse m.regex declaration f [] :=
    ⟨Nat.zero_le 1, by simp [h], fun _ hi => absurd hi List.not_mem_nil⟩
  unfold requireDeclaration
  split
  · rename_i hfind
    have hunused := none fun h => Regex.find?_eq_none_iff_not_matches.1 hfind h.1
    split
    · exact hunused
    · exact hunused
  · rename_i usage hfind
    have hmatches : m.regex.Matches f.content := Regex.isSome_find?_iff.1 (by rw [hfind, Option.isSome_some])
    split
    · rename_i hdeclared
      exact none fun h => h.2 (contains_iff.1 hdeclared)
    · rename_i hundeclared
      have hcontent : f.content = [] ++ f.content ++ [] := by rw [List.nil_append, List.append_nil]
      have hmissing : ¬declaration.toList <:+: f.content := mt contains_iff.2 hundeclared
      refine ⟨Nat.le_refl 1, iff_of_true (List.cons_ne_nil _ _) ⟨hmatches, hmissing⟩, fun i hi => ?_⟩
      rw [List.mem_singleton.1 hi]
      exact ⟨quotes_issue hcontent usage _, atMatch_issue hcontent (Regex.find?_eq_some_iff.1 hfind) _⟩

end Matcher

/-! ## Issues of a check -/

namespace Rule

variable (r : Rule) (f : SourceFile) (outcome : Except SyntaxFailure Unit)

/-- The issues that a rule on text records are where its matches are. -/
theorem places_calls : r.Places f ((r.calls f outcome).filterMap Call.issue?) := by
  have happlies : r.appliesTo f.kind = true ↔ f.kind ∈ r.fileKinds := List.contains_iff_mem
  rw [Places, calls]
  by_cases ha : r.appliesTo f.kind = true
  · rw [if_pos ha]
    simp only [happlies.1 ha, if_true]
    cases r.kind with
    | syntaxCheck => trivial
    | compilation => trivial
    | pattern pattern =>
      cases hc : Matcher.compile pattern with
      | ok regex =>
        simp only [hc, Matcher.filterMap_issue?_forbid]
        exact Matcher.onePerLine_forbidden ⟨r, regex⟩ f
      | error reason => simp only [hc, List.filterMap_nil]
    | importRequirement pattern declaration =>
      cases hc : Matcher.compile pattern with
      | ok regex =>
        simp only [hc]
        exact Matcher.atFirstUse_requireDeclaration ⟨r, regex⟩ declaration f
      | error reason => simp only [hc, List.filterMap_nil]
  · rw [if_neg ha]
    simp only [mt happlies.2 ha, if_false, List.filterMap_nil]
    cases r.kind with
    | syntaxCheck => trivial
    | compilation => trivial
    | pattern pattern => trivial
    | importRequirement pattern declaration => trivial

variable {r f outcome}

/-- The issues of a rule on text cover what they give as matched. -/
theorem Places.quotes {issues : List Issue} (h : r.Places f issues) (htext : r.kind.regex?.isSome = true) {i : Issue}
    (hi : i ∈ issues) : i.Quotes f := by
  have hnone : issues = [] → i.Quotes f := fun h => absurd (h ▸ hi) List.not_mem_nil
  rw [Places] at h
  cases hk : r.kind with
  | syntaxCheck | compilation =>
    rw [hk] at htext
    cases htext
  | pattern pattern =>
    simp only [hk] at h
    split at h
    · split at h
      · exact h.quotes i hi
      · exact hnone h
    · exact hnone h
  | importRequirement pattern declaration =>
    simp only [hk] at h
    split at h
    · split at h
      · exact (h.each i hi).1
      · exact hnone h
    · exact hnone h

/-- The issue that a rule records has its span in the text. -/
theorem within_of_mem_calls {i : Issue} (h : .record i ∈ r.calls f outcome) : i.location.Within f.content := by
  have hi : i ∈ (r.calls f outcome).filterMap Call.issue? := List.mem_filterMap.2 ⟨_, h, rfl⟩
  rcases of_mem_calls h with ⟨-, hcall⟩ | ⟨-, hcall⟩ | ⟨m, hm, -, -⟩
  · cases outcome with
    | ok u => cases hcall
    | error failure =>
      cases hcall
      exact SourceFile.point_within f _ _
  · cases outcome with
    | ok u => cases hcall
    | error failure => cases hcall
  · obtain ⟨pattern, hpattern, -⟩ := Option.bind_eq_some_iff.1 hm
    exact ((places_calls r f outcome).quotes (by rw [hpattern, Option.isSome_some]) hi).within

end Rule

namespace Checker

/-- Where the issues of a check are, for any rules, parser and text. Each span lies in the text, from the start of a
character to the end of one, and a diagnostic over the text keeps it. The issues of a rule on text are at its matches: what
they give as matched is what their spans cover, with its line and its column. A forbidden pattern has one issue for each line
that matches, in the order of the lines; an import requirement has one if its declaration is missing. -/
theorem check_located (c : Checker) (f : SourceFile) (found : Collector) :
    ∃ recorded, (c.check f found).issues = found.issues ++ recorded ∧
      (∀ i ∈ recorded, i.location.Within f.content ∧
        (Diagnostic.ofIssue i f.content).label = ⟨i.severity.name, i.location.offset, i.location.length⟩ ∧
        ∃ r ∈ c.registry.rules, r.id = i.ruleId) ∧
      ∀ r ∈ c.registry.rules, r.Places f (recorded.filter fun i => i.ruleId = r.id) := by
  have hcalls := calls_eq_callsFor c f
  refine ⟨(c.calls f).filterMap Call.issue?, ?_, ?_, ?_⟩
  · rw [check, hcalls]
    exact issues_runAll (plain_callsFor c f _) found
  · intro i hi
    obtain ⟨call, hcall, hissue⟩ := List.mem_filterMap.1 hi
    cases call with
    | record i' =>
      cases hissue
      rw [hcalls] at hcall
      obtain ⟨r, hr, hrule⟩ := exists_rule_of_mem_callsFor hcall
      have hwithin := Rule.within_of_mem_calls ((mem_calls_iff hr).2 ⟨hcall, hrule⟩)
      exact ⟨hwithin, Diagnostic.label_ofIssue hwithin, r, hr, (Option.some.inj hrule).symm⟩
    | pass x => cases hissue
    | fail x => cases hissue
    | absorb calls => cases hissue
  · intro r hr
    rw [filter_filterMap_issue?, hcalls, filter_callsFor hr]
    exact r.places_calls f _

end Checker

end ComponentAudit
