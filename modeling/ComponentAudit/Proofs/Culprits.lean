import ComponentAudit.Proofs.Addresses
import ComponentAudit.Proofs.Braces
import ComponentAudit.Proofs.Declarations

/-!
# What the errors of templates are about

An error in the outline of a template is about one character: the first closing brace without a partner, the first opening
brace without one, or the first character of the first line that opens with the keyword. The positions of errors are counted
while the text is read, and the places of issues are looked up in its lines; both find that character
(`Template.underlined_point`), so the issues of a check underline it (`Checker.check_underlines`).
-/

namespace ComponentAudit

open Collector Text

namespace Template

variable {s before : List Char} {e : OutlineError}

/-! ## Closing braces without a partner -/

/-- A closing brace has a partner in the text before it: an opening brace with a balanced text between the two. -/
def HasOpening (before : List Char) : Prop :=
  ∃ outer inner, before = outer ++ '{' :: inner ∧ Balanced inner

/-- What comes before the first closing brace of a text that has no partner. -/
structure FirstUnopened (s before : List Char) : Prop where
  alone : before ++ ['}'] <+: s ∧ ¬HasOpening before
  earliest : ∀ earlier, earlier ++ ['}'] <+: s → ¬HasOpening earlier → before.length ≤ earlier.length

/-- Where no more is closed than opened, the braces that are not closed are open. -/
theorem exists_leavesOpen (h : ∀ t, t <+: s → ¬Exceeds t) : ∃ opened, LeavesOpen s opened := by
  rcases scanBraces_cases (.nothing balanced_nil) s with ⟨before, hfirst, -⟩ | ⟨opened, hopen, -⟩
  · obtain ⟨c, hprefix, hexceeds⟩ := hfirst.excess
    exact absurd hexceeds (h _ hprefix)
  · exact ⟨opened, hopen⟩

/-- Where a balanced text goes on with a closing brace, an opening brace is its partner. -/
theorem Balanced.hasOpening {earlier rest : List Char} (h : Balanced (earlier ++ '}' :: rest)) : HasOpening earlier := by
  have hahead : ∀ t, t <+: earlier → ¬Exceeds t := fun t ht => Nat.not_lt.2 (h.ahead t (ht.trans (List.prefix_append _ _)))
  obtain ⟨opened, hopen⟩ := exists_leavesOpen hahead
  cases hopen with
  | nothing hbalanced =>
    have hclosing := h.ahead (earlier ++ ['}']) ⟨rest, by simp⟩
    have heven := hbalanced.even
    rw [List.count_append, List.count_append, List.count_singleton_self, List.count_singleton, if_neg (by decide)]
      at hclosing
    omega
  | brace _ hinner => exact ⟨_, _, rfl, hinner⟩

/-- More is closed than opened for the first time at the first closing brace without a partner. -/
theorem FirstExcess.firstUnopened (h : FirstExcess s before) : FirstUnopened s before := by
  obtain ⟨hbalanced, hstands⟩ := h.balanced
  refine ⟨⟨hstands, ?_⟩, fun earlier hearlier halone => ?_⟩
  · rintro ⟨outer, inner, rfl, hinner⟩
    have hahead := hbalanced.ahead outer (List.prefix_append _ _)
    have heven := hbalanced.even
    have hinner := hinner.even
    simp only [List.count_append, List.count_cons_self, List.count_cons_of_ne (show '{' ≠ '}' by decide)] at heven
    omega
  · by_contra hlt
    have hbefore : before <+: s := (List.prefix_append _ _).trans hstands
    have hlength : (earlier ++ ['}']).length ≤ before.length := by
      rw [List.length_append, List.length_singleton]
      omega
    obtain ⟨rest, hrest⟩ := List.prefix_of_prefix_length_le hearlier hbefore hlength
    rw [List.append_assoc, List.singleton_append] at hrest
    exact halone (Balanced.hasOpening (hrest ▸ hbalanced))

/-! ## Errors -/

/-- A place underlines what an error in the outline of a text is about. -/
def OutlineError.Underlined (s : List Char) (l : Location) : OutlineError → Prop
  | .unbalancedClosing _ => ∃ before, FirstUnopened s before ∧ l.offset = byteLength before ∧ l.length = 1
  | .unbalancedOpening _ _ => ∃ before, FirstOpen s before ∧ l.offset = byteLength before ∧ l.length = 1
  | .invalidDeclaration number => ∃ before c line after, FirstMarker s number ∧ Marker s number (c :: line) after ∧
      s = before ++ (c :: line ++ after) ∧ l.offset = byteLength before ∧ l.length = c.utf8Size

/-- What is underlined is never empty. -/
theorem OutlineError.Underlined.length_pos {l : Location} (h : e.Underlined s l) : 0 < l.length := by
  cases e with
  | unbalancedClosing _ | unbalancedOpening _ _ =>
    obtain ⟨_, -, -, hlength⟩ := h
    exact hlength ▸ Nat.one_pos
  | invalidDeclaration _ =>
    obtain ⟨_, c, _, _, -, -, -, -, hlength⟩ := h
    exact hlength ▸ Char.utf8Size_pos c

/-- Where the check of braces fails, it is for the first brace without a partner. -/
theorem checkBraces_error (h : checkBraces s = .error e) :
    (∃ before, FirstUnopened s before ∧ e = .unbalancedClosing (placeAfter before)) ∨
      ∃ before unclosed, FirstOpen s before ∧ e = .unbalancedOpening unclosed (placeAfter before) := by
  have hcheck : checkBraces s = scanBraces (placeAfter []) ([].map placeAfter) s := rfl
  rw [hcheck] at h
  rcases scanBraces_cases (.nothing balanced_nil) s with ⟨before, hfirst, hscan⟩ | ⟨left, hleft, hscan⟩
  · rw [hscan] at h
    exact Or.inl ⟨before, hfirst.firstUnopened, (Except.error.inj h).symm⟩
  · rw [hscan] at h
    cases hlast : left.getLast? with
    | none =>
      rw [hlast] at h
      cases h
    | some outermost =>
      rw [hlast] at h
      exact Or.inr ⟨outermost, left.length, hleft.firstOpen hlast, (Except.error.inj h).symm⟩

section Markers

variable {line after : List Char} {number : Nat}

/-- A line that opens with the keyword has a first character, which does not end it. -/
theorem Marker.exists_head (h : Marker s number line after) : ∃ c rest, line = c :: rest ∧ c ≠ '\n' := by
  obtain ⟨hline, w, hw, hprefix⟩ := h
  have hlength : keyword.length ≤ line.length := by
    obtain ⟨u, hu, v, -, rfl⟩ := Language.mem_mul.1 hw
    obtain ⟨a, -, b, hb, rfl⟩ := Language.mem_mul.1 hu
    have hle := hprefix.length_le
    rw [show b = keyword from hb, List.length_append, List.length_append] at hle
    omega
  cases line with
  | nil => exact absurd hlength (by decide)
  | cons c rest =>
    refine ⟨c, rest, rfl, ?_⟩
    rintro rfl
    rcases hline.ends with ⟨body, hbody, heq⟩ | ⟨hwhole, -⟩
    · cases body with
      | nil =>
        rw [heq] at hlength
        exact absurd hlength (by decide)
      | cons d body =>
        obtain ⟨rfl, -⟩ := List.cons.inj heq
        exact hbody (List.mem_cons_self ..)
    · exact hwhole (List.mem_cons_self ..)

/-- A line starts in the first column. -/
theorem LineIn.exists_before (h : LineIn s number line after) :
    ∃ before, s = before ++ (line ++ after) ∧ placeAfter before = ⟨number, 1⟩ := by
  obtain ⟨before, hs, hopens, hnumber⟩ := h.stands
  have hnone : before.rtakeWhile (· ≠ '\n') = [] := by
    rcases hopens with rfl | ⟨earlier, rfl⟩
    · rfl
    · exact List.rtakeWhile_concat_neg _ _ _ (by simp)
  refine ⟨before, hs, ?_⟩
  rw [placeAfter, hnone, hnumber, Nat.add_comm 1]
  rfl

/-- Where the check of declarations fails, it is for the first line that opens with the keyword. -/
theorem checkDeclarations_error (h : checkDeclarations s = .error e) :
    ∃ number line after, FirstMarker s number ∧ Marker s number line after ∧ e = .invalidDeclaration number := by
  unfold checkDeclarations at h
  split at h
  · cases h
  · rename_i first others hmarkers
    split at h
    · cases h
    · have hfirst := (firstMarker_iff hmarkers).2 (rfl : first.1 = first.1)
      obtain ⟨line, after, hmarker⟩ := hfirst.marker
      exact ⟨first.1, line, after, hfirst, hmarker, (Except.error.inj h).symm⟩

end Markers

/-- What an error is about starts with a character, at the position of the error. -/
theorem exists_culprit (h : check s = .error e) :
    ∃ before c, before ++ [c] <+: s ∧ c ≠ '\n' ∧ Position.start.advance before = e.position ∧
      ∀ l : Location, l.offset = byteLength before → l.length = c.utf8Size → e.Underlined s l := by
  unfold check at h
  cases hbraces : checkBraces s with
  | error e' =>
    rw [hbraces] at h
    obtain rfl : e' = e := Except.error.inj h
    rcases checkBraces_error hbraces with ⟨before, hfirst, rfl⟩ | ⟨before, unclosed, hfirst, rfl⟩
    · exact ⟨before, '}', hfirst.alone.1, by decide, advance_start before,
        fun l hoffset hlength => ⟨before, hfirst, hoffset, hlength⟩⟩
    · obtain ⟨after, hs, -⟩ := hfirst.alone
      have hprefix : before ++ ['{'] <+: s := ⟨after, by rw [hs, List.append_assoc]; rfl⟩
      exact ⟨before, '{', hprefix, by decide, advance_start before,
        fun l hoffset hlength => ⟨before, hfirst, hoffset, hlength⟩⟩
  | ok u =>
    rw [hbraces] at h
    obtain ⟨number, line, after, hfirst, hmarker, rfl⟩ := checkDeclarations_error h
    obtain ⟨c, rest, rfl, hc⟩ := hmarker.exists_head
    obtain ⟨before, hs, hplace⟩ := hmarker.1.exists_before
    have hprefix : before ++ [c] <+: s := ⟨rest ++ after, by rw [hs]; simp⟩
    exact ⟨before, c, hprefix, hc, (advance_start before).trans hplace,
      fun l hoffset hlength => ⟨before, c, rest, after, hfirst, hmarker, hs, hoffset, hlength⟩⟩

/-- The place of the position of an error underlines what the error is about. -/
theorem underlined_point {f : SourceFile} (h : check f.content = .error e) :
    e.Underlined f.content (f.point e.position.line e.position.column) := by
  obtain ⟨before, c, hprefix, hc, hplace, hunderlined⟩ := exists_culprit h
  have hpoint : f.point e.position.line e.position.column = f.placeOf before c :=
    SourceFile.point_eq_placeOf hprefix hc hplace
  rw [hpoint, SourceFile.placeOf_eq hprefix]
  exact hunderlined _ rfl rfl

end Template

namespace Checker

/-- The issues of a check of a template underline what is wrong with its outline. Where the outline is wrong, each rule on
syntax that inspects templates has one issue, at the line and the column of the error. It has the span of the first closing
brace without a partner, of the first opening brace without one, or of the first character of the first line that opens with
the keyword; so it is never empty. -/
theorem check_underlines (c : Checker) (f : SourceFile) (found : Collector) {e : Template.OutlineError}
    (hkind : f.kind = .templ) (he : Template.check f.content = .error e) :
    ∃ recorded, (c.check f found).issues = found.issues ++ recorded ∧
      ∀ r ∈ c.registry.rules, r.kind = .syntaxCheck → .templ ∈ r.fileKinds →
        ∃ i, recorded.filter (fun i => i.ruleId = r.id) = [i] ∧
          i.location = f.point e.position.line e.position.column ∧ i.location.line = e.position.line ∧
          i.location.column = e.position.column ∧ e.Underlined f.content i.location ∧ 0 < i.location.length := by
  have houtcome : checkSyntax c.parser f.kind f.content = .error (.outline e) := by
    rw [hkind, checkSyntax, he]
    rfl
  have hcalls := calls_eq_callsFor c f
  rw [houtcome] at hcalls
  refine ⟨(c.calls f).filterMap Call.issue?, ?_, fun r hr hsyntax happlies => ?_⟩
  · rw [check, hcalls]
    exact issues_runAll (plain_callsFor c f _) found
  · have happlies : r.appliesTo f.kind = true := hkind ▸ List.contains_iff_mem.2 happlies
    have hrule : r.calls f (.error (.outline e)) = [syntaxCall f (.error (.outline e)) r] := by
      rw [Rule.calls, if_pos happlies, hsyntax]
    have hissues : ((c.calls f).filterMap Call.issue?).filter (fun i => i.ruleId = r.id) =
        [syntaxCall f (.error (.outline e)) r].filterMap Call.issue? := by
      rw [filter_filterMap_issue?, hcalls, filter_callsFor hr, hrule]
    obtain ⟨hline, hcolumn⟩ := f.point_position e.position.line e.position.column
    have hunderlined := Template.underlined_point he
    exact ⟨_, hissues, rfl, hline, hcolumn, hunderlined, hunderlined.length_pos⟩

/-- A rule on the syntax of templates. -/
def outlineRule : Rule where
  id := "outline"
  name := "Outline"
  kind := .syntaxCheck
  fileKinds := [.templ]
  message := "wrong outline"

/-- A component with a closing brace too many, after characters of two bytes. -/
def unopenedFile : SourceFile :=
  ⟨⟨"a.templ"⟩, .templ, "templ É() \x7b\n\té \x7d \x7d\n".toList⟩

/-- Of the two closing braces on the second line, the second one is underlined. -/
theorem check_underlines_unopened :
    unopenedFile.kind = .templ ∧ Template.check unopenedFile.content = .error (.unbalancedClosing ⟨2, 6⟩) ∧
    ∃ i, ((ofRegistry ⟨[outlineRule], by decide⟩ .acceptAll).check unopenedFile .empty).issues.filter
        (fun i => i.ruleId = "outline") = [i] ∧
      i.location = ⟨⟨"a.templ"⟩, 2, 6, 19, 1⟩ ∧
      Template.OutlineError.Underlined unopenedFile.content i.location (.unbalancedClosing ⟨2, 6⟩) := by
  have hcheck : Template.check unopenedFile.content = .error (.unbalancedClosing ⟨2, 6⟩) := by decide
  obtain ⟨recorded, hissues, hrules⟩ :=
    check_underlines (ofRegistry ⟨[outlineRule], by decide⟩ .acceptAll) unopenedFile .empty rfl hcheck
  obtain ⟨i, hfilter, hlocation, -, -, hunderlined, -⟩ := hrules outlineRule (List.mem_singleton_self _) rfl (by decide)
  have hpoint : unopenedFile.point 2 6 = ⟨⟨"a.templ"⟩, 2, 6, 19, 1⟩ := by decide
  refine ⟨rfl, hcheck, i, ?_, hlocation.trans hpoint, hunderlined⟩
  rw [hissues]
  exact hfilter

end Checker

end ComponentAudit
