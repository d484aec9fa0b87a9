import ComponentAudit.Proofs.Addresses
import ComponentAudit.Snippet
import ComponentAudit.Template

/-!
# What can be drawn

A text of one line is shown whole when a part of it is underlined (`Snippet.shownLines_oneLine`), and the underline starts in
the column after what is before that part (`Snippet.columnOf_byteLength`). So the part can be drawn exactly if that column is
within the margin (`Diagnostic.isDrawable_iff`).
-/

namespace ComponentAudit

open Text

/-- No character of a text ends a line. -/
def Text.OneLine (s : List Char) : Prop :=
  ∀ c ∈ s, c ≠ '\r' ∧ c ≠ '\n'

namespace Snippet

variable {span : Label} {s : List Char}

/-! ## Texts of one line -/

theorem lineStarts_oneLine (h : OneLine s) (offset : Nat) : lineStarts offset s = [] := by
  induction s generalizing offset with
  | nil => rfl
  | cons c s ih =>
    obtain ⟨⟨hreturn, hfeed⟩, hrest⟩ := List.forall_mem_cons.1 h
    rw [lineStarts, if_neg (not_or.2 ⟨hreturn, hfeed⟩), ih hrest]
    exact fun _ hc => absurd hc hreturn

theorem lastShown_oneLine (h : OneLine s) (offset : Nat) (passed : Bool) (ended : Nat) :
    lastShown span offset passed ended s = offset + byteLength s := by
  induction s generalizing offset passed with
  | nil =>
    rw [lastShown]
    rfl
  | cons c s ih =>
    obtain ⟨⟨hreturn, hfeed⟩, hrest⟩ := List.forall_mem_cons.1 h
    rw [lastShown, if_neg (not_or.2 ⟨hreturn, hfeed⟩), ih hrest, byteLength_cons, Nat.add_assoc]
    exact fun _ hc => absurd hc hreturn

theorem linesOf_oneLine (h : OneLine s) (hs : s ≠ []) (number start offset : Nat) (text : List Char) :
    linesOf number start offset text s = [⟨number + 1, start, offset + byteLength s - start, text.reverse ++ s⟩] := by
  induction s generalizing offset text with
  | nil => exact absurd rfl hs
  | cons c s ih =>
    obtain ⟨⟨hreturn, hfeed⟩, hrest⟩ := List.forall_mem_cons.1 h
    rw [byteLength_cons]
    cases s with
    | nil =>
      rw [linesOf, List.reverse_cons]
      · rfl
      · exact hfeed
      · exact hreturn
    | cons d s =>
      rw [linesOf, ih hrest (List.cons_ne_nil _ _), List.reverse_cons, List.append_assoc, Nat.add_assoc]
      · rfl
      · exact fun _ hc => absurd hc hreturn
      · exact hfeed
      · exact fun hc => absurd hc hreturn
      · exact List.cons_ne_nil _ _

/-- A text of one line is shown whole, wherever the span is. -/
theorem shownLines_oneLine (h : OneLine s) (hs : s ≠ []) (span : Label) :
    shownLines s span = [⟨1, 0, byteLength s, s⟩] := by
  have hstarts : startsBefore s span = [0] := by rw [startsBefore, lineStarts_oneLine h, List.takeWhile_nil]
  have htake : takeBytes? (byteLength s) s = some s := by
    have := takeBytes?_byteLength s []
    rwa [List.append_nil] at this
  have hdrop : dropBytes? 0 s = some s := by rw [dropBytes?]
  rw [shownLines, hstarts, lastShown_oneLine h, Nat.zero_add]
  show linesOf 0 0 0 [] ((takeBytes? (byteLength s - 0) ((dropBytes? 0 s).getD [])).getD _) = _
  rw [hdrop, Option.getD_some, Nat.sub_zero, htake, Option.getD_some, linesOf_oneLine h hs, Nat.sub_zero, Nat.zero_add,
    Nat.zero_add]
  rfl

/-! ## Columns -/

/-- The characters within the bytes of the first part of a text are that part. -/
theorem within_byteLength (partly : Bool) (before after : List Char) :
    within partly (byteLength before) (before ++ after) = before := by
  induction before with
  | nil => rw [byteLength, List.foldr_nil, within]
  | cons c before ih =>
    obtain ⟨n, hn, hsize, hrest⟩ := exists_byteLength_cons c before
    rw [hn, List.cons_append, within, if_pos hsize, hrest, ih]

/-- The column after the first part of a line. -/
def columnAfter (before : List Char) : Nat :=
  (charWidths 0 false before).foldr (fun w n => w + n) 0

theorem columnOf_byteLength {before after : List Char} (number size : Nat) (partly : Bool) :
    columnOf ⟨number, 0, size, before ++ after⟩ (byteLength before) partly = columnAfter before := by
  have hle : ¬byteLength (before ++ after) < byteLength before := by
    rw [byteLength_append]
    omega
  rw [columnOf, Nat.sub_zero, within_byteLength, if_neg hle]
  rfl

/-- Blanks take a column each. -/
theorem charWidths_blanks (n column : Nat) : charWidths column false (List.replicate n ' ') = List.replicate n 1 := by
  induction n generalizing column with
  | zero => rfl
  | succ n ih =>
    have hwidth : charWidth ' ' = 1 := by decide
    rw [List.replicate_succ, charWidths, if_neg Bool.false_ne_true, if_neg (by decide), if_neg (by decide), ih, hwidth,
      List.replicate_succ]

theorem columnAfter_blanks (n : Nat) : columnAfter (List.replicate n ' ') = n := by
  rw [columnAfter, charWidths_blanks]
  induction n with
  | zero => rfl
  | succ n ih => rw [List.replicate_succ, List.foldr_cons, ih, Nat.add_comm]

end Snippet

/-- A part of a text of one line can be drawn exactly if the columns before it are within the margin. -/
theorem Diagnostic.isDrawable_iff {d : Diagnostic} {before part after : List Char} (h : OneLine d.content)
    (hcontent : d.content = before ++ (part ++ after)) (hpart : part ≠ []) (hoffset : d.label.offset = byteLength before)
    (hlength : d.label.length = byteLength part) :
    d.isDrawable = true ↔ Snippet.columnAfter before ≤ Snippet.marginLimit := by
  obtain ⟨c, rest, rfl⟩ := List.exists_cons_of_ne_nil hpart
  have hne : d.content ≠ [] := by
    rw [hcontent]
    exact List.append_ne_nil_of_right_ne_nil _ (List.cons_ne_nil _ _)
  have hpos : 0 < byteLength (c :: rest) := Nat.lt_of_lt_of_le (Char.utf8Size_pos c) (Nat.le_add_right _ _)
  have hwhole : byteLength d.content = byteLength before + (byteLength (c :: rest) + byteLength after) := by
    rw [hcontent, byteLength_append, byteLength_append]
  have htouches : SnippetLine.touches ⟨1, 0, byteLength d.content, d.content⟩ d.label = true := by
    simp [SnippetLine.touches, SnippetLine.opens, SnippetLine.stop, hoffset, hwhole, hpos]
  have hholds : SnippetLine.holds ⟨1, 0, byteLength d.content, d.content⟩ d.label = true := by
    simp [SnippetLine.holds, SnippetLine.stop, hoffset, hlength, hwhole]
  have hcolumn : Snippet.columnOf ⟨1, 0, byteLength d.content, d.content⟩ d.label.offset false =
      Snippet.columnAfter before := by
    rw [hoffset, hcontent, Snippet.columnOf_byteLength]
  rw [isDrawable, Snippet.shownLines_oneLine h hne, List.all_cons, List.all_nil, Bool.and_true, Snippet.hasRoom, htouches,
    hholds, hcolumn]
  exact decide_eq_true_iff

/-- The same of an issue about such a part. -/
theorem Diagnostic.isDrawable_ofIssue_iff {i : Issue} {content before part after : List Char} (h : OneLine content)
    (hcontent : content = before ++ part ++ after) (hpart : part ≠ []) (hoffset : i.location.offset = byteLength before)
    (hlength : i.location.length = byteLength part) :
    (ofIssue i content).isDrawable = true ↔ Snippet.columnAfter before ≤ Snippet.marginLimit := by
  have hlabel := label_ofIssue (hcontent ▸ Location.within_of_append hoffset hlength)
  refine isDrawable_iff h (hcontent.trans (List.append_assoc before part after)) hpart ?_ ?_
  · rw [hlabel, hoffset]
  · rw [hlabel, hlength]

namespace Template

/-- A template of some blanks and a brace that closes nothing. -/
def lateBrace (n : Nat) : List Char :=
  List.replicate n ' ' ++ ['}']

theorem scanBraces_lateBrace (n : Nat) (p : Position) :
    scanBraces p [] (lateBrace n) = .error (.unbalancedClosing ⟨p.line, p.column + n⟩) := by
  induction n generalizing p with
  | zero => rfl
  | succ n ih =>
    have hcons : lateBrace (n + 1) = ' ' :: lateBrace n := rfl
    rw [hcons, scanBraces, if_neg (by decide), if_neg (by decide), ih, Position.next, if_neg (by decide), Nat.add_right_comm,
      Nat.add_assoc]

theorem check_lateBrace (n : Nat) : check (lateBrace n) = .error (.unbalancedClosing ⟨1, 1 + n⟩) := by
  rw [check, checkBraces, scanBraces_lateBrace]
  rfl

theorem oneLine_lateBrace (n : Nat) : OneLine (lateBrace n) := by
  intro c hc
  rcases List.mem_append.1 hc with hblank | hbrace
  · rw [List.eq_of_mem_replicate hblank]
    decide
  · rw [List.mem_singleton.1 hbrace]
    decide

/-- The issue about the brace can be drawn exactly if there are not too many blanks before it. -/
theorem isDrawable_lateBrace_iff {n : Nat} {f : SourceFile} {i : Issue} (hcontent : f.content = lateBrace n)
    (hlocation : i.location = f.point 1 (1 + n)) :
    (Diagnostic.ofIssue i (lateBrace n)).isDrawable = true ↔ n ≤ Snippet.marginLimit := by
  have hprefix : List.replicate n ' ' ++ ['}'] <+: f.content := hcontent ▸ List.prefix_refl _
  have hblanks : '\n' ∉ List.replicate n ' ' := by simp
  have hadvance : Position.start.advance (List.replicate n ' ') = ⟨1, 1 + n⟩ := by
    rw [advance_of_not_mem hblanks, List.length_replicate]
    rfl
  have hwhole : lateBrace n = List.replicate n ' ' ++ ['}'] ++ [] := (List.append_nil _).symm
  have hplace := (SourceFile.point_eq_placeOf hprefix (by decide) hadvance).trans (SourceFile.placeOf_eq hprefix)
  have hoffset : i.location.offset = byteLength (List.replicate n ' ') := by rw [hlocation, hplace]
  have hlength : i.location.length = byteLength ['}'] := by
    rw [hlocation, hplace]
    rfl
  rw [Diagnostic.isDrawable_ofIssue_iff (oneLine_lateBrace n) hwhole (by decide) hoffset hlength,
    Snippet.columnAfter_blanks]

end Template

end ComponentAudit
