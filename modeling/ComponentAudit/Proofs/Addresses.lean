import ComponentAudit.Proofs.Places

/-!
# Addresses of characters

A character of a file has two addresses: its line and column, and the span of its bytes. The place of one address is the place
of the other (`SourceFile.point_eq_placeOf`), and a line and a column have a span exactly where a character other than a line
feed stands (`SourceFile.exists_of_point`). So each way back undoes the other, and no two characters share a line and a column
(`SourceFile.point_inverse_locate`).
-/

namespace ComponentAudit.SourceFile

open Text

variable {f : SourceFile} {before : List Char} {c : Char} {line column : Nat}

/-- The place of the bytes of a character that stands after a part of the text. -/
def placeOf (f : SourceFile) (before : List Char) (c : Char) : Location :=
  f.locate (byteLength before) c.utf8Size

/-- The place of a character has the line and the column at which what comes before it ends. -/
theorem placeOf_eq (h : before ++ [c] <+: f.content) : f.placeOf before c =
    { f.location (Position.start.advance before).line (Position.start.advance before).column with
      offset := byteLength before, length := c.utf8Size } := by
  obtain ⟨after, hcontent⟩ := h
  have hline := line_advance .start before
  rw [Nat.add_comm] at hline
  rw [hline, column_advance_start]
  exact locate_eq hcontent.symm

/-- The place of a line and a column is the place of the character there. -/
theorem point_eq_placeOf (h : before ++ [c] <+: f.content) (hc : c ≠ '\n')
    (hplace : Position.start.advance before = ⟨line, column⟩) : f.point line column = f.placeOf before c := by
  have hcolumn : column - 1 + 1 = column := by
    have hadvance := column_advance_start before
    rw [hplace] at hadvance
    simp only at hadvance
    omega
  have hspan : f.pointSpan? line column = some (byteLength before, c.utf8Size) :=
    pointSpan?_eq_some_iff.2 ⟨before, c, h, hc, by rw [hplace, hcolumn], rfl, rfl⟩
  rw [placeOf_eq h, hplace, point, hspan]

/-- Where a line and a column have a span, a character stands there. -/
theorem exists_of_point (hcolumn : 1 ≤ column) (h : 0 < (f.point line column).length) :
    ∃ before c, before ++ [c] <+: f.content ∧ c ≠ '\n' ∧ Position.start.advance before = ⟨line, column⟩ := by
  unfold point at h
  split at h
  · rename_i offset length hspan
    obtain ⟨before, c, hprefix, hc, hplace, -, -⟩ := pointSpan?_eq_some_iff.1 hspan
    rw [Nat.sub_add_cancel hcolumn] at hplace
    exact ⟨before, c, hprefix, hc, hplace⟩
  · cases h

/-- The lines of a file are numbered from one on. -/
theorem number_of_getElem? {n : Nat} {l : Line} (h : f.lines[n]? = some l) : l.number = n + 1 := by
  have hnumbers := congrArg (·[n]?) (map_number_numberLines 1 0 (Text.lines f.content))
  have hl : (f.lines.map (·.number))[n]? = some l.number := by rw [List.getElem?_map, h, Option.map_some]
  obtain ⟨_, hnumber⟩ := List.getElem?_eq_some_iff.1 (hnumbers.symm.trans hl)
  rw [← hnumber, List.getElem_range', Nat.one_mul, Nat.add_comm]

/-- Lines and columns address what offsets of bytes address. The lines of a file put together are the file, and each stands
in it at its offset. The place of a line and a column, where it has a span, is found again by the span; the place of the bytes
of a character other than a line feed is found again by its line and column. No two characters have the same line and
column. -/
theorem point_inverse_locate (f : SourceFile) :
    (join '\n' (f.lines.map (·.text)) = f.content ∧
      ∀ n l, f.lines[n]? = some l → l.number = n + 1 ∧ ∃ before after, l.StandsIn f.content before after) ∧
    (∀ line column, 1 ≤ column → 0 < (f.point line column).length →
      f.locate (f.point line column).offset (f.point line column).length = f.point line column) ∧
    (∀ before c, before ++ [c] <+: f.content → c ≠ '\n' →
      f.point (f.placeOf before c).line (f.placeOf before c).column = f.placeOf before c ∧
        (f.placeOf before c).offset = byteLength before ∧ (f.placeOf before c).length = c.utf8Size) ∧
    ∀ before c before' c', before ++ [c] <+: f.content → before' ++ [c'] <+: f.content →
      (f.placeOf before c).line = (f.placeOf before' c').line →
      (f.placeOf before c).column = (f.placeOf before' c').column → before = before' := by
  refine ⟨⟨?_, fun n l h => ?_⟩, fun line column hcolumn hlength => ?_, fun before c hprefix hc => ?_,
    fun before c before' c' hprefix hprefix' hline hcolumn => ?_⟩
  · rw [SourceFile.lines, numberedLines, map_text_numberLines]
    exact join_split '\n' f.content
  · exact ⟨number_of_getElem? h, Line.standsIn_of_mem (List.mem_of_getElem? h)⟩
  · obtain ⟨before, c, hprefix, hc, hplace⟩ := exists_of_point hcolumn hlength
    rw [point_eq_placeOf hprefix hc hplace, placeOf_eq hprefix]
    exact placeOf_eq hprefix
  · have hplace := placeOf_eq hprefix
    refine ⟨?_, congrArg Location.offset hplace, congrArg Location.length hplace⟩
    exact point_eq_placeOf hprefix hc (by rw [hplace]; rfl)
  · rw [placeOf_eq hprefix, placeOf_eq hprefix'] at hline hcolumn
    exact eq_of_advance ((List.prefix_append _ _).trans hprefix) ((List.prefix_append _ _).trans hprefix')
      (congrArg₂ Position.mk hline hcolumn)

/-- A file of three lines, the second of them empty, with characters of two bytes. -/
def sampleFile : SourceFile := ⟨⟨"a.templ"⟩, .templ, "é\n\n\té\x7d".toList⟩

/-- The brace is the third character of the third line, and seven bytes come before it. -/
theorem point_inverse_locate_sample :
    (0 < (sampleFile.point 3 3).length ∧
      sampleFile.locate (sampleFile.point 3 3).offset (sampleFile.point 3 3).length = sampleFile.point 3 3) ∧
    "é\n\n\té".toList ++ ['\x7d'] <+: sampleFile.content ∧
    sampleFile.point (sampleFile.placeOf "é\n\n\té".toList '\x7d').line (sampleFile.placeOf "é\n\n\té".toList '\x7d').column =
      sampleFile.placeOf "é\n\n\té".toList '\x7d' := by
  obtain ⟨-, hlocate, hpoint, -⟩ := point_inverse_locate sampleFile
  have hlength : 0 < (sampleFile.point 3 3).length := by decide
  have hprefix : "é\n\n\té".toList ++ ['\x7d'] <+: sampleFile.content := by decide
  exact ⟨⟨hlength, hlocate 3 3 (by decide) hlength⟩, hprefix, (hpoint _ _ hprefix (by decide)).1⟩

end ComponentAudit.SourceFile
