import ComponentAudit.Proofs.Files
import ComponentAudit.Proofs.Reporting

/-!
# Scans in parts

The files of a scan may be split into two parts in any way, as long as each part keeps their order. The report on all files
follows from the reports on the parts (`Scan.reportOn_interleaves`): the issues of each file stay together and stay the same,
and counts add up. Only a pass does not carry over: a rule that passed in one part may have failed in the other.
-/

namespace ComponentAudit

open Collector Text

/-- A list is put together from two others, each in its order. -/
inductive Interleaves {α : Type} : List α → List α → List α → Prop where
  | nil : Interleaves [] [] []
  | first {x : α} {l₁ l₂ l : List α} : Interleaves l₁ l₂ l → Interleaves (x :: l₁) l₂ (x :: l)
  | second {x : α} {l₁ l₂ l : List α} : Interleaves l₁ l₂ l → Interleaves l₁ (x :: l₂) (x :: l)

namespace Interleaves

variable {α β : Type} {l₁ l₂ l : List α}

theorem mem_iff (h : Interleaves l₁ l₂ l) {x : α} : x ∈ l ↔ x ∈ l₁ ∨ x ∈ l₂ := by
  induction h with
  | nil => simp
  | first _ ih => rw [List.mem_cons, List.mem_cons, ih, or_assoc]
  | second _ ih => rw [List.mem_cons, List.mem_cons, ih, or_left_comm]

theorem countP (h : Interleaves l₁ l₂ l) (p : α → Bool) : l.countP p = l₁.countP p + l₂.countP p := by
  induction h with
  | nil => rfl
  | first _ ih =>
    rw [List.countP_cons, List.countP_cons, ih]
    omega
  | second _ ih =>
    rw [List.countP_cons, List.countP_cons, ih]
    omega

theorem length (h : Interleaves l₁ l₂ l) : l.length = l₁.length + l₂.length := by
  have hcount := h.countP fun _ => true
  simpa only [List.countP_true] using hcount

theorem append_first (xs : List α) (h : Interleaves l₁ l₂ l) : Interleaves (xs ++ l₁) l₂ (xs ++ l) := by
  induction xs with
  | nil => exact h
  | cons x xs ih => exact ih.first

theorem append_second (xs : List α) (h : Interleaves l₁ l₂ l) : Interleaves l₁ (xs ++ l₂) (xs ++ l) := by
  induction xs with
  | nil => exact h
  | cons x xs ih => exact ih.second

/-- What is made of each member stays together. -/
theorem flatMap (h : Interleaves l₁ l₂ l) (f : α → List β) : Interleaves (l₁.flatMap f) (l₂.flatMap f) (l.flatMap f) := by
  induction h with
  | nil => exact .nil
  | first _ ih =>
    rw [List.flatMap_cons, List.flatMap_cons]
    exact ih.append_first _
  | second _ ih =>
    rw [List.flatMap_cons, List.flatMap_cons]
    exact ih.append_second _

end Interleaves

/-- A report that follows from two others on parts of its files. -/
structure Report.Joins (r₁ r₂ r : Report) : Prop where
  issues : Interleaves r₁.issues r₂.issues r.issues
  failed : ∀ id, id ∈ r.failed ↔ id ∈ r₁.failed ∨ id ∈ r₂.failed
  failedAscending : r.failed.Pairwise fun a b => utf8 a.toList < utf8 b.toList
  /-- A failure in either part revokes a pass. -/
  passed : ∀ id, id ∈ r.passed ↔ (id ∈ r₁.passed ∨ id ∈ r₂.passed) ∧ id ∉ r₁.failed ∧ id ∉ r₂.failed
  passedAscending : r.passed.Pairwise fun a b => utf8 a.toList < utf8 b.toList
  errors : r.summary.error = r₁.summary.error + r₂.summary.error
  warnings : r.summary.warning = r₁.summary.warning + r₂.summary.warning
  infos : r.summary.info = r₁.summary.info + r₂.summary.info
  total : r.summary.total = r₁.summary.total + r₂.summary.total
  filesChecked : r.filesChecked = r₁.filesChecked + r₂.filesChecked
  skippedFiles : Interleaves r₁.skippedFiles r₂.skippedFiles r.skippedFiles

namespace Scan

variable (s : Scan) (now : Timestamp)

/-- The issues of a file are those of a report on that file alone. -/
theorem issues_reportOn_singleton (file : Candidate × Except FileError (List UInt8)) :
    (s.reportOn now [file]).issues = s.issuesIn file := by
  rw [issues_reportOn, List.flatMap_singleton]

/-- The report on all files follows from the reports on two parts of them. -/
theorem joins_reportOn {part₁ part₂ whole : Looked} (h : Interleaves part₁ part₂ whole) :
    (s.reportOn now part₁).Joins (s.reportOn now part₂) (s.reportOn now whole) := by
  have hissues : Interleaves (s.reportOn now part₁).issues (s.reportOn now part₂).issues (s.reportOn now whole).issues := by
    simp only [issues_reportOn]
    exact h.flatMap s.issuesIn
  have hread : ∀ p : Candidate → List UInt8 → Prop, (∃ c bytes, (c, .ok bytes) ∈ whole ∧ p c bytes) ↔
      (∃ c bytes, (c, .ok bytes) ∈ part₁ ∧ p c bytes) ∨ ∃ c bytes, (c, .ok bytes) ∈ part₂ ∧ p c bytes := by
    intro p
    simp only [h.mem_iff, or_and_right, exists_or]
  have hfailed : ∀ id, id ∈ (s.reportOn now whole).failed ↔
      id ∈ (s.reportOn now part₁).failed ∨ id ∈ (s.reportOn now part₂).failed := by
    intro id
    rw [mem_failed_reportOn, mem_failed_reportOn, mem_failed_reportOn, hread]
  refine
    { issues := hissues
      failed := hfailed
      failedAscending := IdSet.pairwise_utf8 _
      passed := fun id => ?_
      passedAscending := IdSet.pairwise_utf8 _
      errors := hissues.countP _
      warnings := hissues.countP _
      infos := hissues.countP _
      total := hissues.length
      filesChecked := ?_
      skippedFiles := ?_ }
  · rw [mem_passed_reportOn, mem_passed_reportOn, mem_passed_reportOn, hfailed, hread, not_or]
    constructor
    · rintro ⟨hpasses, h₁, h₂⟩
      exact ⟨hpasses.imp (⟨·, h₁⟩) (⟨·, h₂⟩), h₁, h₂⟩
    · rintro ⟨hpasses, h₁, h₂⟩
      exact ⟨hpasses.imp And.left And.left, h₁, h₂⟩
  · rw [filesChecked_reportOn, filesChecked_reportOn, filesChecked_reportOn, h.length]
  · simp only [skippedFiles_reportOn]
    exact h.flatMap s.skippedIn

/-- Scans compose over files, for any rules, parser and files, however the files are split into two parts that keep their
order. A run reports on the files of its walk. The issues of a report are those of its files, one file after the other,
and those of a file are the same in every report: they name the file and are those of a report on it alone. The report on
all files follows from the reports on the parts. So another file in the place of one, or one file more or less, leaves the
issues of the other files as they are. -/
theorem reportOn_interleaves {part₁ part₂ whole : Looked} (h : Interleaves part₁ part₂ whole) :
    (s.reportOn now part₁).Joins (s.reportOn now part₂) (s.reportOn now whole) ∧
    (∀ looked : Looked, (s.reportOn now looked).issues = looked.flatMap fun file => (s.reportOn now [file]).issues) ∧
    (∀ file, ∀ i ∈ (s.reportOn now [file]).issues, i.location.file = file.1.path.relativeTo s.root) ∧
    (∀ (before after : Looked) (file : Candidate × Except FileError (List UInt8)),
      (s.reportOn now (before ++ after)).issues =
        (s.reportOn now before).issues ++ (s.reportOn now after).issues ∧
      (s.reportOn now (before ++ file :: after)).issues =
        (s.reportOn now before).issues ++ (s.reportOn now [file]).issues ++ (s.reportOn now after).issues) ∧
    ∀ (files : FileTree) (order : Nat → List Nat) (r : Report), EachOnce order → s.run files now order = .ok r →
      ∃ candidates : List Candidate, s.walker.walk files = candidates.map .ok ∧
        r = s.reportOn now (candidates.map fun c => (c, files.read c.path)) := by
  refine ⟨s.joins_reportOn now h, fun looked => ?_, fun file i hi => ?_, fun before after file => ⟨?_, ?_⟩, ?_⟩
  · simp only [issues_reportOn_singleton]
    exact s.issues_reportOn now looked
  · rw [issues_reportOn_singleton] at hi
    obtain ⟨r, -, -, -, hfile⟩ := rule_of_mem_issuesIn hi
    exact hfile
  · simp only [issues_reportOn, List.flatMap_append]
  · simp only [issues_reportOn, List.flatMap_append, List.flatMap_cons, List.flatMap_nil, List.append_nil,
      List.append_assoc]
  · exact fun files order r horder hr => report_of_run horder hr

/-- A scan for one rule on syntax, with a parser that takes one text only. -/
def narrowScan : Scan where
  root := ⟨"/p"⟩
  walker := { root := ⟨"/p"⟩ }
  checker := .ofRegistry
    { rules := [{ id := "syntax", name := "Syntax", kind := .syntaxCheck, fileKinds := [.go], message := "wrong" }]
      distinct := by decide }
    ⟨"stub", fun text => if text = ['p'] then .ok () else .error ⟨1, 1, "no"⟩⟩
  workers := 0
  session := none

/-- A file that was read. -/
def sampleFile (path : String) (byte : UInt8) : Candidate × Except FileError (List UInt8) :=
  (⟨⟨path⟩, .go⟩, .ok [byte])

/-- The rule passes in the first and the last of three files; a scan of these two files reports a pass, which the failure in
the file between them revokes. -/
theorem reportOn_interleaves_revoked :
    let a := sampleFile "/p/a.go" 112
    let b := sampleFile "/p/b.go" 113
    let c := sampleFile "/p/c.go" 112
    Interleaves [a, c] [b] [a, b, c] ∧
    (narrowScan.reportOn default [a, c]).Joins (narrowScan.reportOn default [b]) (narrowScan.reportOn default [a, b, c]) ∧
    "syntax" ∈ (narrowScan.reportOn default [a, c]).passed ∧
    "syntax" ∉ (narrowScan.reportOn default [a, b, c]).passed := by
  intro a b c
  have hsplit : Interleaves [a, c] [b] [a, b, c] := .first (.second (.first .nil))
  have hjoins := (narrowScan.reportOn_interleaves default hsplit).1
  have hpassed : (narrowScan.reportOn default [a, c]).passed = ["syntax"] := by cbv
  have hfailed : (narrowScan.reportOn default [b]).failed = ["syntax"] := by cbv
  refine ⟨hsplit, hjoins, by simp [hpassed], fun h => ?_⟩
  exact ((hjoins.passed "syntax").1 h).2.2 (by simp [hfailed])

end Scan

end ComponentAudit
