import ComponentAudit.Proofs.ByteOrder
import ComponentAudit.Proofs.Collecting
import ComponentAudit.Report

/-!
# What a report tells of the calls on a collector

Calls may absorb other calls, to any depth. A collector does not see the difference: absorbing calls is making them, one
after the other, in the place of the call that absorbs them (`Collector.runAll_leaves`). So a report tells of any calls what
it would tell of their leaves (`Report.accounts_runAll`): the issues in the order in which they were recorded, each rule as
failed or passed, and counts that fit the lists.
-/

namespace ComponentAudit

open Collector Text

namespace Collector

/-! ## Calls that absorb calls -/

mutual

/-- The calls that a call comes to: itself, or those that it absorbs. -/
def Call.leaves : Call → List Call
  | .record i => [.record i]
  | .pass id => [.pass id]
  | .fail id => [.fail id]
  | .absorb calls => Call.leavesAll calls

/-- The calls that some calls come to, in their order. -/
def Call.leavesAll : List Call → List Call
  | [] => []
  | call :: rest => call.leaves ++ Call.leavesAll rest

end

theorem plain_singleton {call : Call} {id : String} (h : call.ruleId? = some id) : Plain [call] := by
  intro x hx
  rw [List.mem_singleton.1 hx]
  exact ⟨id, h⟩

mutual

theorem Call.plain_leaves : ∀ call : Call, Plain call.leaves
  | .record i => by
    rw [Call.leaves]
    exact plain_singleton rfl
  | .pass id => by
    rw [Call.leaves]
    exact plain_singleton rfl
  | .fail id => by
    rw [Call.leaves]
    exact plain_singleton rfl
  | .absorb calls => by
    rw [Call.leaves]
    exact Call.plain_leavesAll calls

/-- The leaves of calls are each about a rule. -/
theorem Call.plain_leavesAll : ∀ calls : List Call, Plain (Call.leavesAll calls)
  | [] => fun _ h => absurd h List.not_mem_nil
  | call :: rest => by
    intro x h
    rw [Call.leavesAll] at h
    rcases List.mem_append.1 h with h | h
    · exact Call.plain_leaves call x h
    · exact Call.plain_leavesAll rest x h

end

/-- A collector that has found nothing adds nothing. -/
theorem absorb_empty (c : Collector) : c.absorb empty = c :=
  congrArg (fun issues => Collector.mk issues c.passed c.failed) (List.append_nil c.issues)

/-- A call about a rule adds the same before and after the collector is absorbed. -/
theorem absorb_run (c d : Collector) {call : Call} {id : String} (h : call.ruleId? = some id) :
    c.absorb (d.run call) = (c.absorb d).run call := by
  have union_insert : ∀ s t : IdSet, ∀ id, s.union (t.insert id) = (s.union t).insert id := by
    intro s t id
    apply IdSet.ext
    intro x
    simp only [IdSet.mem_union, IdSet.mem_insert]
    exact or_left_comm
  cases call with
  | record i => simp only [run, record, absorb, union_insert, List.append_assoc]
  | pass id => simp only [run, pass, absorb, union_insert]
  | fail id => simp only [run, fail, absorb, union_insert]
  | absorb calls => cases h

/-- Absorbing what some calls make of a collector is absorbing the collector and making the calls. -/
theorem absorb_runAll {calls : List Call} (h : Plain calls) (c d : Collector) :
    c.absorb (d.runAll calls) = (c.absorb d).runAll calls := by
  induction calls generalizing d with
  | nil => simp only [runAll]
  | cons call rest ih =>
    obtain ⟨id, hid⟩ := h call (by simp)
    rw [runAll, runAll, ih h.tail, absorb_run c d hid]

theorem runAll_append (c : Collector) (calls others : List Call) :
    c.runAll (calls ++ others) = (c.runAll calls).runAll others := by
  induction calls generalizing c with
  | nil => rw [runAll, List.nil_append]
  | cons call rest ih => rw [List.cons_append, runAll, runAll, ih]

mutual

/-- Making a call is making the calls that it comes to. -/
theorem run_leaves : ∀ (call : Call) (c : Collector), c.run call = c.runAll call.leaves
  | .record i, c => by rw [Call.leaves, runAll, runAll]
  | .pass id, c => by rw [Call.leaves, runAll, runAll]
  | .fail id, c => by rw [Call.leaves, runAll, runAll]
  | .absorb calls, c => by
    rw [Call.leaves, run, runAll_leaves calls empty, absorb_runAll (Call.plain_leavesAll calls), absorb_empty]

/-- Making some calls is making the calls that they come to. -/
theorem runAll_leaves : ∀ (calls : List Call) (c : Collector), c.runAll calls = c.runAll (Call.leavesAll calls)
  | [], c => by rw [Call.leavesAll]
  | call :: rest, c => by rw [runAll, Call.leavesAll, runAll_append, runAll_leaves rest, run_leaves call c]

end

end Collector

/-! ## Reports -/

/-- The sets of identifiers are listed in the order of their bytes. -/
theorem IdSet.pairwise_utf8 (s : IdSet) : s.ids.Pairwise fun a b => utf8 a.toList < utf8 b.toList :=
  s.ascending.imp fun h => utf8_lt_utf8 h

/-- Every issue has one of the three severities. -/
theorem Summary.countOf_add (issues : List Issue) :
    countOf .error issues + countOf .warning issues + countOf .info issues = issues.length := by
  induction issues with
  | nil => rfl
  | cons i rest ih =>
    simp only [countOf, List.countP_cons, List.length_cons] at ih ⊢
    cases i.severity with
    | error => simp; omega
    | warning => simp; omega
    | info => simp; omega

namespace Report

/-- A report gives account of some calls about rules. Rules are listed by the bytes of their identifiers: those that a call
said to fail or to violate, and those that passed and are not among them. The issues are those recorded, in their order. -/
structure Accounts (r : Report) (calls : List Call) : Prop where
  passedAscending : r.passed.Pairwise fun a b => utf8 a.toList < utf8 b.toList
  failedAscending : r.failed.Pairwise fun a b => utf8 a.toList < utf8 b.toList
  disjoint : ∀ id ∈ r.passed, id ∉ r.failed
  noted : ∀ id, id ∈ r.passed ∨ id ∈ r.failed ↔ .pass id ∈ calls ∨ ∃ call ∈ calls, call.Fails id
  failed : ∀ id, id ∈ r.failed ↔ ∃ call ∈ calls, call.Fails id
  issues : r.issues = calls.filterMap Call.issue?
  blamed : ∀ i ∈ r.issues, i.ruleId ∈ r.failed
  errors : r.summary.error = (r.bySeverity .error).length
  warnings : r.summary.warning = (r.bySeverity .warning).length
  infos : r.summary.info = (r.bySeverity .info).length
  sum : r.summary.error + r.summary.warning + r.summary.info = r.summary.total
  total : r.summary.total = r.issues.length
  passedRules : r.summary.passedRules = r.passed.length
  failedRules : r.summary.failedRules = r.failed.length
  passing : r.isPassing = true ↔ r.issues = []

/-- The report of calls about rules gives account of them. -/
theorem accounts_of_plain (frame : Frame) (now : Timestamp) {calls : List Call} (h : Plain calls) :
    (ofCollector frame now (empty.runAll calls)).Accounts calls := by
  have hissues : (empty.runAll calls).issues = calls.filterMap Call.issue? := by
    rw [issues_runAll h]
    exact List.nil_append _
  have hfailed : ∀ id, id ∈ (empty.runAll calls).failed.ids ↔ ∃ call ∈ calls, call.Fails id := by
    intro id
    rw [mem_failed_runAll h]
    exact or_iff_right (IdSet.mem_empty id)
  have hpassed : ∀ id, id ∈ (empty.runAll calls).passed.ids ↔ .pass id ∈ calls := by
    intro id
    rw [mem_passed_runAll h]
    exact or_iff_right (IdSet.mem_empty id)
  refine
    { passedAscending := IdSet.pairwise_utf8 _
      failedAscending := IdSet.pairwise_utf8 _
      disjoint := fun id hid => (IdSet.mem_difference.1 hid).2
      noted := fun id => ?_
      failed := hfailed
      issues := hissues
      blamed := fun i hi => ?_
      errors := List.countP_eq_length_filter
      warnings := List.countP_eq_length_filter
      infos := List.countP_eq_length_filter
      sum := Summary.countOf_add _
      total := rfl
      passedRules := rfl
      failedRules := rfl
      passing := ?_ }
  · rw [← hpassed, ← hfailed]
    simp only [ofCollector, IdSet.mem_difference]
    tauto
  · simp only [ofCollector, hissues] at hi
    exact (hfailed _).2 ⟨_, mem_filterMap_issue?.1 hi, Or.inr ⟨i, rfl, rfl⟩⟩
  · simp only [isPassing, ofCollector, Summary.count, decide_eq_true_eq, List.length_eq_zero_iff]

/-- Whatever calls are made on a collector, in whatever order, and whatever else is told: the report gives account of the
calls that they come to. The issues of calls that were absorbed stand where they were absorbed. -/
theorem accounts_runAll (frame : Frame) (now : Timestamp) (calls : List Call) :
    (ofCollector frame now (empty.runAll calls)).Accounts (Call.leavesAll calls) := by
  rw [runAll_leaves]
  exact accounts_of_plain frame now (Call.plain_leavesAll calls)

end Report

end ComponentAudit
