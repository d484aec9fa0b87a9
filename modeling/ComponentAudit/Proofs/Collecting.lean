import Mathlib.Data.List.Sort
import Mathlib.Data.String.Basic
import ComponentAudit.Collector

/-!
# What a collector holds

A set of identifiers is known by its members (`IdSet.ext`), so collectors are equal when they hold the same issues in the
same order and the same identifiers. Each operation is described by what it adds. `Collector.restrict` keeps what concerns
some rules; it goes through every operation, so it does not matter whether the rest is left out before or after
(`Collector.restrict_runAll`).
-/

namespace ComponentAudit

namespace IdSet

/-- Two sets with the same members are the same. -/
theorem ext {s t : IdSet} (h : ∀ id, id ∈ s.ids ↔ id ∈ t.ids) : s = t := by
  have hids : s.ids = t.ids := List.Pairwise.eq_of_mem_iff s.ascending t.ascending (fun id => h id)
  cases s
  cases t
  simp only at hids
  subst hids
  rfl

@[simp] theorem mem_empty (id : String) : id ∉ empty.ids := by
  simp [empty]

@[simp] theorem mem_insert {s : IdSet} {id x : String} : x ∈ (s.insert id).ids ↔ x = id ∨ x ∈ s.ids :=
  mem_placeId

@[simp] theorem mem_filter {s : IdSet} {keep : String → Bool} {x : String} :
    x ∈ (s.filter keep).ids ↔ x ∈ s.ids ∧ keep x = true :=
  List.mem_filter

@[simp] theorem mem_difference {s t : IdSet} {x : String} : x ∈ (s.difference t).ids ↔ x ∈ s.ids ∧ x ∉ t.ids := by
  simp [difference]

@[simp] theorem mem_union {s t : IdSet} {x : String} : x ∈ (s.union t).ids ↔ x ∈ s.ids ∨ x ∈ t.ids := by
  have fold : ∀ (l : List String) (s : IdSet), x ∈ (l.foldl insert s).ids ↔ x ∈ s.ids ∨ x ∈ l := by
    intro l
    induction l with
    | nil => simp
    | cons id l ih =>
      intro s
      rw [List.foldl_cons, ih, mem_insert, List.mem_cons, or_comm (a := x = id), or_assoc]
  exact fold t.ids s

/-- What is left of a set with one more member. -/
theorem filter_insert (s : IdSet) (keep : String → Bool) (id : String) :
    (s.insert id).filter keep = if keep id then (s.filter keep).insert id else s.filter keep := by
  apply ext
  intro x
  by_cases hk : keep id = true
  · simp only [hk, if_true, mem_filter, mem_insert]
    constructor
    · rintro ⟨rfl | hx, hkx⟩
      · exact Or.inl rfl
      · exact Or.inr ⟨hx, hkx⟩
    · rintro (rfl | ⟨hx, hkx⟩)
      · exact ⟨Or.inl rfl, hk⟩
      · exact ⟨Or.inr hx, hkx⟩
  · rw [if_neg hk]
    simp only [mem_filter, mem_insert]
    constructor
    · rintro ⟨rfl | hx, hkx⟩
      · exact absurd hkx hk
      · exact ⟨hx, hkx⟩
    · rintro ⟨hx, hkx⟩
      exact ⟨Or.inr hx, hkx⟩

/-- What is left of a union is the union of what is left. -/
theorem filter_union (s t : IdSet) (keep : String → Bool) :
    (s.union t).filter keep = (s.filter keep).union (t.filter keep) := by
  apply ext
  intro x
  simp only [mem_filter, mem_union]
  exact or_and_right

/-- What is left of a difference is the difference of what is left. -/
theorem filter_difference (s t : IdSet) (keep : String → Bool) :
    (s.difference t).filter keep = (s.filter keep).difference (t.filter keep) := by
  apply ext
  intro x
  simp only [mem_filter, mem_difference]
  constructor
  · rintro ⟨⟨hs, ht⟩, hk⟩
    exact ⟨⟨hs, hk⟩, fun h => ht h.1⟩
  · rintro ⟨⟨hs, hk⟩, ht⟩
    exact ⟨⟨hs, fun h => ht ⟨h, hk⟩⟩, hk⟩

end IdSet

namespace Collector

/-! ## Calls -/

namespace Call

/-- The rule that a call is about; a call that absorbs others is about none in particular. -/
def ruleId? : Call → Option String
  | .record i => some i.ruleId
  | .pass id | .fail id => some id
  | .absorb _ => none

/-- The issue that a call records. -/
def issue? : Call → Option Issue
  | .record i => some i
  | _ => none

/-- A call that says of a rule that it failed. -/
def Fails (call : Call) (id : String) : Prop :=
  call = .fail id ∨ ∃ i, call = .record i ∧ i.ruleId = id

/-- A call that says of a rule that it failed is about the rule. -/
theorem Fails.ruleId?_eq {call : Call} {id : String} (h : call.Fails id) : call.ruleId? = some id := by
  rcases h with rfl | ⟨i, rfl, rfl⟩
  · rfl
  · rfl

/-- A call that is about one rule of those to keep. -/
def concerns (keep : String → Bool) (call : Call) : Bool :=
  call.ruleId?.any keep

end Call

/-- The issues of some calls are those that one of them records. -/
theorem mem_filterMap_issue? {calls : List Call} {i : Issue} : i ∈ calls.filterMap Call.issue? ↔ .record i ∈ calls := by
  rw [List.mem_filterMap]
  constructor
  · rintro ⟨call, hcall, hi⟩
    cases call with
    | record j =>
      obtain rfl : j = i := Option.some.inj hi
      exact hcall
    | _ => cases hi
  · exact fun h => ⟨_, h, rfl⟩

/-- The calls of a list that are each about a rule. -/
def Plain (calls : List Call) : Prop :=
  ∀ call ∈ calls, ∃ id, call.ruleId? = some id

theorem Plain.tail {call : Call} {rest : List Call} (h : Plain (call :: rest)) : Plain rest :=
  fun x hx => h x (List.mem_cons_of_mem _ hx)

/-- One call about a rule adds the issue that it records, if any. -/
theorem issues_run (c : Collector) {call : Call} {id : String} (h : call.ruleId? = some id) :
    (c.run call).issues = c.issues ++ call.issue?.toList := by
  cases call with
  | record i => rfl
  | pass id => exact (List.append_nil _).symm
  | fail id => exact (List.append_nil _).symm
  | absorb calls => cases h

/-- One call about a rule adds the rule that it says to pass, if any. -/
theorem mem_passed_run (c : Collector) {call : Call} {id : String} (h : call.ruleId? = some id) (x : String) :
    x ∈ (c.run call).passed.ids ↔ x ∈ c.passed.ids ∨ .pass x = call := by
  cases call with
  | record i => simp [run, record]
  | pass id =>
    simp only [run, pass, IdSet.mem_insert, Call.pass.injEq]
    exact or_comm
  | fail id => simp [run, fail]
  | absorb calls => cases h

/-- One call about a rule adds the rule that it says to fail, if any. -/
theorem mem_failed_run (c : Collector) {call : Call} {id : String} (h : call.ruleId? = some id) (x : String) :
    x ∈ (c.run call).failed.ids ↔ x ∈ c.failed.ids ∨ call.Fails x := by
  cases call with
  | record i =>
    simp only [run, record, IdSet.mem_insert, Call.Fails, reduceCtorEq, Call.record.injEq, exists_eq_left', false_or]
    rw [or_comm, eq_comm]
  | pass id => simp [run, pass, Call.Fails]
  | fail id =>
    simp only [run, fail, IdSet.mem_insert, Call.Fails, Call.fail.injEq, reduceCtorEq, false_and, exists_false, or_false]
    rw [or_comm, eq_comm]
  | absorb calls => cases h

/-- The issues after some calls: those before, and what the calls record, in their order. -/
theorem issues_runAll {calls : List Call} (h : Plain calls) (c : Collector) :
    (c.runAll calls).issues = c.issues ++ calls.filterMap Call.issue? := by
  induction calls generalizing c with
  | nil => simp [runAll]
  | cons call rest ih =>
    obtain ⟨id, hid⟩ := h call (by simp)
    rw [runAll, ih h.tail, issues_run c hid, List.append_assoc, List.filterMap_cons]
    cases call.issue? with
    | none => rfl
    | some i => rfl

/-- A rule has passed after some calls if it had before or one of the calls says so. -/
theorem mem_passed_runAll {calls : List Call} (h : Plain calls) (c : Collector) (x : String) :
    x ∈ (c.runAll calls).passed.ids ↔ x ∈ c.passed.ids ∨ .pass x ∈ calls := by
  induction calls generalizing c with
  | nil => simp [runAll]
  | cons call rest ih =>
    obtain ⟨id, hid⟩ := h call (by simp)
    rw [runAll, ih h.tail, mem_passed_run c hid, List.mem_cons, or_assoc]

/-- A rule has failed after some calls if it had before or one of the calls says so. -/
theorem mem_failed_runAll {calls : List Call} (h : Plain calls) (c : Collector) (x : String) :
    x ∈ (c.runAll calls).failed.ids ↔ x ∈ c.failed.ids ∨ ∃ call ∈ calls, call.Fails x := by
  induction calls generalizing c with
  | nil => simp [runAll]
  | cons call rest ih =>
    obtain ⟨id, hid⟩ := h call (by simp)
    rw [runAll, ih h.tail, mem_failed_run c hid, List.exists_mem_cons_iff, or_assoc]

/-! ## Keeping what concerns some rules -/

/-- What a collector holds about the rules to keep. -/
def restrict (keep : String → Bool) (c : Collector) : Collector :=
  ⟨c.issues.filter fun i => keep i.ruleId, c.passed.filter keep, c.failed.filter keep⟩

@[simp] theorem restrict_empty (keep : String → Bool) : empty.restrict keep = empty := rfl

theorem restrict_absorb (keep : String → Bool) (c d : Collector) :
    (c.absorb d).restrict keep = (c.restrict keep).absorb (d.restrict keep) := by
  simp only [restrict, absorb, List.filter_append, IdSet.filter_union]

/-- A call about one rule adds to what is left exactly if that rule is to be kept. -/
theorem restrict_run (keep : String → Bool) (c : Collector) {call : Call} {id : String} (h : call.ruleId? = some id) :
    (c.run call).restrict keep = if call.concerns keep then (c.restrict keep).run call else c.restrict keep := by
  cases call with
  | record i =>
    by_cases hk : keep i.ruleId = true
    · simp [run, record, restrict, Call.concerns, Call.ruleId?, IdSet.filter_insert, hk]
    · simp [run, record, restrict, Call.concerns, Call.ruleId?, IdSet.filter_insert, hk]
  | pass id' =>
    by_cases hk : keep id' = true
    · simp [run, pass, restrict, Call.concerns, Call.ruleId?, IdSet.filter_insert, hk]
    · simp [run, pass, restrict, Call.concerns, Call.ruleId?, IdSet.filter_insert, hk]
  | fail id' =>
    by_cases hk : keep id' = true
    · simp [run, fail, restrict, Call.concerns, Call.ruleId?, IdSet.filter_insert, hk]
    · simp [run, fail, restrict, Call.concerns, Call.ruleId?, IdSet.filter_insert, hk]
  | absorb calls => cases h

/-- Leaving out what does not concern the rules to keep, after the calls or among them. -/
theorem restrict_runAll (keep : String → Bool) {calls : List Call} (h : Plain calls) (c : Collector) :
    (c.runAll calls).restrict keep = (c.restrict keep).runAll (calls.filter (Call.concerns keep)) := by
  induction calls generalizing c with
  | nil => simp [runAll]
  | cons call rest ih =>
    obtain ⟨id, hid⟩ := h call (by simp)
    rw [runAll, ih h.tail, restrict_run keep c hid]
    by_cases hk : call.concerns keep = true
    · rw [if_pos hk, List.filter_cons_of_pos hk, runAll]
    · rw [if_neg hk, List.filter_cons_of_neg hk]

end Collector

end ComponentAudit
