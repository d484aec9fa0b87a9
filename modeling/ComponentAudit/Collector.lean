import ComponentAudit.Issue

/-!
# Collecting issues and verdicts

What a scan has found so far: the issues in the order of their discovery, and the rules that were seen to pass and to
fail. Nothing is ever taken back.
-/

namespace ComponentAudit

/-- Puts a text into its place in an ascending list, unless it is there. -/
def placeId (id : String) : List String → List String
  | [] => [id]
  | first :: rest =>
    if id < first then id :: first :: rest
    else if id = first then first :: rest
    else first :: placeId id rest

/-- Placing a text adds it to the members and nothing else. -/
@[simp] theorem mem_placeId {id x : String} {l : List String} : x ∈ placeId id l ↔ x = id ∨ x ∈ l := by
  induction l with
  | nil => simp [placeId]
  | cons first rest ih =>
    unfold placeId
    split
    · simp
    · split
      · rename_i h
        simp [h]
      · simp only [List.mem_cons, ih]
        exact or_left_comm

/-- Placing a text keeps a list ascending. -/
theorem pairwise_placeId (id : String) {l : List String} (h : l.Pairwise (· < ·)) : (placeId id l).Pairwise (· < ·) := by
  induction l with
  | nil => simp [placeId]
  | cons first rest ih =>
    obtain ⟨hfirst, hrest⟩ := List.pairwise_cons.1 h
    unfold placeId
    split
    · rename_i hlt
      refine List.pairwise_cons.2 ⟨fun x hx => ?_, h⟩
      rcases List.mem_cons.1 hx with rfl | hx
      · exact hlt
      · exact String.lt_trans hlt (hfirst x hx)
    · split
      · exact h
      · rename_i hle hne
        refine List.pairwise_cons.2 ⟨fun x hx => ?_, ih hrest⟩
        rcases mem_placeId.1 hx with rfl | hx
        · exact Std.lt_of_le_of_ne hle (Ne.symm hne)
        · exact hfirst x hx

/-- A set of identifiers, listed in ascending order. -/
structure IdSet where
  ids : List String
  ascending : ids.Pairwise (· < ·)
  deriving Repr, DecidableEq

namespace IdSet

/-- The set without members. -/
def empty : IdSet := ⟨[], .nil⟩

/-- The set with one more member. -/
def insert (s : IdSet) (id : String) : IdSet :=
  ⟨placeId id s.ids, pairwise_placeId id s.ascending⟩

/-- The members of either set. -/
def union (s t : IdSet) : IdSet :=
  t.ids.foldl insert s

/-- The members of a set that meet a condition. -/
def filter (s : IdSet) (keep : String → Bool) : IdSet :=
  ⟨s.ids.filter keep, s.ascending.filter keep⟩

/-- The members of the first set that are not in the second. -/
def difference (s t : IdSet) : IdSet :=
  s.filter fun id => !t.ids.contains id

/-- Whether a text is a member. -/
def contains (s : IdSet) (id : String) : Bool :=
  s.ids.contains id

end IdSet

/-- What a scan has found so far. -/
structure Collector where
  /-- The issues, in the order in which they were recorded. -/
  issues : List Issue
  /-- The rules seen to pass. -/
  passed : IdSet
  /-- The rules seen to fail. -/
  failed : IdSet
  deriving Repr, DecidableEq

namespace Collector

/-- Nothing found yet. -/
def empty : Collector := ⟨[], .empty, .empty⟩

/-- Records an issue; its rule has failed. -/
def record (c : Collector) (i : Issue) : Collector :=
  { c with issues := c.issues ++ [i], failed := c.failed.insert i.ruleId }

/-- Notes that a rule passed for a file. -/
def pass (c : Collector) (id : String) : Collector :=
  { c with passed := c.passed.insert id }

/-- Notes that a rule failed for a file without an issue of its own. -/
def fail (c : Collector) (id : String) : Collector :=
  { c with failed := c.failed.insert id }

/-- Adds what another collector holds after what is there. -/
def absorb (c d : Collector) : Collector :=
  ⟨c.issues ++ d.issues, c.passed.union d.passed, c.failed.union d.failed⟩

/-- Whether a rule has failed so far. -/
def hasFailed (c : Collector) (id : String) : Bool :=
  c.failed.contains id

end Collector

/-- A call on a collector. -/
inductive Collector.Call where
  | record (i : Issue)
  | pass (id : String)
  | fail (id : String)
  /-- The calls are made on a collector of their own, which is then absorbed. -/
  | absorb (calls : List Collector.Call)

namespace Collector

mutual

/-- The collector after a call. -/
def run (c : Collector) : Call → Collector
  | .record i => c.record i
  | .pass id => c.pass id
  | .fail id => c.fail id
  | .absorb calls => c.absorb (runAll empty calls)

/-- The collector after some calls. -/
def runAll (c : Collector) : List Call → Collector
  | [] => c
  | call :: rest => runAll (run c call) rest

end

end Collector

end ComponentAudit
