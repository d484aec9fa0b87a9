import ComponentAudit.Proofs.Files
import ComponentAudit.Proofs.Reporting

/-!
# Collecting apart and together

A collector may collect for itself and be absorbed later, or its calls may be made on the other collector at once: both come to
the same (`Collector.absorb_apart`). Absorbing is associative, a collector that has found nothing is its unit, and only the order
of the issues depends on the order in which collectors are absorbed. So the files of a scan may as well share one collector that
goes from file to file (`Scan.found_tallyOf`).
-/

namespace ComponentAudit

namespace IdSet

theorem empty_union (s : IdSet) : empty.union s = s :=
  ext fun id => by simp only [mem_union, mem_empty, false_or]

theorem union_assoc (s t u : IdSet) : (s.union t).union u = s.union (t.union u) :=
  ext fun id => by simp only [mem_union, or_assoc]

theorem union_right_comm (s t u : IdSet) : (s.union t).union u = (s.union u).union t :=
  ext fun id => by simp only [mem_union, or_right_comm]

/-- Sets are joined in any order. -/
theorem foldl_union_perm {α : Type} {l l' : List α} (h : l.Perm l') (ids : α → IdSet) (s : IdSet) :
    l.foldl (fun s x => s.union (ids x)) s = l'.foldl (fun s x => s.union (ids x)) s :=
  h.foldl_eq' (fun x _ y _ s => union_right_comm s (ids x) (ids y)) s

end IdSet

namespace Collector

/-- A collector that has found nothing takes over what it absorbs. -/
theorem empty_absorb (c : Collector) : empty.absorb c = c := by
  rw [absorb, empty, IdSet.empty_union, IdSet.empty_union, List.nil_append]

theorem absorb_assoc (c d e : Collector) : (c.absorb d).absorb e = c.absorb (d.absorb e) := by
  simp only [absorb, List.append_assoc, IdSet.union_assoc]

/-- What is passed and failed after some collectors were absorbed is joined from theirs. -/
theorem verdicts_foldl_absorb (c : Collector) (ds : List Collector) :
    (ds.foldl absorb c).passed = ds.foldl (fun s d => s.union d.passed) c.passed ∧
      (ds.foldl absorb c).failed = ds.foldl (fun s d => s.union d.failed) c.failed := by
  induction ds generalizing c with
  | nil => exact ⟨rfl, rfl⟩
  | cons d rest ih => exact ih (c.absorb d)

/-- The issues after some collectors were absorbed are those before, and then theirs in their order. -/
theorem issues_foldl_absorb (c : Collector) (ds : List Collector) :
    (ds.foldl absorb c).issues = c.issues ++ ds.flatMap (·.issues) := by
  induction ds generalizing c with
  | nil => exact (List.append_nil _).symm
  | cons d rest ih => rw [List.foldl_cons, ih, absorb, List.append_assoc, List.flatMap_cons]

/-- The calls made on a collector of its own, which is then absorbed, come to the calls made in place. -/
theorem absorb_runAll_empty (c : Collector) (calls : List Call) :
    c.absorb (empty.runAll calls) = c.runAll (Call.leavesAll calls) := by
  -- Only calls about one rule go past `absorb` one by one, so the nested ones are replaced first.
  rw [runAll_leaves, absorb_runAll (Call.plain_leavesAll calls), absorb_empty]

/-- Issues stay where they are, whatever calls are made. -/
theorem prefix_issues_runAll (c : Collector) (calls : List Call) : c.issues <+: (c.runAll calls).issues := by
  rw [runAll_leaves, issues_runAll (Call.plain_leavesAll calls)]
  exact List.prefix_append _ _

/-- Collecting apart. Whatever calls are made, on a fresh collector that is then absorbed or on the other collector itself, with
the nested ones in their places and none left that absorbs: the issues, their order and the two sets are the same. So absorbing
is associative, and a collector that has found nothing makes no difference on either side. What has passed and failed does not
depend on the order in which collectors are absorbed; the issues that were there stay in front, and those of the collectors
follow in that order. -/
theorem absorb_apart :
    (∀ (c : Collector) (calls : List Call),
      c.absorb (empty.runAll calls) = c.runAll (Call.leavesAll calls) ∧
        ∀ call ∈ Call.leavesAll calls, ∀ inner, call ≠ .absorb inner) ∧
    (∀ c d e : Collector, (c.absorb d).absorb e = c.absorb (d.absorb e)) ∧
    (∀ c : Collector, empty.absorb c = c ∧ c.absorb empty = c) ∧
    (∀ (c : Collector) (ds es : List Collector), ds.Perm es →
      (ds.foldl absorb c).passed = (es.foldl absorb c).passed ∧
        (ds.foldl absorb c).failed = (es.foldl absorb c).failed) ∧
    (∀ (c : Collector) (ds : List Collector), (ds.foldl absorb c).issues = c.issues ++ ds.flatMap (·.issues)) ∧
    ∀ (c : Collector) (calls : List Call), c.issues <+: (c.runAll calls).issues := by
  refine ⟨fun c calls => ⟨absorb_runAll_empty c calls, ?_⟩, absorb_assoc, fun c => ⟨empty_absorb c, absorb_empty c⟩, ?_,
    issues_foldl_absorb, prefix_issues_runAll⟩
  · rintro call hcall inner rfl
    obtain ⟨id, hid⟩ := Call.plain_leavesAll calls _ hcall
    cases hid
  · intro c ds es h
    obtain ⟨hpassed, hfailed⟩ := verdicts_foldl_absorb c ds
    obtain ⟨hpassed', hfailed'⟩ := verdicts_foldl_absorb c es
    rw [hpassed, hfailed, hpassed', hfailed']
    exact ⟨IdSet.foldl_union_perm h _ _, IdSet.foldl_union_perm h _ _⟩

end Collector

/-! ## One collector for all files -/

open Collector Text

/-- What the rules of a checker have to say about bytes. -/
def Checker.callsOn (c : Checker) (root path : Path) (kind : FileKind) (bytes : List UInt8) : List Call :=
  c.callsFor (.ofPath path (Utf8.decodeLossy bytes) root kind) (syntaxOutcome c.parser kind bytes)

namespace Scan

/-- What the rules of a scan have to say about a file; nothing about one that cannot be read. -/
def callsIn (s : Scan) : Candidate × Except FileError (List UInt8) → List Call
  | (c, .ok bytes) => s.checker.callsOn s.root c.path c.kind bytes
  | (_, .error _) => []

/-- One file more adds the calls of its rules to what was found. -/
theorem found_add_checkRead (s : Scan) (t : Tally) (file : Candidate × Except FileError (List UInt8)) :
    (t.add (s.checkRead file.1 file.2)).found = t.found.runAll (s.callsIn file) := by
  obtain ⟨c, read⟩ := file
  cases read with
  | ok bytes =>
    show t.found.absorb (s.checker.checkBytes s.root c.path c.kind bytes) = _
    rw [Checker.checkBytes_eq, absorb_runAll (Checker.plain_callsFor _ _ _), absorb_empty]
    rfl
  | error e => rw [callsIn, runAll]; rfl

/-- What a scan finds, file by file in collectors of their own, is what one collector finds that all files share. -/
theorem found_tallyOf (s : Scan) (looked : Looked) :
    (s.tallyOf looked).found = looked.foldl (fun found file => found.runAll (s.callsIn file)) .empty := by
  have step : ∀ t : Tally, ((looked.map fun file => s.checkRead file.1 file.2).foldl Tally.add t).found =
      looked.foldl (fun found file => found.runAll (s.callsIn file)) t.found := by
    induction looked with
    | nil => exact fun _ => rfl
    | cons file rest ih => exact fun t => (ih _).trans (by rw [found_add_checkRead, List.foldl_cons])
  exact step .empty

end Scan

end ComponentAudit
