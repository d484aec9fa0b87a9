import Mathlib
import ComponentAudit.Scan

/-!
# One worker or several

A scan with one worker checks each file when the walk comes to it and stops where the walk fails; with several workers it
walks first, and the files are finished in any order. Both come to the outcomes of the files in the order of the walk
(`Tally.oneByOne_eq`, `Tally.atOnce_eq`), so a scan gives the same report with any number of workers
(`Scan.run_same_of_workers`).
-/

namespace ComponentAudit

/-- The orders in which some files may be finished: each file once, for any number of files. -/
def EachOnce (order : Nat → List Nat) : Prop :=
  ∀ n, (order n).Perm (List.range n)

/-- The files may be finished in the order in which they stand. -/
theorem eachOnce_range : EachOnce List.range :=
  fun _ => .refl _

/-- The files may be finished from the last one to the first. -/
theorem eachOnce_reverse : EachOnce fun n => (List.range n).reverse :=
  fun _ => List.reverse_perm _

/-- The first error of a walk: what comes before it are candidates. -/
def FirstError {ε : Type} (entries : List (Except ε Candidate)) (e : ε) : Prop :=
  ∃ (candidates : List Candidate) (rest : List (Except ε Candidate)), entries = candidates.map .ok ++ .error e :: rest

namespace Tally

/-! ## The entries of a walk -/

/-- Putting the entries of a walk together gives its candidates, or its first error. -/
theorem mapM_id_cases {ε : Type} (entries : List (Except ε Candidate)) :
    (∃ candidates, entries = candidates.map .ok ∧ entries.mapM id = .ok candidates) ∨
      ∃ e, FirstError entries e ∧ entries.mapM id = .error e := by
  induction entries with
  | nil => exact Or.inl ⟨[], rfl, rfl⟩
  | cons entry rest ih =>
    cases entry with
    | error e => exact Or.inr ⟨e, ⟨[], rest, rfl⟩, by rw [List.mapM_cons]; rfl⟩
    | ok c =>
      rcases ih with ⟨candidates, rfl, hm⟩ | ⟨e, ⟨candidates, after, rfl⟩, hm⟩
      · refine Or.inl ⟨c :: candidates, rfl, ?_⟩
        rw [List.mapM_cons, hm]
        rfl
      · refine Or.inr ⟨e, ⟨c :: candidates, after, rfl⟩, ?_⟩
        rw [List.mapM_cons, hm]
        rfl

theorem mapM_id_ok {ε : Type} (candidates : List Candidate) :
    (candidates.map Except.ok).mapM id = (.ok candidates : Except ε (List Candidate)) := by
  induction candidates with
  | nil => rfl
  | cons c rest ih =>
    rw [List.map_cons, List.mapM_cons, ih]
    rfl

/-! ## One worker -/

/-- One file after another: the outcomes in the order of the walk, unless the walk fails. -/
theorem oneByOne_eq {ε : Type} (check : Candidate → FileOutcome) (t : Tally) (entries : List (Except ε Candidate)) :
    oneByOne check t entries = (entries.mapM id).map fun candidates => (candidates.map check).foldl add t := by
  induction entries generalizing t with
  | nil => rfl
  | cons entry rest ih =>
    cases entry with
    | error e => rw [List.mapM_cons]; rfl
    | ok c =>
      rw [oneByOne, ih, List.mapM_cons]
      cases rest.mapM id with
      | error e => rfl
      | ok candidates => rfl

/-! ## Several workers -/

theorem length_finish (check : Candidate → FileOutcome) (candidates : List Candidate) (slots : List (Option FileOutcome))
    (n : Nat) : (finish check candidates slots n).length = slots.length := by
  unfold finish
  split
  · exact List.length_set
  · rfl

/-- Finishing a file fills its slot and no other. -/
theorem getElem?_finish {check : Candidate → FileOutcome} {candidates : List Candidate}
    {slots : List (Option FileOutcome)} (h : slots.length = candidates.length) (n k : Nat) :
    (finish check candidates slots n)[k]? =
      if k = n then candidates[k]?.map (fun c => some (check c)) else slots[k]? := by
  unfold finish
  by_cases hk : k = n
  · subst hk
    rw [if_pos rfl]
    split
    · rename_i c hc
      have hlt : k < slots.length := h ▸ (List.getElem?_eq_some_iff.1 hc).1
      rw [hc, List.getElem?_set_self hlt, Option.map_some]
    · rename_i hc
      have hle : slots.length ≤ k := h ▸ List.getElem?_eq_none_iff.1 hc
      rw [hc, List.getElem?_eq_none_iff.2 hle, Option.map_none]
  · rw [if_neg hk]
    split
    · exact List.getElem?_set_ne (Ne.symm hk)
    · rfl

/-- After some files are finished, the slots of those files hold their outcomes, and the others what they held. -/
theorem getElem?_foldl_finish {check : Candidate → FileOutcome} {candidates : List Candidate} (order : List Nat) (k : Nat) :
    ∀ slots : List (Option FileOutcome), slots.length = candidates.length →
      (order.foldl (finish check candidates) slots)[k]? =
        if k ∈ order then candidates[k]?.map (fun c => some (check c)) else slots[k]? := by
  induction order with
  | nil => simp
  | cons n order ih =>
    intro slots h
    rw [List.foldl_cons, ih _ ((length_finish check candidates slots n).trans h), getElem?_finish h]
    by_cases hk : k ∈ order
    · rw [if_pos hk, if_pos (List.mem_cons_of_mem n hk)]
    · by_cases hkn : k = n
      · rw [if_neg hk, if_pos hkn, if_pos (hkn ▸ List.mem_cons_self ..)]
      · rw [if_neg hk, if_neg hkn, if_neg (by simp [hk, hkn])]

/-- Once each file is finished, in whatever order, the slots hold the outcomes in the order of the walk. -/
theorem foldl_finish_eq (check : Candidate → FileOutcome) {candidates : List Candidate} {order : List Nat}
    (h : order.Perm (List.range candidates.length)) :
    order.foldl (finish check candidates) (List.replicate candidates.length none) =
      candidates.map fun c => some (check c) := by
  apply List.ext_getElem?
  intro k
  rw [getElem?_foldl_finish order k _ List.length_replicate, List.getElem?_map]
  split
  · rfl
  · rename_i hk
    rw [h.mem_iff, List.mem_range, Nat.not_lt] at hk
    rw [List.getElem?_eq_none_iff.2 hk, Option.map_none, List.getElem?_eq_none_iff, List.length_replicate]
    exact hk

/-- All files at once: the outcomes in the order of the walk, whatever the order in which the files are finished. -/
theorem atOnce_eq {ε : Type} (check : Candidate → FileOutcome) {order : Nat → List Nat} (h : EachOnce order)
    (entries : List (Except ε Candidate)) :
    atOnce check order entries = (entries.mapM id).map fun candidates => (candidates.map check).foldl add empty := by
  unfold atOnce
  cases entries.mapM id with
  | error e => rfl
  | ok candidates =>
    have hslots := foldl_finish_eq check (h candidates.length)
    have hid : (candidates.map fun c => some (check c)).filterMap id = candidates.map check := by
      rw [List.filterMap_map]
      exact congrFun List.filterMap_eq_map _
    show Except.ok _ = Except.ok _
    rw [hslots, hid]

/-! ## What is known in the end -/

theorem filesChecked_add (t : Tally) (o : FileOutcome) : (t.add o).filesChecked = t.filesChecked + 1 := by
  cases o <;> rfl

/-- Every outcome counts as a file. -/
theorem filesChecked_foldl_add (outcomes : List FileOutcome) (t : Tally) :
    (outcomes.foldl add t).filesChecked = t.filesChecked + outcomes.length := by
  induction outcomes generalizing t with
  | nil => rfl
  | cons o rest ih =>
    rw [List.foldl_cons, ih, filesChecked_add, List.length_cons]
    omega

end Tally

/-- Two reports that are equal apart from the time at which they were made. -/
def Report.SameButTime (r r' : Report) : Prop :=
  r' = { r with timestamp := r'.timestamp }

namespace Scan

/-- What is known after all files, with any number of workers: the outcomes in the order of the walk. -/
theorem tally_eq (s : Scan) (files : FileTree) {order : Nat → List Nat} (h : EachOnce order) :
    s.tally files order =
      ((s.walker.walk files).mapM id).map fun candidates : List Candidate =>
        (candidates.map (s.checkFile files)).foldl Tally.add .empty := by
  unfold tally
  split
  · exact Tally.atOnce_eq _ h _
  · exact Tally.oneByOne_eq _ _ _

/-- A run ends with the first error of the walk, or with the report of the outcomes in the order of the walk. -/
theorem run_eq (s : Scan) (files : FileTree) (now : Timestamp) {order : Nat → List Nat} (h : EachOnce order) :
    (∃ e, FirstError (s.walker.walk files) e ∧ s.run files now order = .error (.walk e)) ∨
      ∃ candidates : List Candidate, s.walker.walk files = candidates.map .ok ∧
        s.run files now order = .ok (s.report now ((candidates.map (s.checkFile files)).foldl Tally.add .empty)) := by
  rw [run, tally_eq s files h]
  rcases Tally.mapM_id_cases (s.walker.walk files) with ⟨candidates, hwalk, hm⟩ | ⟨e, hfirst, hm⟩
  · rw [hm]
    exact Or.inr ⟨candidates, hwalk, rfl⟩
  · rw [hm]
    exact Or.inl ⟨e, hfirst, rfl⟩

/-- A scan comes to the same end with any numbers of workers, none and one being one file after another, and in whatever
orders the files are finished: to the first error of the walk and no report, or to reports that are equal apart from the
time, and that count the candidates of the walk. -/
theorem run_same_of_workers (s : Scan) (files : FileTree) (now now' : Timestamp) (n n' : Nat) {order order' : Nat → List Nat}
    (h : EachOnce order) (h' : EachOnce order') :
    (∃ e, FirstError (s.walker.walk files) e ∧
      { s with workers := n }.run files now order = .error (.walk e) ∧
      { s with workers := n' }.run files now' order' = .error (.walk e)) ∨
    ∃ (candidates : List Candidate) (r r' : Report), s.walker.walk files = candidates.map .ok ∧
      { s with workers := n }.run files now order = .ok r ∧
      { s with workers := n' }.run files now' order' = .ok r' ∧
      r.SameButTime r' ∧ r.filesChecked = candidates.length ∧ r'.filesChecked = candidates.length := by
  simp only [run, tally_eq _ files h, tally_eq _ files h']
  rcases Tally.mapM_id_cases (s.walker.walk files) with ⟨candidates, hwalk, hm⟩ | ⟨e, hfirst, hm⟩
  · have hcount : ((candidates.map (s.checkFile files)).foldl Tally.add .empty).filesChecked = candidates.length := by
      rw [Tally.filesChecked_foldl_add, List.length_map]
      exact Nat.zero_add _
    rw [hm]
    exact Or.inr ⟨candidates, _, _, hwalk, rfl, rfl, rfl, hcount, hcount⟩
  · rw [hm]
    exact Or.inl ⟨e, hfirst, rfl, rfl⟩

/-- A project of two files, one of which may not be opened, with something between them. -/
def sampleTree (between : FileTree) : FileTree :=
  .directory [("p", .directory
    [("a.go", .file [112, 10]), ("b", between), ("c.go", .closed false)])]

/-- A scan of the project without rules. -/
def sampleScan : Scan where
  root := ⟨"/p"⟩
  walker := { root := ⟨"/p"⟩ }
  checker := .ofRegistry .empty .acceptAll
  workers := 0
  session := none

theorem walk_sample_open : sampleScan.walker.walk (sampleTree (.directory [])) =
    [.ok ⟨⟨"/p/a.go"⟩, .go⟩, .ok ⟨⟨"/p/c.go"⟩, .go⟩] := by
  cbv

theorem walk_sample_closed : sampleScan.walker.walk (sampleTree (.closed true)) =
    [.ok ⟨⟨"/p/a.go"⟩, .go⟩, .error ⟨⟨"/p"⟩, ⟨"/p/b"⟩, .denied⟩, .ok ⟨⟨"/p/c.go"⟩, .go⟩] := by
  cbv

/-- Four workers that finish the last file first, and one worker: both count two files if the directory between them can be
opened, and both end with its error if not. -/
theorem run_same_of_reverse :
    (EachOnce fun n => (List.range n).reverse) ∧ EachOnce List.range ∧
    (∃ r r', { sampleScan with workers := 4 }.run (sampleTree (.directory [])) default
          (fun n => (List.range n).reverse) = .ok r ∧
        { sampleScan with workers := 1 }.run (sampleTree (.directory [])) default List.range = .ok r' ∧
        r.SameButTime r' ∧ r.filesChecked = 2) ∧
    ∃ e, { sampleScan with workers := 4 }.run (sampleTree (.closed true)) default
          (fun n => (List.range n).reverse) = .error (.walk e) ∧
        { sampleScan with workers := 1 }.run (sampleTree (.closed true)) default List.range = .error (.walk e) := by
  refine ⟨eachOnce_reverse, eachOnce_range, ?_, ?_⟩
  · rcases run_same_of_workers sampleScan (sampleTree (.directory [])) default default 4 1 eachOnce_reverse eachOnce_range with
      ⟨e, ⟨candidates, rest, hwalk⟩, -, -⟩ | ⟨candidates, r, r', hwalk, hr, hr', hsame, hcount, -⟩
    · have hmem : Except.error e ∈ sampleScan.walker.walk (sampleTree (.directory [])) := by simp [hwalk]
      simp [walk_sample_open] at hmem
    · have hlength := congrArg List.length (walk_sample_open.symm.trans hwalk)
      exact ⟨r, r', hr, hr', hsame, hcount.trans (by simpa using hlength.symm)⟩
  · rcases run_same_of_workers sampleScan (sampleTree (.closed true)) default default 4 1 eachOnce_reverse eachOnce_range with
      ⟨e, -, hrun, hrun'⟩ | ⟨candidates, r, r', hwalk, -⟩
    · exact ⟨e, hrun, hrun'⟩
    · have hmem : Except.error ⟨⟨"/p"⟩, ⟨"/p/b"⟩, .denied⟩ ∈ sampleScan.walker.walk (sampleTree (.closed true)) := by
        simp [walk_sample_closed]
      simp [hwalk] at hmem

end Scan

end ComponentAudit
