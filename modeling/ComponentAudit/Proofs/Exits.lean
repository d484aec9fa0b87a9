import ComponentAudit.Proofs.Drawing
import ComponentAudit.Proofs.Following
import ComponentAudit.Proofs.Passing
import ComponentAudit.Proofs.Resolving

/-!
# How a check ends

Whether a check can be run depends on its configuration and its arguments: the configuration has to load, its rules have to
make a registry, and its globs have to be valid (`CommandLine.Ready`, `CommandLine.Unready`). A check that cannot be run fails
without a look at the files (`CommandLine.Unready.check_eq`). For one that can be run, the exit status tells whether the walk
failed and whether there are issues (`CommandLine.tells_check`), and it is the same however the report is shown and written,
and with any number of workers, save that a check fails whose report is to be JSON and has a path that is not UTF-8, and breaks
off if it is to draw an issue that cannot be drawn (`CommandLine.status_check_eq_brokenOff_iff`). All of it together is
`CommandLine.run_status`.
-/

namespace ComponentAudit

/-! ## How a scan ends -/

namespace Scan

/-- The walk of a scan comes to an error. -/
def WalkFails (s : Scan) (files : FileTree) : Prop :=
  ∃ e, Except.error e ∈ s.walker.walk files

/-- The report of a scan has an issue. -/
def FindsIssue (s : Scan) (files : FileTree) (now : Timestamp) (order : Nat → List Nat) : Prop :=
  ∃ r, s.run files now order = .ok r ∧ r.issues ≠ []

/-- The report of a scan, if there is one, has JSON text. -/
def ReportsText (s : Scan) (files : FileTree) (now : Timestamp) (order : Nat → List Nat) : Prop :=
  ∀ r, s.run files now order = .ok r → r.isText = true

/-- The issues in the report of a scan, if there is one, can be drawn over their lines. -/
def ReportsDrawable (s : Scan) (files : FileTree) (now : Timestamp) (order : Nat → List Nat) : Prop :=
  ∀ r, s.run files now order = .ok r → ∀ i ∈ r.issues, CommandLine.isDrawable files r.root i = true

variable {s : Scan} {files : FileTree} {now : Timestamp} {order : Nat → List Nat}

theorem not_walkFails {candidates : List Candidate} (h : s.walker.walk files = candidates.map .ok) : ¬s.WalkFails files := by
  rintro ⟨e, he⟩
  rw [h] at he
  obtain ⟨c, -, hc⟩ := List.mem_map.1 he
  cases hc

/-- A run has a report exactly if the walk does not fail. -/
theorem run_cases (s : Scan) (files : FileTree) (now : Timestamp) (h : EachOnce order) :
    (s.WalkFails files ∧ ∃ e, s.run files now order = .error (.walk e)) ∨
      (¬s.WalkFails files ∧ ∃ r, s.run files now order = .ok r) := by
  rcases run_eq s files now h with ⟨e, ⟨candidates, rest, hwalk⟩, hrun⟩ | ⟨candidates, hwalk, hrun⟩
  · exact Or.inl ⟨⟨e, hwalk ▸ List.mem_append_right _ (List.mem_cons_self ..)⟩, e, hrun⟩
  · exact Or.inr ⟨not_walkFails hwalk, _, hrun⟩

theorem reportsText_of_walkFails (now : Timestamp) (h : EachOnce order) (hfails : s.WalkFails files) :
    s.ReportsText files now order := by
  rcases s.run_cases files now h with ⟨-, e, hrun⟩ | ⟨hends, -⟩
  · exact fun r hr => nomatch hrun.symm.trans hr
  · exact absurd hfails hends

/-- With another number of workers and another session, a scan comes to the same end, and to the same report but for the
session. -/
theorem run_workers (h : EachOnce order) {order' : Nat → List Nat} (h' : EachOnce order') (workers : Nat)
    (session : Option String) :
    { s with workers, session }.run files now order' = (s.run files now order).map fun r => { r with session } := by
  rw [run_eq_reportOn _ now files h', run_eq_reportOn s now files h]
  show (((s.walker.walk files).mapM id).map _).mapError _ = _
  cases (s.walker.walk files).mapM id with
  | error e => rfl
  | ok candidates => rfl

/-- What holds of the report of a scan, if there is one, whatever the session, holds with any number of workers. -/
theorem reports_same (s : Scan) (files : FileTree) (now : Timestamp) (h : EachOnce order) {order' : Nat → List Nat}
    (h' : EachOnce order') (workers : Nat) (session : Option String) (P : Report → Prop) (hP : ∀ r, P { r with session } ↔ P r) :
    (∀ r, { s with workers, session }.run files now order' = .ok r → P r) ↔ ∀ r, s.run files now order = .ok r → P r := by
  rw [run_workers h h' workers session]
  cases s.run files now order with
  | error e => exact iff_of_true nofun nofun
  | ok r =>
    constructor
    · rintro hall _ ⟨⟩
      exact (hP _).1 (hall _ rfl)
    · rintro hall _ ⟨⟩
      exact (hP _).2 (hall _ rfl)

/-- The number of workers and the session make no difference to whether there are issues. -/
theorem findsIssue_same (h : EachOnce order) {order' : Nat → List Nat} (h' : EachOnce order') (workers : Nat)
    (session : Option String) :
    { s with workers, session }.FindsIssue files now order' ↔ s.FindsIssue files now order := by
  have hnone := s.reports_same files now h h' workers session (fun r => r.issues = []) fun _ => Iff.rfl
  simpa [FindsIssue] using not_congr hnone

/-- A report has no issue exactly if its status is that of success. -/
theorem statusOf_of_run {r : Report} (h : EachOnce order) (hr : s.run files now order = .ok r) :
    CommandLine.statusOf r = if r.issues = [] then .success else .issues := by
  obtain ⟨candidates, -, rfl⟩ := report_of_run h hr
  rw [CommandLine.statusOf]
  exact if_congr isPassing_reportOn rfl rfl

end Scan

/-! ## Scans that can be made ready -/

/-- Some texts make a list of globs exactly if each of them is one. -/
theorem Glob.exists_mapM_parse_iff {texts : List String} :
    (∃ globs, texts.mapM Glob.parse = .ok globs) ↔ ∀ text ∈ texts, ∃ glob, Glob.parse text = .ok glob := by
  induction texts with
  | nil => exact iff_of_true ⟨[], rfl⟩ nofun
  | cons text rest ih =>
    rw [List.forall_mem_cons, ← ih, List.mapM_cons]
    cases Glob.parse text with
    | error e => exact iff_of_false (fun ⟨_, h⟩ => nomatch h) (fun ⟨⟨_, h⟩, _⟩ => nomatch h)
    | ok glob =>
      cases rest.mapM Glob.parse with
      | error e => exact iff_of_false (fun ⟨_, h⟩ => nomatch h) (fun ⟨_, _, h⟩ => nomatch h)
      | ok globs => exact iff_of_true ⟨_, rfl⟩ ⟨⟨_, rfl⟩, _, rfl⟩

/-- A plan can be made ready exactly if its globs are valid. -/
theorem ScanPlan.exists_prepare_iff {p : ScanPlan} {here : Path} :
    (∃ s, p.prepare here = .ok s) ↔ ∀ text ∈ p.excluded, ∃ glob, Glob.parse text = .ok glob := by
  rw [← Glob.exists_mapM_parse_iff]
  unfold prepare
  cases p.excluded.mapM Glob.parse with
  | error e => exact iff_of_false (fun ⟨s, hs⟩ => nomatch hs) (fun ⟨globs, hglobs⟩ => nomatch hglobs)
  | ok globs => exact iff_of_true ⟨_, rfl⟩ ⟨globs, rfl⟩

/-- A plan with another number of workers and another session gives a scan that differs in them. -/
theorem ScanPlan.prepare_workers (p : ScanPlan) (here : Path) (workers : Nat) (session : Option String) :
    { p with workers, session }.prepare here = (p.prepare here).map fun s => { s with workers, session } := by
  unfold prepare
  cases (p.excluded.mapM Glob.parse).mapError ScanError.glob with
  | error e => rfl
  | ok globs => rfl

/-- Whether a file can be written does not depend on what is written to it. -/
theorem FileTree.exists_write {files written : FileTree} {p : Path} {bytes : List UInt8}
    (h : files.write p bytes = .ok written) (bytes' : List UInt8) : ∃ written', files.write p bytes' = .ok written' := by
  unfold write at h ⊢
  split at h
  · cases h
  · rename_i hlast
    rw [if_neg hlast]
    revert h
    cases files.locate p with
    | error e => exact nofun
    | ok destination =>
      cases destination with
      | missing names rest =>
        cases rest with
        | nil => exact fun _ => ⟨_, rfl⟩
        | cons step rest => exact nofun
      | found names =>
        dsimp only [bind, Except.bind]
        cases files.at? names with
        | none => exact fun _ => ⟨_, rfl⟩
        | some t =>
          cases t with
          | file old => exact fun _ => ⟨_, rfl⟩
          | link target => exact fun _ => ⟨_, rfl⟩
          | directory entries => exact nofun
          | closed isDirectory =>
            cases isDirectory with
            | true => exact nofun
            | false => exact nofun

namespace CommandLine

open FileTree

variable {env : Environment} {source : ConfigSource} {a : CheckArguments}

/-! ## Checks that can be run -/

/-- The file that the report of a check is to be written to can be written, if there is to be one. -/
def Writable (env : Environment) (a : CheckArguments) : Prop :=
  ∀ path, a.output = some path → ∃ bytes files, env.files.write (env.here / path) bytes = .ok files

/-- A check can be run: its configuration loads, the rules that are active make a registry, its globs are valid, and the file
that it writes the report to can be written. -/
structure Ready (env : Environment) (source : ConfigSource) (a : CheckArguments) (c : Config) (g : Registry) : Prop where
  load : source.load env = .ok c
  rules : activeRules c = .ok g
  globs : ∀ text ∈ c.scan.excluded ++ a.excluded, ∃ glob, Glob.parse text = .ok glob
  output : Writable env a

/-- A check cannot be run: its configuration does not load, it names a preset that there is not, two of the rules that are
active share an identifier, or a glob is not valid. -/
inductive Unready (env : Environment) (source : ConfigSource) (a : CheckArguments) : Prop where
  | config {e : Failure} (load : source.load env = .error e)
  | preset {c : Config} {name : String} (load : source.load env = .ok c) (named : c.preset = some name)
    (unknown : Rules.Preset.ofName? name = none)
  | duplicate {c : Config} {preset : Rules.Preset} (load : source.load env = .ok c) (known : presetOf c = .ok preset)
    (repeated : ¬((c.resolve preset.rules).map (·.id)).Nodup)
  | glob {c : Config} {text : String} {e : GlobError} (load : source.load env = .ok c)
    (mem : text ∈ c.scan.excluded ++ a.excluded) (invalid : Glob.parse text = .error e)

variable {c : Config} {g : Registry}

/-- Whether a check has a scan, once its rules are known. -/
theorem prepare_of_rules (a : CheckArguments) (hload : source.load env = .ok c) (hrules : activeRules c = .ok g) :
    prepare env source a =
      (((planOf c (chosenRules g a.rules).1 a).prepare env.here).mapError .plan).map fun s =>
        (s, (chosenRules g a.rules).2 ++ s.preparationLog ++
          [.info s!"Validating {s.root.text} with {s.registry.size} rules"]) := by
  rw [prepare, hload]
  show (activeRules c >>= _) = _
  rw [hrules]
  show (((planOf c (chosenRules g a.rules).1 a).prepare env.here).mapError Failure.plan >>= _) = _
  cases ((planOf c (chosenRules g a.rules).1 a).prepare env.here).mapError Failure.plan with
  | error e => rfl
  | ok s => rfl

/-- A check that can be run has a scan. -/
theorem Ready.exists_scan (h : Ready env source a c g) :
    ∃ s log, (planOf c (chosenRules g a.rules).1 a).prepare env.here = .ok s ∧ prepare env source a = .ok (s, log) := by
  have hglobs : ∀ text ∈ (planOf c (chosenRules g a.rules).1 a).excluded, ∃ glob, Glob.parse text = .ok glob := h.globs
  obtain ⟨s, hs⟩ := ScanPlan.exists_prepare_iff.2 hglobs
  have hprepare := prepare_of_rules a h.load h.rules
  rw [hs] at hprepare
  exact ⟨s, _, hs, hprepare⟩

/-- A check that cannot be run has none. -/
theorem Unready.exists_error (h : Unready env source a) : ∃ e, prepare env source a = .error e := by
  have norules : ∀ {c e}, source.load env = .ok c → activeRules c = .error e → prepare env source a = .error e := by
    intro c e hload hrules
    rw [prepare, hload]
    show (activeRules c >>= _) = _
    rw [hrules]
    rfl
  cases h with
  | config hload =>
    rw [prepare, hload]
    exact ⟨_, rfl⟩
  | @preset c name hload hnamed hunknown =>
    have hpreset : presetOf c = .error (.unknownPreset name) := by
      rw [presetOf, hnamed]
      simp only [hunknown]
    have hrules : activeRules c = .error (.unknownPreset name) := by
      rw [activeRules, hpreset]
      rfl
    exact ⟨_, norules hload hrules⟩
  | @duplicate c preset hload hknown hrepeated =>
    cases hmade : Registry.ofRules (c.resolve preset.rules) with
    | error e =>
      have hrules : activeRules c = .error (.duplicateRule e) := by
        rw [activeRules, hknown]
        show (Registry.ofRules _).mapError _ = _
        rw [hmade]
        rfl
      exact ⟨_, norules hload hrules⟩
    | ok g => exact absurd (Registry.ofRules_eq_ok_iff.1 hmade ▸ g.distinct) hrepeated
  | @glob c text e hload hmem hinvalid =>
    cases hrules : activeRules c with
    | error e => exact ⟨e, norules hload hrules⟩
    | ok g =>
      rw [prepare_of_rules a hload hrules]
      cases hs : (planOf c (chosenRules g a.rules).1 a).prepare env.here with
      | error e => exact ⟨_, rfl⟩
      | ok s =>
        obtain ⟨glob, hglob⟩ := ScanPlan.exists_prepare_iff.1 ⟨s, hs⟩ text hmem
        rw [hinvalid] at hglob
        cases hglob

/-- A check that cannot be run fails. It comes to the same end with any other files from which its configuration loads alike,
since it does not look at the files to check. -/
theorem Unready.check_eq (h : Unready env source a) (order : Nat → List Nat) :
    ∃ e log, check env source a order = .failed env e log ∧
      ∀ files order', source.load { env with files } = source.load env →
        check { env with files } source a order' = .failed { env with files } e log := by
  obtain ⟨e, hprepare⟩ := h.exists_error
  refine ⟨e, source.log ++ failureLog env source a, ?_, fun files order' hload => ?_⟩
  · rw [check, hprepare]
  · have hprepare' : prepare { env with files } source a = .error e := by
      rw [← hprepare, prepare, prepare, hload]
    have hlog : failureLog { env with files } source a = failureLog env source a := by
      rw [failureLog, failureLog, hload]
    rw [check, hprepare', hlog]

/-! ## How a check that can be run ends -/

/-- A check is asked for its report as JSON, to show it or to write it to a file. -/
def NeedsText (a : CheckArguments) : Prop :=
  a.format = .json ∨ a.output ≠ none

instance (a : CheckArguments) : Decidable (NeedsText a) :=
  inferInstanceAs (Decidable (_ ∨ _))

/-- What the exit status and the output tell of a scan: whether the walk failed, whether the report is to be JSON and cannot be,
whether there are issues, and the report, if there is one. -/
structure Tells (o : Outcome) (s : Scan) (env : Environment) (order : Nat → List Nat) (a : CheckArguments) : Prop where
  noWalk : o.status.code = 2 ↔ s.WalkFails env.files
  failure : o.status.code = 3 ↔ NeedsText a ∧ ¬s.ReportsText env.files env.now order
  issues : o.status.code = 1 ↔ ¬s.WalkFails env.files ∧ s.FindsIssue env.files env.now order ∧
    (NeedsText a → s.ReportsText env.files env.now order)
  success : o.status.code = 0 ↔ ¬s.WalkFails env.files ∧ ¬s.FindsIssue env.files env.now order ∧
    (NeedsText a → s.ReportsText env.files env.now order)
  silent : s.WalkFails env.files → o.output = ""
  report : ¬s.WalkFails env.files →
    ∃ r, s.run env.files env.now order = .ok r ∧ o.output = (shown env.files r a.format).output

variable {s : Scan} {log : List LogEntry} {order : Nat → List Nat} {r : Report}

theorem output_save (env : Environment) (a : CheckArguments) (log : List LogEntry) (output : String) (r : Report) :
    (save env a log output r).output = output := by
  unfold save
  cases a.output with
  | none => rfl
  | some path =>
    cases jsonText? r with
    | none => rfl
    | some text =>
      dsimp only
      split <;> rfl

/-- Whatever becomes of a report, what is printed is what is shown of it. -/
theorem output_deliver (env : Environment) (a : CheckArguments) (log : List LogEntry) (r : Report) :
    (deliver env a log r).output = (shown env.files r a.format).output := by
  unfold deliver
  split
  · rename_i output hshown
    rw [output_save, hshown]
  · rename_i output hshown
    rw [hshown]
    rfl
  · rename_i output hshown
    rw [hshown]

/-- All issues are drawn exactly if none is too far to the right. -/
theorem length_takeWhile_isDrawable {files : FileTree} {root : Path} {issues : List Issue} :
    (issues.takeWhile (isDrawable files root)).length = issues.length ↔ ∀ i ∈ issues, isDrawable files root i = true :=
  ⟨fun h => List.takeWhile_eq_self_iff.1 ((List.takeWhile_prefix _).eq_of_length h),
    fun h => congrArg List.length (List.takeWhile_eq_self_iff.2 h)⟩

/-- A report is not shown because it has no text exactly if it is to be JSON. -/
theorem obstacle_eq_noText_iff {files : FileTree} {format : OutputFormat} :
    (shown files r format).obstacle = some .noText ↔ format = .json ∧ r.isText = false := by
  cases format with
  | text => exact iff_of_false nofun nofun
  | compact => exact iff_of_false nofun nofun
  | json =>
    unfold shown jsonText?
    cases r.isText with
    | true => exact iff_of_false nofun nofun
    | false => exact iff_of_true rfl ⟨rfl, rfl⟩
  | rich =>
    refine iff_of_false ?_ nofun
    dsimp only [shown]
    split
    · nofun
    · nofun

/-- A report is not shown to its end for want of room exactly if its issues are to be drawn, and one cannot be. -/
theorem obstacle_eq_noRoom_iff {files : FileTree} {format : OutputFormat} :
    (shown files r format).obstacle = some .noRoom ↔ format = .rich ∧ ¬∀ i ∈ r.issues, isDrawable files r.root i = true := by
  cases format with
  | text => exact iff_of_false nofun nofun
  | compact => exact iff_of_false nofun nofun
  | json =>
    unfold shown
    cases jsonText? r with
    | none => exact iff_of_false nofun nofun
    | some text => exact iff_of_false nofun nofun
  | rich =>
    dsimp only [shown]
    split
    next hall => exact iff_of_false nofun fun h => h.2 (length_takeWhile_isDrawable.1 hall)
    next hall => exact iff_of_true rfl ⟨rfl, mt length_takeWhile_isDrawable.2 hall⟩

/-- Where its report can be written, a check ends with its status, unless the report is to be JSON and cannot be. -/
theorem status_save (h : Writable env a) (log : List LogEntry) (output : String) (r : Report) :
    (save env a log output r).status = if a.output ≠ none ∧ r.isText = false then .failure else statusOf r := by
  unfold save
  cases hpath : a.output with
  | none => rfl
  | some path =>
    unfold jsonText?
    cases r.isText with
    | false => rfl
    | true =>
      obtain ⟨bytes, files, hwrite⟩ := h path hpath
      obtain ⟨written, hwritten⟩ := FileTree.exists_write hwrite (Data.Json.pretty 0 r.toValue).toUTF8.toList
      have hasked : ¬(some path ≠ none ∧ true = false) := nofun
      rw [if_neg hasked]
      simp only [if_true, hwritten]

/-- The same of a check that shows its report first, if it need draw no issue that cannot be drawn. -/
theorem status_deliver (h : Writable env a) (hroom : a.format = .rich → ∀ i ∈ r.issues, isDrawable env.files r.root i = true)
    (log : List LogEntry) :
    (deliver env a log r).status = if NeedsText a ∧ r.isText = false then .failure else statusOf r := by
  have htext := @obstacle_eq_noText_iff r env.files a.format
  have hdrawn := @obstacle_eq_noRoom_iff r env.files a.format
  unfold deliver NeedsText
  split
  · rename_i output hshown
    rw [hshown] at htext
    rw [status_save h]
    grind
  · rename_i output hshown
    rw [hshown] at htext
    obtain ⟨hjson, hraw⟩ := htext.1 rfl
    rw [if_pos ⟨Or.inl hjson, hraw⟩]
    rfl
  · rename_i output hshown
    rw [hshown] at hdrawn
    obtain ⟨hrich, hfar⟩ := hdrawn.1 rfl
    exact absurd (hroom hrich) hfar

/-- A check breaks off exactly if it is to draw an issue that cannot be drawn. -/
theorem status_deliver_eq_brokenOff_iff (env : Environment) (a : CheckArguments) (log : List LogEntry) (r : Report) :
    (deliver env a log r).status = .brokenOff ↔
      a.format = .rich ∧ ¬∀ i ∈ r.issues, isDrawable env.files r.root i = true := by
  have hsaved : ∀ output, (save env a log output r).status ≠ .brokenOff := by
    intro output
    unfold save statusOf Outcome.failed
    grind
  rw [← obstacle_eq_noRoom_iff]
  unfold deliver
  split
  · rename_i output hshown
    rw [hshown]
    exact iff_of_false (hsaved output) nofun
  · rename_i output hshown
    rw [hshown]
    exact iff_of_false nofun nofun
  · rename_i output hshown
    rw [hshown]
    exact iff_of_true rfl rfl

/-- The same of a check from its scan on. -/
theorem status_check_eq_brokenOff_iff (hprepare : prepare env source a = .ok (s, log)) :
    (check env source a order).status = .brokenOff ↔ a.format = .rich ∧ ¬s.ReportsDrawable env.files env.now order := by
  unfold check
  simp only [hprepare]
  cases hrun : s.run env.files env.now order with
  | error e =>
    have hdrawable : s.ReportsDrawable env.files env.now order := fun r hr => nomatch hrun.symm.trans hr
    exact iff_of_false nofun fun h => h.2 hdrawable
  | ok r =>
    have hdrawable : s.ReportsDrawable env.files env.now order ↔ ∀ i ∈ r.issues, isDrawable env.files r.root i = true :=
      ⟨fun h => h r hrun, fun h r' hr' => Except.ok.inj (hrun.symm.trans hr') ▸ h⟩
    rw [hdrawable]
    exact status_deliver_eq_brokenOff_iff env a _ r

/-- The end of a check that has a scan and can write its report, and draw it if it is to. -/
theorem tells_check (h : EachOnce order) (hprepare : prepare env source a = .ok (s, log)) (houtput : Writable env a)
    (hroom : a.format = .rich → s.ReportsDrawable env.files env.now order) :
    Tells (check env source a order) s env order a := by
  rcases s.run_cases env.files env.now h with ⟨hfails, e, hrun⟩ | ⟨hends, r, hrun⟩
  · obtain ⟨hstatus, hsilent⟩ : (check env source a order).status = .noWalk ∧ (check env source a order).output = "" := by
      unfold check
      simp only [hprepare, hrun, and_self]
    have hcode : (check env source a order).status.code = 2 := congrArg ExitStatus.code hstatus
    have htext := Scan.reportsText_of_walkFails env.now h hfails
    exact {
      noWalk := iff_of_true hcode hfails
      failure := iff_of_false (by omega) fun h => h.2 htext
      issues := iff_of_false (by omega) fun h => h.1 hfails
      success := iff_of_false (by omega) fun h => h.1 hfails
      silent := fun _ => hsilent
      report := fun hends => absurd hfails hends }
  · obtain ⟨hstatus, hshown⟩ : (check env source a order).status =
          (if NeedsText a ∧ r.isText = false then .failure else statusOf r) ∧
        (check env source a order).output = (shown env.files r a.format).output := by
      unfold check
      simp only [hprepare, hrun]
      exact ⟨status_deliver houtput (fun hrich => hroom hrich r hrun) _, output_deliver env a _ r⟩
    have hcode : (check env source a order).status.code =
        if NeedsText a ∧ r.isText = false then 3 else if r.issues = [] then 0 else 1 := by
      rw [hstatus, Scan.statusOf_of_run h hrun, apply_ite ExitStatus.code, apply_ite ExitStatus.code]
      rfl
    have hfinds : s.FindsIssue env.files env.now order ↔ r.issues ≠ [] := by
      refine ⟨fun ⟨r', hr', hissues⟩ => ?_, fun hissues => ⟨r, hrun, hissues⟩⟩
      rw [hrun] at hr'
      exact Except.ok.inj hr' ▸ hissues
    have htext : s.ReportsText env.files env.now order ↔ r.isText = true :=
      ⟨fun h => h r hrun, fun h r' hr' => Except.ok.inj (hrun.symm.trans hr') ▸ h⟩
    exact {
      noWalk := iff_of_false (by rw [hcode]; grind) hends
      failure := by rw [hcode, htext]; grind
      issues := by rw [hcode, hfinds, htext]; grind
      success := by rw [hcode, hfinds, htext]; grind
      silent := fun hfails => absurd hfails hends
      report := fun _ => ⟨r, hrun, hshown⟩ }

/-- Two checks end with the same number whose walks fail or not alike, that find issues or not alike, and of which both or none
need a report to be JSON that cannot be. -/
theorem Tells.code_eq {o o' : Outcome} {s' : Scan} {order' : Nat → List Nat} {a' : CheckArguments}
    (h : Tells o s env order a) (h' : Tells o' s' env order' a')
    (hwalk : s'.WalkFails env.files ↔ s.WalkFails env.files)
    (hfinds : s'.FindsIssue env.files env.now order' ↔ s.FindsIssue env.files env.now order)
    (htext : (NeedsText a' → s'.ReportsText env.files env.now order') ↔ (NeedsText a → s.ReportsText env.files env.now order)) :
    o'.status.code = o.status.code := by
  by_cases hfails : s.WalkFails env.files
  · rw [h.noWalk.2 hfails, h'.noWalk.2 (hwalk.2 hfails)]
  by_cases hneeds : NeedsText a → s.ReportsText env.files env.now order
  · by_cases hissue : s.FindsIssue env.files env.now order
    · rw [h.issues.2 ⟨hfails, hissue, hneeds⟩, h'.issues.2 ⟨mt hwalk.1 hfails, hfinds.2 hissue, htext.2 hneeds⟩]
    · rw [h.success.2 ⟨hfails, hissue, hneeds⟩, h'.success.2 ⟨mt hwalk.1 hfails, mt hfinds.1 hissue, htext.2 hneeds⟩]
  · rw [h.failure.2 (Classical.not_imp.1 hneeds), h'.failure.2 (Classical.not_imp.1 (mt htext.1 hneeds))]

/-- Two checks look at the same tree with the same rules. What else they are asked for, how the report is shown, whether and
where it is written, the session and the number of workers, may differ. -/
structure SameCheck (a a' : CheckArguments) : Prop where
  path : a'.path = a.path
  rules : a'.rules = a.rules
  excluded : a'.excluded = a.excluded

theorem SameCheck.exists_planOf {a' : CheckArguments} (h : SameCheck a a') (c : Config) (g : Registry) :
    ∃ workers session, planOf c g a' = { planOf c g a with workers, session } :=
  ⟨(planOf c g a').workers, a'.session, by simp only [planOf, h.path, h.excluded]⟩

/-- A run that checks is a check with the configuration of its project. -/
theorem run_of_parse {args : List String} {i : Invocation} (hargs : Invocation.parse args = .ok i)
    (hcheck : i.command = .check a) (env : Environment) (order : Nat → List Nat) :
    run env args order = check env (sourceOf env i) a order := by
  unfold run
  simp only [hargs, runInvocation, hcheck]

theorem runInvocation_of_check {i : Invocation} (hcheck : i.command = .check a) (env : Environment) (order : Nat → List Nat) :
    runInvocation env i order = check env (sourceOf env i) a order := by
  rw [runInvocation, hcheck]

theorem sourceOf_same {i i' : Invocation} {a' : CheckArguments} (hcheck : i.command = .check a)
    (hcheck' : i'.command = .check a') (hsame : SameCheck a a') (hconfig : i'.config = i.config) :
    sourceOf env i' = sourceOf env i := by
  simp only [sourceOf, Invocation.project, hcheck, hcheck', hsame.path, hconfig]

/-- How a call ends that checks a project; a run with arguments is the call that they ask for. If the check can be run, the exit
status is that of a failed walk exactly if the walk fails, and then no report is shown; that of a failure exactly if the report is
to be JSON, shown or written to a file, and has a path that is not UTF-8; that of issues exactly if else the report has an issue;
and else that of success. The number of the status stays the same in all formats, with any session and any number of workers, and
whether the report is written to a file or not, where the report can be JSON or is to be alike. Of checks that draw their issues,
all of this is said where there is room to draw them. If the check cannot be run, it fails without a look at the files: with any
others from which the same configuration is loaded, the call is the same. -/
theorem run_status {i : Invocation} (h : EachOnce order) (hcheck : i.command = .check a) :
    (∀ args, Invocation.parse args = .ok i → run env args order = runInvocation env i order) ∧
    (∀ c g, Ready env (sourceOf env i) a c g →
      ∃ s, (planOf c (chosenRules g a.rules).1 a).prepare env.here = .ok s ∧
        ((a.format = .rich → s.ReportsDrawable env.files env.now order) →
          Tells (runInvocation env i order) s env order a ∧
          ∀ i' a' order', EachOnce order' → i'.config = i.config → i'.command = .check a' → SameCheck a a' → Writable env a' →
            (a'.format = .rich → s.ReportsDrawable env.files env.now order) →
            (s.ReportsText env.files env.now order ∨ (NeedsText a' ↔ NeedsText a)) →
            (runInvocation env i' order').status.code = (runInvocation env i order).status.code)) ∧
    (Unready env (sourceOf env i) a →
      (runInvocation env i order).status.code = 3 ∧ (runInvocation env i order).output = "" ∧
        ∀ files order', sourceOf { env with files } i = sourceOf env i →
          (sourceOf env i).load { env with files } = (sourceOf env i).load env →
          runInvocation { env with files } i order' = { runInvocation env i order with files }) := by
  refine ⟨fun args hargs => by rw [run, hargs], ?_, ?_⟩
  · intro c g hready
    obtain ⟨s, log, hs, hprepare⟩ := hready.exists_scan
    refine ⟨s, hs, fun hroom => ?_⟩
    rw [runInvocation_of_check hcheck]
    have htells := tells_check h hprepare hready.output hroom
    refine ⟨htells, fun i' a' order' h' hconfig hcheck' hsame houtput hroom' hneeds => ?_⟩
    rw [runInvocation_of_check hcheck', sourceOf_same hcheck hcheck' hsame hconfig]
    have hready' : Ready env (sourceOf env i) a' c g :=
      ⟨hready.load, hready.rules, hsame.excluded ▸ hready.globs, houtput⟩
    obtain ⟨s', log', hs', hprepare'⟩ := hready'.exists_scan
    obtain ⟨workers, session, hplan⟩ := hsame.exists_planOf c (chosenRules g a.rules).1
    rw [hsame.rules, hplan, ScanPlan.prepare_workers, hs] at hs'
    obtain rfl := Except.ok.inj hs'
    have hdrawable := s.reports_same env.files env.now h h' workers session
      (fun r => ∀ i ∈ r.issues, isDrawable env.files r.root i = true) fun _ => Iff.rfl
    have htext := s.reports_same env.files env.now h h' workers session
      (fun r => r.isText = true) fun _ => Iff.rfl
    have htells' := tells_check h' hprepare' houtput fun hrich => hdrawable.2 (hroom' hrich)
    refine htells.code_eq htells' Iff.rfl (Scan.findsIssue_same h h' workers session) ?_
    rcases hneeds with hall | hneeds
    · exact iff_of_true (fun _ => htext.2 hall) fun _ => hall
    · exact imp_congr hneeds htext
  · intro hunready
    obtain ⟨e, log, hfailed, hother⟩ := hunready.check_eq order
    rw [runInvocation_of_check hcheck, hfailed]
    refine ⟨rfl, rfl, fun files order' hsource hload => ?_⟩
    rw [runInvocation_of_check hcheck, hsource, hother files order' hload]
    rfl

/-- A project that may not be opened. -/
def closedEnvironment : Environment where
  files := .directory [("p", .closed true)]
  here := ⟨"/"⟩
  now := default

/-- A check of the directory in it. -/
def plainCheck : CheckArguments := { path := some ⟨"p"⟩ }

/-- A check of the same directory by several workers, with a report in JSON that is also written to a file. -/
def fullCheck : CheckArguments :=
  { plainCheck with format := .json, session := some "s", output := some ⟨"r.json"⟩, jobs := some 4 }

/-- The scan of such a check with the built-in rules. -/
theorem scan_plainCheck {s : Scan}
    (h : (planOf {} (chosenRules Rules.registry plainCheck.rules).1 plainCheck).prepare ⟨"/"⟩ = .ok s) :
    s.walker = { root := ⟨"/p"⟩ } ∧ s.checker = .ofRegistry Rules.registry GoSource.parser ∧ s.root = ⟨"/p"⟩ := by
  have hroot : (⟨"/"⟩ : Path) / (⟨"p"⟩ : Path) = ⟨"/p"⟩ := by decide
  rw [← hroot, ← Except.ok.inj h]
  exact ⟨rfl, rfl, rfl⟩

/-- Its walk fails, with one worker and a report in lines as with four and a report in JSON that is also written to a file.
Where a glob is not valid, the check fails. -/
theorem run_status_closed : EachOnce List.range ∧
    (run closedEnvironment ["check", "p"]).status.code = 2 ∧
    (run closedEnvironment ["check", "p", "-f", "json", "--session", "s", "-j", "4", "-o", "r.json"]).status.code = 2 ∧
    (run closedEnvironment ["check", "p", "-e", "a***"]).status.code = 3 := by
  have hplain : Invocation.parse ["check", "p"] = .ok { command := .check plainCheck } := by decide
  have hjson : Invocation.parse ["check", "p", "-f", "json", "--session", "s", "-j", "4", "-o", "r.json"] =
      .ok { command := .check fullCheck } := by decide
  have hglob : Invocation.parse ["check", "p", "-e", "a***"] =
      .ok { command := .check { plainCheck with excluded := ["a***"] } } := by decide
  have hplainsource : sourceOf closedEnvironment { command := .check plainCheck } = .defaults := by cbv
  have hglobsource : sourceOf closedEnvironment { command := .check { plainCheck with excluded := ["a***"] } } = .defaults :=
    hplainsource
  have hload : ConfigSource.defaults.load closedEnvironment = .ok {} := rfl
  have hwrite : closedEnvironment.files.write (closedEnvironment.here / (⟨"r.json"⟩ : Path)) [] =
      .ok (closedEnvironment.files.put (.file []) ["r.json"]) := by cbv
  have hwalk : Walker.walk { root := ⟨"/p"⟩ } closedEnvironment.files = [.error ⟨⟨"/p"⟩, ⟨"/p"⟩, .denied⟩] := by cbv
  obtain ⟨hplainrun, hready, -⟩ := @run_status closedEnvironment _ _ { command := .check plainCheck } eachOnce_range rfl
  obtain ⟨hjsonrun, -⟩ := @run_status closedEnvironment _ _ { command := .check fullCheck } eachOnce_range rfl
  obtain ⟨hglobrun, -, hunready⟩ :=
    @run_status closedEnvironment _ _ { command := .check { plainCheck with excluded := ["a***"] } } eachOnce_range rfl
  rw [hplainsource] at hready
  rw [hglobsource] at hunready
  obtain ⟨s, hs, hends⟩ := hready {} Rules.registry ⟨hload, rfl, by simp [plainCheck], by simp [Writable, plainCheck]⟩
  obtain ⟨htells, hsame⟩ := hends fun hrich => absurd hrich (by decide)
  have hfails : s.WalkFails closedEnvironment.files :=
    ⟨_, (scan_plainCheck hs).1 ▸ hwalk ▸ List.mem_singleton_self _⟩
  have hplaincode := htells.noWalk.2 hfails
  have hwritable : Writable closedEnvironment fullCheck := fun path hpath => ⟨[], _, Option.some.inj hpath ▸ hwrite⟩
  have hjsoncode := hsame { command := .check fullCheck } fullCheck List.range eachOnce_range rfl rfl ⟨rfl, rfl, rfl⟩ hwritable
    (fun hrich => absurd hrich (by decide)) (Or.inl (Scan.reportsText_of_walkFails _ eachOnce_range hfails))
  have hinvalid : Glob.parse "a***" = .error ⟨3, .tooManyStars⟩ := by cbv
  have hglobcode := (hunready (.glob hload (List.mem_singleton_self _) hinvalid)).1
  rw [hplainrun _ hplain, hjsonrun _ hjson, hglobrun _ hglob]
  exact ⟨eachOnce_range, hplaincode, hjsoncode.trans hplaincode, hglobcode⟩

/-! ## Where the status depends on how the report is shown -/

/-- A project of one template of some blanks and a brace that closes nothing. -/
def lateProject (name : EntryName) (n : Nat) : Environment where
  files := .directory [("p", .directory [(name, .file (Text.utf8 (Template.lateBrace n)))])]
  here := ⟨"/"⟩
  now := default

/-- The plain check, with its report shown in a format and written to a file. -/
def plainCheckAs (format : OutputFormat) (output : Option Path) : CheckArguments :=
  { plainCheck with format, output }

variable {name : EntryName} {n : Nat} {s : Scan}

/-- Such a project can be checked, with its report written to no file or to one beside it. -/
theorem ready_lateProject (name : EntryName) (n : Nat) (format : OutputFormat) {output : Option Path}
    (houtput : output ∈ [none, some ⟨"r.json"⟩]) :
    Ready (lateProject name n) .defaults (plainCheckAs format output) {} Rules.registry := by
  have hwrite : ∀ bytes : List UInt8,
      (FileTree.directory [("p", .directory [(name, .file bytes)])]).write (⟨"/"⟩ / (⟨"r.json"⟩ : Path)) [] =
        .ok (.directory [("p", .directory [(name, .file bytes)]), ("r.json", .file [])]) := by
    intro bytes
    cbv
  refine ⟨rfl, rfl, by simp [plainCheckAs, plainCheck], fun path hpath => ?_⟩
  obtain rfl : output = some path := hpath
  obtain rfl : path = ⟨"r.json"⟩ := by simpa using houtput
  exact ⟨[], _, hwrite _⟩

/-- The check of such a project ends as its scan tells, if it need not draw its issues. -/
theorem tells_lateProject (name : EntryName) (n : Nat)
    (hs : (planOf {} (chosenRules Rules.registry plainCheck.rules).1 plainCheck).prepare ⟨"/"⟩ = .ok s)
    {format : OutputFormat} (hformat : format ≠ .rich) {output : Option Path} (houtput : output ∈ [none, some ⟨"r.json"⟩]) :
    Tells (check (lateProject name n) .defaults (plainCheckAs format output)) s (lateProject name n) List.range
      (plainCheckAs format output) := by
  have hready := ready_lateProject name n format houtput
  obtain ⟨s', log', hs', hprepare'⟩ := hready.exists_scan
  obtain rfl : s' = s := Except.ok.inj (hs'.symm.trans hs)
  exact tells_check eachOnce_range hprepare' hready.output fun hrich => absurd hrich hformat

/-- Where the walk comes by the template, its report has an issue at the place of the brace. -/
theorem exists_issue_lateProject
    (hs : (planOf {} (chosenRules Rules.registry plainCheck.rules).1 plainCheck).prepare ⟨"/"⟩ = .ok s)
    (hwalk : Walker.walk { root := ⟨"/p"⟩ } (lateProject name n).files = [⟨⟨"/p/" ++ name⟩, .templ⟩].map .ok)
    (hread : (lateProject name n).files.read ⟨"/p/" ++ name⟩ = .ok (Text.utf8 (Template.lateBrace n))) :
    ¬s.WalkFails (lateProject name n).files ∧
      ∃ r, s.run (lateProject name n).files default List.range = .ok r ∧ r.root = ⟨"/p"⟩ ∧
        ∃ i ∈ r.issues, i.location =
          (SourceFile.ofPath ⟨"/p/" ++ name⟩ (Template.lateBrace n) ⟨"/p"⟩ .templ).point 1 (1 + n) := by
  obtain ⟨hwalker, hchecker, hroot⟩ := scan_plainCheck hs
  have hrun := Scan.run_of_walk default eachOnce_range (hwalker ▸ hwalk)
  rw [List.map_singleton, hread] at hrun
  have houtcome : syntaxOutcome GoSource.parser .templ (Text.utf8 (Template.lateBrace n)) =
      .error (.outline (.unbalancedClosing ⟨1, 1 + n⟩)) := by
    rw [syntaxOutcome, Text.Utf8.decode?_eq_some_iff.2 rfl]
    show (Template.check _).mapError _ = _
    rw [Template.check_lateBrace]
    rfl
  have hrule : Rules.templSyntax ∈ (Checker.ofRegistry Rules.registry GoSource.parser).registry.rules := by
    rw [Checker.registry_ofRegistry]
    exact List.mem_cons_of_mem _ (List.mem_cons_self ..)
  obtain ⟨i, hcall, hid, hplace⟩ : ∃ i, .record i ∈ Rules.templSyntax.calls
        (.ofPath ⟨"/p/" ++ name⟩ (Template.lateBrace n) ⟨"/p"⟩ .templ) (.error (.outline (.unbalancedClosing ⟨1, 1 + n⟩))) ∧
      Rules.templSyntax.id = i.ruleId ∧ i.location =
        (SourceFile.ofPath ⟨"/p/" ++ name⟩ (Template.lateBrace n) ⟨"/p"⟩ .templ).point 1 (1 + n) :=
    ⟨_, List.mem_singleton_self _, rfl, rfl⟩
  refine ⟨Scan.not_walkFails (hwalker ▸ hwalk), _, hrun, hroot, i, ?_, hplace⟩
  rw [Scan.issues_reportOn, List.flatMap_singleton, Scan.issuesIn, hchecker, hroot]
  refine Checker.mem_issues_checkBytes.2 ⟨Rules.templSyntax, hrule, hid, ?_⟩
  have hparser : (Checker.ofRegistry Rules.registry GoSource.parser).parser = GoSource.parser := by rw [Checker.ofRegistry]
  rw [Text.Utf8.decodeLossy_utf8, hparser, houtcome]
  exact hcall

/-- The name of a template that is not UTF-8. -/
def rawName : EntryName := 0xff :: ".templ"

/-- The report on a template of that name has an issue, but no JSON text, as it tells the name. -/
theorem reports_raw (hs : (planOf {} (chosenRules Rules.registry plainCheck.rules).1 plainCheck).prepare ⟨"/"⟩ = .ok s) :
    ¬s.WalkFails (lateProject rawName 0).files ∧ s.FindsIssue (lateProject rawName 0).files default List.range ∧
      ¬s.ReportsText (lateProject rawName 0).files default List.range := by
  have hwalk : Walker.walk { root := ⟨"/p"⟩ } (lateProject rawName 0).files = [⟨⟨"/p/" ++ rawName⟩, .templ⟩].map .ok := by cbv
  have hread : (lateProject rawName 0).files.read ⟨"/p/" ++ rawName⟩ = .ok (Text.utf8 (Template.lateBrace 0)) := by cbv
  obtain ⟨hends, r, hrun, -, i, hi, hplace⟩ := exists_issue_lateProject hs hwalk hread
  refine ⟨hends, ⟨r, hrun, List.ne_nil_of_mem hi⟩, fun htext => ?_⟩
  have hrelative : (⟨"/p/" ++ rawName⟩ : Path).relativeTo ⟨"/p"⟩ = ⟨rawName⟩ := by decide
  have hraw : (⟨rawName⟩ : Path).isText = false := by cbv
  have hfile := (Report.isText_iff.1 (htext r hrun)).2.1 i hi
  rw [hplace, SourceFile.file_point, SourceFile.ofPath, hrelative, hraw] at hfile
  cases hfile

/-- The report on a template whose brace is too far to the right has an issue that cannot be drawn. -/
theorem reports_late (hs : (planOf {} (chosenRules Rules.registry plainCheck.rules).1 plainCheck).prepare ⟨"/"⟩ = .ok s)
    (hlate : Snippet.marginLimit < n) :
    ¬s.WalkFails (lateProject "a.templ" n).files ∧ s.FindsIssue (lateProject "a.templ" n).files default List.range ∧
      ¬s.ReportsDrawable (lateProject "a.templ" n).files default List.range := by
  have hwalk : ∀ bytes, Walker.walk { root := ⟨"/p"⟩ } (.directory [("p", .directory [("a.templ", .file bytes)])]) =
      [⟨⟨"/p/a.templ"⟩, .templ⟩].map .ok := by
    intro bytes
    cbv
  have hread : ∀ bytes, (FileTree.directory [("p", .directory [("a.templ", .file bytes)])]).read ⟨"/p/a.templ"⟩ = .ok bytes := by
    intro bytes
    cbv
  obtain ⟨hends, r, hrun, hroot, i, hi, hplace⟩ := exists_issue_lateProject hs (hwalk _) (hread _)
  refine ⟨hends, ⟨r, hrun, List.ne_nil_of_mem hi⟩, fun hdrawable => ?_⟩
  have hrelative : (⟨"/p/" ++ ("a.templ" : EntryName)⟩ : Path).relativeTo ⟨"/p"⟩ = ⟨"a.templ"⟩ := by decide
  have hfile : i.location.file = ⟨"a.templ"⟩ := by rw [hplace, SourceFile.file_point, SourceFile.ofPath, hrelative]
  have hpath : (⟨"/p"⟩ : Path) / (⟨"a.templ"⟩ : Path) = ⟨"/p/a.templ"⟩ := by decide
  have htext : (lateProject "a.templ" n).files.readText ⟨"/p/a.templ"⟩ = .ok (Template.lateBrace n) :=
    FileTree.readText_of_read (hread _) (Text.Utf8.decode?_eq_some_iff.2 rfl)
  have hdrawn := hdrawable r hrun i hi
  rw [isDrawable, hroot, hfile, hpath, htext] at hdrawn
  exact absurd ((Template.isDrawable_lateBrace_iff rfl hplace).1 hdrawn) (Nat.not_le_of_lt hlate)

/-- The project of `lateProject` with either template has no configuration of its own. -/
theorem sourceOf_lateProject (hname : name ∈ [rawName, "a.templ"]) (n : Nat) (format : OutputFormat) (output : Option Path) :
    sourceOf (lateProject name n) { command := .check (plainCheckAs format output) } = .defaults := by
  have hplain : ∀ bytes : List UInt8, ∀ name ∈ [rawName, ("a.templ" : EntryName)],
      sourceOf { files := .directory [("p", .directory [(name, .file bytes)])], here := ⟨"/"⟩, now := default }
        { command := .check plainCheck } = .defaults := by
    intro bytes
    rw [List.forall_mem_cons, List.forall_mem_singleton]
    constructor <;> cbv
  rw [← hplain _ name hname]
  exact @sourceOf_same _ plainCheck { command := .check plainCheck } _ _ rfl rfl ⟨rfl, rfl, rfl⟩ rfl

/-- The status of a check need not be the same in all formats, although the walk ends and the report has an issue. If the report
has a path that is not UTF-8, the status is 1 where it is shown in lines, and 3 where it is to be JSON, be it shown or written to
a file. If an issue is too far to the right, the status is 1 where the report is shown in lines, and 101 where it is drawn. -/
theorem status_not_same : ∃ s,
    (planOf {} (chosenRules Rules.registry plainCheck.rules).1 plainCheck).prepare ⟨"/"⟩ = .ok s ∧
    (∀ name ∈ [rawName, "a.templ"], ∀ n format, ∀ output ∈ [none, some ⟨"r.json"⟩], Ready (lateProject name n)
      (sourceOf (lateProject name n) { command := .check (plainCheckAs format output) }) (plainCheckAs format output) {}
      Rules.registry) ∧
    (¬s.WalkFails (lateProject rawName 0).files ∧ s.FindsIssue (lateProject rawName 0).files default List.range ∧
      (run (lateProject rawName 0) ["check", "p"]).status.code = 1 ∧
      (run (lateProject rawName 0) ["check", "p", "--format", "json"]).status.code = 3 ∧
      (run (lateProject rawName 0) ["check", "p", "--output", "r.json"]).status.code = 3) ∧
    ¬s.WalkFails (lateProject "a.templ" 70000).files ∧ s.FindsIssue (lateProject "a.templ" 70000).files default List.range ∧
      (run (lateProject "a.templ" 70000) ["check", "p"]).status.code = 1 ∧
      (run (lateProject "a.templ" 70000) ["check", "p", "--format", "rich"]).status.code = 101 := by
  have hready : ∀ name ∈ [rawName, ("a.templ" : EntryName)], ∀ n format, ∀ output ∈ [none, some ⟨"r.json"⟩],
      Ready (lateProject name n) (sourceOf (lateProject name n) { command := .check (plainCheckAs format output) })
        (plainCheckAs format output) {} Rules.registry := by
    intro name hname n format output houtput
    rw [sourceOf_lateProject hname]
    exact ready_lateProject name n format houtput
  obtain ⟨s, log, hs, -⟩ := (ready_lateProject rawName 0 .text (List.mem_cons_self ..)).exists_scan
  obtain ⟨hends, hfinds, htext⟩ := reports_raw hs
  obtain ⟨hlateends, hlatefinds, hdrawable⟩ := @reports_late 70000 s hs (by decide)
  have hplain : Invocation.parse ["check", "p"] = .ok { command := .check (plainCheckAs .text none) } := by decide
  have hjson : Invocation.parse ["check", "p", "--format", "json"] =
      .ok { command := .check (plainCheckAs .json none) } := by decide
  have houtput : Invocation.parse ["check", "p", "--output", "r.json"] =
      .ok { command := .check (plainCheckAs .text (some ⟨"r.json"⟩)) } := by decide
  have hrich : Invocation.parse ["check", "p", "--format", "rich"] =
      .ok { command := .check (plainCheckAs .rich none) } := by decide
  refine ⟨s, hs, hready, ⟨hends, hfinds, ?_, ?_, ?_⟩, hlateends, hlatefinds, ?_, ?_⟩
  · rw [run_of_parse hplain rfl, sourceOf_lateProject (by simp)]
    have htells := @tells_lateProject s rawName 0 hs .text (by decide) none (by decide)
    exact htells.issues.2 ⟨hends, hfinds, fun hneeds => absurd hneeds (by decide)⟩
  · rw [run_of_parse hjson rfl, sourceOf_lateProject (by simp)]
    have htells := @tells_lateProject s rawName 0 hs .json (by decide) none (by decide)
    exact htells.failure.2 ⟨by decide, htext⟩
  · rw [run_of_parse houtput rfl, sourceOf_lateProject (by simp)]
    have htells := @tells_lateProject s rawName 0 hs .text (by decide) (some ⟨"r.json"⟩) (by decide)
    exact htells.failure.2 ⟨by decide, htext⟩
  · rw [run_of_parse hplain rfl, sourceOf_lateProject (by simp)]
    have htells := @tells_lateProject s "a.templ" 70000 hs .text (by decide) none (by decide)
    exact htells.issues.2 ⟨hlateends, hlatefinds, fun hneeds => absurd hneeds (by decide)⟩
  · rw [run_of_parse hrich rfl, sourceOf_lateProject (by simp)]
    obtain ⟨s', log', hs', hprepare'⟩ := (ready_lateProject "a.templ" 70000 .rich (List.mem_cons_self ..)).exists_scan
    obtain rfl : s' = s := Except.ok.inj (hs'.symm.trans hs)
    exact congrArg ExitStatus.code ((status_check_eq_brokenOff_iff hprepare').2 ⟨rfl, hdrawable⟩)

end CommandLine

end ComponentAudit
