import ComponentAudit.Proofs.Ordering
import ComponentAudit.Proofs.Resolving

/-!
# What the identifier of an issue tells

The identifier of an issue is made of the identifier of its rule, the path of its file and the line, with colons between them.
The line can always be read back. Rule and file cannot where the identifier of another rule goes on, behind a colon, with what the
path starts with (`Issue.ReadsAs`): nothing keeps colons out of either of them. Without such rules and files, the identifiers of
issues in files with UTF-8 paths tell all three (`Registry.identifiers_determine`), and those in a report differ, unless files that
are not UTF-8 are shown alike (`ScanPlan.nodup_identifiers_iff`).
-/

namespace ComponentAudit

open Collector Text FileTree

/-! ## Texts with colons between them -/

/-- Two texts with a colon between them are two others, or the first of them goes on behind a colon into the second. -/
theorem append_colon_eq_iff {s t u v : List Char} : s ++ ':' :: u = t ++ ':' :: v ↔
    (s = t ∧ u = v) ∨ (∃ x, t = s ++ ':' :: x ∧ u = x ++ ':' :: v) ∨ ∃ x, s = t ++ ':' :: x ∧ v = x ++ ':' :: u := by
  constructor
  · intro h
    -- What the longer of the two first texts has more is nothing, or it starts with the colon.
    rcases List.append_eq_append_iff.1 h with ⟨between, rfl, hu⟩ | ⟨between, rfl, hv⟩
    · cases between with
      | nil => exact Or.inl ⟨(List.append_nil s).symm, (List.cons.inj hu).2⟩
      | cons c x =>
        obtain ⟨rfl, rfl⟩ := List.cons.inj hu
        exact Or.inr (Or.inl ⟨x, rfl, rfl⟩)
    · cases between with
      | nil => exact Or.inl ⟨List.append_nil t, (List.cons.inj hv).2.symm⟩
      | cons c x =>
        obtain ⟨rfl, rfl⟩ := List.cons.inj hv
        exact Or.inr (Or.inr ⟨x, rfl, rfl⟩)
  · rintro (⟨rfl, rfl⟩ | ⟨x, rfl, rfl⟩ | ⟨x, rfl, rfl⟩)
    · rfl
    · rw [List.append_assoc, List.cons_append]
    · rw [List.append_assoc, List.cons_append]

theorem colon_not_mem_toString (n : Nat) : ':' ∉ (toString n).toList := by
  intro hcolon
  have hdigit : ':'.isDigit = true := Nat.isDigit_of_mem_toDigits (by decide) (Nat.le_refl 10) (Nat.toList_repr ▸ hcolon)
  cases hdigit

/-- A number behind the last colon can be read back. -/
theorem append_colon_toString_eq_iff {s t : List Char} {m n : Nat} :
    s ++ ':' :: (toString m).toList = t ++ ':' :: (toString n).toList ↔ s = t ∧ m = n := by
  rw [append_colon_eq_iff]
  constructor
  · rintro (⟨rfl, hnumber⟩ | ⟨x, -, hnumber⟩ | ⟨x, -, hnumber⟩)
    · exact ⟨rfl, Nat.repr_inj.1 (String.toList_inj.1 hnumber)⟩
    · exact absurd (hnumber ▸ List.mem_append_right x (List.mem_cons_self ..)) (colon_not_mem_toString m)
    · exact absurd (hnumber ▸ List.mem_append_right x (List.mem_cons_self ..)) (colon_not_mem_toString n)
  · rintro ⟨rfl, rfl⟩
    exact Or.inl ⟨rfl, rfl⟩

/-! ## Identifiers -/

namespace Issue

/-- A rule and a file that read as another rule and another file: the identifier of the other rule goes on, behind a colon, with
what stands in the path before the path of the other file. -/
def ReadsAs (id : String) (file : Path) (id' : String) (file' : Path) : Prop :=
  ∃ x : String, id' = id ++ ":" ++ x ∧ file.text = x ++ ":" ++ file'.text

theorem readsAs_iff {id id' : String} {file file' : Path} : ReadsAs id file id' file' ↔
    ∃ x, id'.toList = id.toList ++ ':' :: x ∧ file.text.toList = x ++ ':' :: file'.text.toList := by
  have hcolon : ":".toList = [':'] := rfl
  simp only [ReadsAs, ← String.toList_inj, String.toList_append, hcolon, List.append_assoc, List.singleton_append]
  constructor
  · rintro ⟨x, h⟩
    exact ⟨x.toList, h⟩
  · rintro ⟨x, h⟩
    refine ⟨String.ofList x, ?_⟩
    rwa [String.toList_ofList]

/-- Two rules and two files that make the same identifiers: the one read as the other, or the rules are the same and the files are
not, but are shown alike. -/
def MistakenFor (id : String) (file : Path) (id' : String) (file' : Path) : Prop :=
  ReadsAs id file id' file' ∨ id = id' ∧ file ≠ file' ∧ file.text = file'.text

/-- A rule does not read as itself. -/
theorem ReadsAs.ne {id id' : String} {file file' : Path} (h : ReadsAs id file id' file') : id ≠ id' := by
  rintro rfl
  obtain ⟨x, hid, -⟩ := readsAs_iff.1 h
  have hlength := congrArg List.length hid
  rw [List.length_append, List.length_cons] at hlength
  omega

/-- Nothing reads as something else without a colon in the identifier of a rule and in the path of a file. -/
theorem ReadsAs.colons {id id' : String} {file file' : Path} (h : ReadsAs id file id' file') :
    ':' ∈ id'.toList ∧ ':' ∈ file.text.toList := by
  obtain ⟨x, hid, hfile⟩ := readsAs_iff.1 h
  rw [hid, hfile]
  exact ⟨List.mem_append_right _ (List.mem_cons_self ..), List.mem_append_right _ (List.mem_cons_self ..)⟩

theorem toList_identifier (id : String) (l : Location) :
    (identifier id l).toList = (id.toList ++ ':' :: l.file.text.toList) ++ ':' :: (toString l.line).toList := by
  have hcolon : ":".toList = [':'] := rfl
  have hself : ∀ s : String, toString s = s := fun _ => rfl
  simp only [identifier, hself, String.toList_append, hcolon, List.append_assoc, List.nil_append, List.cons_append]

/-- Identifiers are equal exactly if the lines are, and rules and files as they are shown are too, or those of the one read as those
of the other. -/
theorem identifier_eq_iff {id id' : String} {l l' : Location} : identifier id l = identifier id' l' ↔
    l.line = l'.line ∧
      ((id = id' ∧ l.file.text = l'.file.text) ∨ ReadsAs id l.file id' l'.file ∨ ReadsAs id' l'.file id l.file) := by
  rw [← String.toList_inj, toList_identifier, toList_identifier, append_colon_toString_eq_iff, append_colon_eq_iff,
    String.toList_inj, String.toList_inj, readsAs_iff, readsAs_iff, and_comm]

/-- An issue as it is made for a rule of a registry and a place in one of some files. -/
def MadeFrom (i : Issue) (g : Registry) (files : List Path) : Prop :=
  ∃ r ∈ g.rules, ∃ (severity : Severity) (l : Location) (message matched : String) (fix : Option String),
    l.file ∈ files ∧ i = ofRule r.id severity l message matched fix

end Issue

/-- The identifiers of the issues of a registry in some files, whose paths are UTF-8, tell rule, file and line exactly if no rule
and file read as others; and nothing reads as something else where no rule has a colon in its identifier, or no file in its
path. -/
theorem Registry.identifiers_determine (g : Registry) {files : List Path} (hfiles : ∀ f ∈ files, f.isText = true) :
    ((∀ i j : Issue, i.MadeFrom g files → j.MadeFrom g files → i.id = j.id →
        i.ruleId = j.ruleId ∧ i.location.file = j.location.file ∧ i.location.line = j.location.line) ↔
      ¬∃ r ∈ g.rules, ∃ r' ∈ g.rules, ∃ f ∈ files, ∃ f' ∈ files, Issue.ReadsAs r.id f r'.id f') ∧
    ((∀ r ∈ g.rules, ':' ∉ r.id.toList) ∨ (∀ f ∈ files, ':' ∉ f.text.toList) →
      ∀ i j : Issue, i.MadeFrom g files → j.MadeFrom g files → i.id = j.id →
        i.ruleId = j.ruleId ∧ i.location.file = j.location.file ∧ i.location.line = j.location.line) := by
  have determined (hnone : ¬∃ r ∈ g.rules, ∃ r' ∈ g.rules, ∃ f ∈ files, ∃ f' ∈ files, Issue.ReadsAs r.id f r'.id f')
      (i j : Issue) (hi : i.MadeFrom g files) (hj : j.MadeFrom g files) (hid : i.id = j.id) :
      i.ruleId = j.ruleId ∧ i.location.file = j.location.file ∧ i.location.line = j.location.line := by
    obtain ⟨r, hr, _, l, _, _, _, hl, rfl⟩ := hi
    obtain ⟨r', hr', _, l', _, _, _, hl', rfl⟩ := hj
    obtain ⟨hline, ⟨hrule, hfile⟩ | hreads | hreads⟩ := Issue.identifier_eq_iff.1 hid
    · exact ⟨hrule, Path.text_inj (hfiles _ hl) (hfiles _ hl') hfile, hline⟩
    · exact absurd ⟨r, hr, r', hr', l.file, hl, l'.file, hl', hreads⟩ hnone
    · exact absurd ⟨r', hr', r, hr, l'.file, hl', l.file, hl, hreads⟩ hnone
  refine ⟨⟨?_, determined⟩, fun hcolon => determined ?_⟩
  · rintro hdetermined ⟨r, hr, r', hr', f, hf, f', hf', hreads⟩
    -- Any line will do for the two issues.
    let l : Location := { file := f, line := 1, column := 1 }
    let l' : Location := { file := f', line := 1, column := 1 }
    have hsame : Issue.identifier r.id l = Issue.identifier r'.id l' :=
      Issue.identifier_eq_iff.2 ⟨rfl, Or.inr (Or.inl hreads)⟩
    exact hreads.ne (hdetermined (.ofRule r.id .error l "") (.ofRule r'.id .error l' "")
      ⟨r, hr, _, l, _, _, _, hf, rfl⟩ ⟨r', hr', _, l', _, _, _, hf', rfl⟩ hsame).1
  · rintro ⟨r, hr, r', hr', f, hf, f', hf', hreads⟩
    rcases hcolon with hrules | hfiles
    · exact hrules r' hr' hreads.colons.1
    · exact hfiles f hf hreads.colons.2

/-- With the built-in rules, the identifiers tell all three even of files with colons in their paths. -/
theorem Registry.identifiers_determine_builtin :
    (∀ f ∈ ([⟨"b:c.go"⟩, ⟨"c.go"⟩] : List Path), f.isText = true) ∧
    ∀ i j : Issue, i.MadeFrom Rules.registry [⟨"b:c.go"⟩, ⟨"c.go"⟩] → j.MadeFrom Rules.registry [⟨"b:c.go"⟩, ⟨"c.go"⟩] →
      i.id = j.id → i.ruleId = j.ruleId ∧ i.location.file = j.location.file ∧ i.location.line = j.location.line := by
  have htext : ∀ f ∈ ([⟨"b:c.go"⟩, ⟨"c.go"⟩] : List Path), f.isText = true := by
    simp only [List.forall_mem_cons]
    exact ⟨Path.isText_mk _, Path.isText_mk _, nofun⟩
  exact ⟨htext, (Rules.registry.identifiers_determine htext).2 (Or.inl (by decide))⟩

/-! ## Reports -/

/-- The identifier of an issue that a rule records follows from rule, file and line. -/
theorem Rule.id_of_mem_calls {r : Rule} {f : SourceFile} {outcome : Except SyntaxFailure Unit} {i : Issue}
    (h : .record i ∈ r.calls f outcome) : i.id = Issue.identifier i.ruleId i.location := by
  rcases of_mem_calls h with ⟨-, hcall⟩ | ⟨-, hcall⟩ | ⟨m, -, -, hcall⟩
  · cases outcome with
    | ok u => cases hcall
    | error failure =>
      cases hcall
      rfl
  · cases outcome with
    | ok u => cases hcall
    | error failure => cases hcall
  · obtain ⟨offset, text, found, fix, rfl⟩ := Matcher.exists_issue_of_mem_calls hcall
    rfl

theorem Checker.id_of_mem_checkBytes {c : Checker} {root path : Path} {kind : FileKind} {bytes : List UInt8} {i : Issue}
    (h : i ∈ (c.checkBytes root path kind bytes).issues) : i.id = Issue.identifier i.ruleId i.location := by
  obtain ⟨r, -, -, hcall⟩ := mem_issues_checkBytes.1 h
  exact Rule.id_of_mem_calls hcall

/-- The identifiers of issues that ascend by their ranks differ exactly if there are no two in lines of one number of which rule
and file of the one are mistaken for those of the other. -/
theorem Registry.nodup_identifiers_iff (g : Registry) {issues : List Issue}
    (hid : ∀ i ∈ issues, i.id = Issue.identifier i.ruleId i.location)
    (hascending : issues.Pairwise fun i j => g.rank i < g.rank j) :
    (issues.map (·.id)).Nodup ↔ ¬∃ i ∈ issues, ∃ j ∈ issues, i.location.line = j.location.line ∧
      Issue.MistakenFor i.ruleId i.location.file j.ruleId j.location.file := by
  have same {i j : Issue} (hi : i ∈ issues) (hj : j ∈ issues) : i.id = j.id ↔ i.location.line = j.location.line ∧
      ((i.ruleId = j.ruleId ∧ i.location.file.text = j.location.file.text) ∨
        Issue.ReadsAs i.ruleId i.location.file j.ruleId j.location.file ∨
        Issue.ReadsAs j.ruleId j.location.file i.ruleId i.location.file) := by
    rw [hid i hi, hid j hj]
    exact Issue.identifier_eq_iff
  constructor
  · rintro hnodup ⟨i, hi, j, hj, hline, hreads | ⟨hrule, hfile, htext⟩⟩
    · obtain rfl := List.inj_on_of_nodup_map hnodup hi hj ((same hi hj).2 ⟨hline, Or.inr (Or.inl hreads)⟩)
      exact hreads.ne rfl
    · obtain rfl := List.inj_on_of_nodup_map hnodup hi hj ((same hi hj).2 ⟨hline, Or.inl ⟨hrule, htext⟩⟩)
      exact hfile rfl
  · intro hnone
    rw [List.Nodup, List.pairwise_map]
    refine hascending.imp_of_mem fun {i j} hi hj hlt hsame => ?_
    obtain ⟨hline, ⟨hrule, htext⟩ | hreads | hreads⟩ := (same hi hj).1 hsame
    · by_cases hfile : i.location.file = j.location.file
      · have hrank : g.rank i = g.rank j := by rw [rank, rank, hrule, hfile, hline]
        exact g.not_rank_lt j (hrank ▸ hlt)
      · exact hnone ⟨i, hi, j, hj, hline, Or.inr ⟨hrule, hfile, htext⟩⟩
    · exact hnone ⟨i, hi, j, hj, hline, Or.inl hreads⟩
    · exact hnone ⟨j, hj, i, hi, hline.symm, Or.inl hreads⟩

namespace ScanPlan

/-- The identifiers in a report differ exactly if there are no two issues in lines of one number of which rule and file of the
one are mistaken for those of the other. -/
theorem nodup_identifiers_iff (p : ScanPlan) {here : Path} {files : FileTree} {now : Timestamp} {order : Nat → List Nat}
    {r : Report} (h : EachOnce order) (hfiles : files.Named) (hr : p.report here files now order = .ok r) :
    (r.issues.map (·.id)).Nodup ↔ ¬∃ i ∈ r.issues, ∃ j ∈ r.issues, i.location.line = j.location.line ∧
      Issue.MistakenFor i.ruleId i.location.file j.ruleId j.location.file := by
  obtain ⟨s, candidates, hprepare, hwalk, rfl⟩ := reportOn_of_report h hr
  obtain ⟨hroot, hwalker, -⟩ := of_prepare hprepare
  have hvisited := s.walker.pairwise_visited hfiles
  rw [hwalk, List.pairwise_map, hwalker, ← hroot] at hvisited
  refine s.registry.nodup_identifiers_iff (fun i hi => ?_) (Scan.pairwise_issues (List.pairwise_map.2 hvisited))
  obtain ⟨c, -, bytes, -, hissue, -⟩ := Scan.exists_candidate_of_mem_issues hi
  exact Checker.id_of_mem_checkBytes hissue

/-- Two files of which the one's name is that of the other behind a colon. -/
def colonTree : FileTree :=
  .directory [("d", .directory [("b:c.go", .file [0x7d]), ("c.go", .file [0x7d])])]

/-- Two rules of which the identifier of the one goes on with that of the other. -/
def colonRegistry : Registry :=
  ⟨[{ Rules.goSyntax with id := "a" }, { Rules.goSyntax with id := "a:b" }], by decide⟩

/-- A scan of the two files with the two rules, and a parser that takes no source file. -/
def colonPlan : ScanPlan :=
  { root := some ⟨"d"⟩, registry := colonRegistry, parser := .refuseAll ⟨1, 1, "no"⟩ }

/-- An issue of the one rule in the one file and one of the other rule in the other file have the same identifier. -/
theorem report_sharedIdentifier : colonTree.Named ∧ Registry.ofRules colonRegistry.rules = .ok colonRegistry ∧
    ∃ r, colonPlan.report ⟨"/"⟩ colonTree default = .ok r ∧ ∃ i ∈ r.issues, ∃ j ∈ r.issues,
      i.id = "a:b:c.go:1" ∧ j.id = i.id ∧ i.ruleId = "a" ∧ i.location.file = ⟨"b:c.go"⟩ ∧
      j.ruleId = "a:b" ∧ j.location.file = ⟨"c.go"⟩ := by
  have hnamed : colonTree.Named := by
    refine .directory (by decide) (by decide) (List.forall_mem_singleton.2 (.directory (by decide) (by decide) ?_))
    simp only [List.forall_mem_cons]
    exact ⟨.file _, .file _, nofun⟩
  refine ⟨hnamed, Registry.ofRules_eq_ok_iff.2 rfl, ?_⟩
  obtain ⟨s, hprepare, hwalker⟩ : ∃ s, colonPlan.prepare ⟨"/"⟩ = .ok s ∧
      s.walker = { root := colonPlan.absoluteRoot ⟨"/"⟩ } := ⟨_, rfl, rfl⟩
  obtain ⟨hroot, -, hchecker⟩ := of_prepare hprepare
  have hplace : colonPlan.absoluteRoot ⟨"/"⟩ = ⟨"/d"⟩ := by decide
  rw [hplace] at hroot hwalker
  have hwalk : s.walker.walk colonTree = [⟨⟨"/d/b:c.go"⟩, .go⟩, ⟨⟨"/d/c.go"⟩, .go⟩].map .ok := by
    rw [hwalker]
    cbv
  have hread : colonTree.read ⟨"/d/b:c.go"⟩ = .ok [0x7d] ∧ colonTree.read ⟨"/d/c.go"⟩ = .ok [0x7d] := by
    constructor <;> cbv
  refine ⟨_, report_of_walk default eachOnce_range hprepare hwalk, ?_⟩
  rw [List.map_cons, List.map_singleton, hread.1, hread.2, Scan.issues_reportOn, List.flatMap_cons, List.flatMap_singleton]
  simp only [Scan.issuesIn, hroot, hchecker, List.mem_append]
  have hfirst : ((Checker.ofRegistry colonPlan.registry colonPlan.parser).checkBytes ⟨"/d"⟩ ⟨"/d/b:c.go"⟩ .go
      [0x7d]).issues.map (fun i => (i.id, i.ruleId, i.location.file)) =
        [("a:b:c.go:1", "a", ⟨"b:c.go"⟩), ("a:b:b:c.go:1", "a:b", ⟨"b:c.go"⟩)] := by
    cbv
  have hsecond : ((Checker.ofRegistry colonPlan.registry colonPlan.parser).checkBytes ⟨"/d"⟩ ⟨"/d/c.go"⟩ .go
      [0x7d]).issues.map (fun i => (i.id, i.ruleId, i.location.file)) =
        [("a:c.go:1", "a", ⟨"c.go"⟩), ("a:b:c.go:1", "a:b", ⟨"c.go"⟩)] := by
    cbv
  obtain ⟨i, hi, hfound⟩ := List.mem_map.1 (hfirst ▸ List.mem_cons_self ..)
  obtain ⟨j, hj, hfound'⟩ := List.mem_map.1 (hsecond ▸ List.mem_cons_of_mem _ (List.mem_cons_self ..))
  obtain ⟨hid, hrule, hfile⟩ : i.id = "a:b:c.go:1" ∧ i.ruleId = "a" ∧ i.location.file = ⟨"b:c.go"⟩ := by
    simpa using hfound
  obtain ⟨hid', hrule', hfile'⟩ : j.id = "a:b:c.go:1" ∧ j.ruleId = "a:b" ∧ j.location.file = ⟨"c.go"⟩ := by
    simpa using hfound'
  exact ⟨i, Or.inl hi, j, Or.inr hj, hid, hid'.trans hid.symm, hrule, hfile, hrule', hfile'⟩

end ScanPlan

end ComponentAudit
