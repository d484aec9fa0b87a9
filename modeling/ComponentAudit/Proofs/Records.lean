import ComponentAudit.CommandLine.Presentation
import ComponentAudit.Proofs.Paths
import ComponentAudit.Proofs.Printing

/-!
# Reports are read as they are written

Each part of a report is read back from its record: counts, issues with their place among their own fields, rules with their
kind among theirs (`Issue.readPlace_of_toValue`, `Rule.readKind_of_toValue`). So is a report whose point in time is one of the
calendar and whose paths are UTF-8, and a report that was read is such a report, however its value was written
(`Report.round_trip`). The names of a record are those of a fixed list without some of the fields that may be left out, so none
stands twice in it, and the JSON text of the record is the text of nothing else.
-/

namespace ComponentAudit

open Data

namespace InvalidRule

theorem read_toValue (r : InvalidRule) : read r.toValue = .ok r := by
  rw [toValue, read, Value.asFields_record]
  · rfl
  · simp [Value.passes_cons, Value.passes_nil, List.lookup_cons]

theorem plain_toValue (r : InvalidRule) : r.toValue.Plain :=
  .record (by simp) (by simp [Value.Plain.text])

end InvalidRule

namespace Summary

theorem read_toValue (s : Summary) : read s.toValue = .ok s := by
  rw [toValue, read, Value.asFields_record]
  · simp [ok_bind, Value.need_eq, List.lookup_cons]
  · simp [Value.passes_cons, Value.passes_nil, names, List.lookup_cons]

theorem plain_toValue (s : Summary) : s.toValue.Plain :=
  .record (by simp) (by simp [Value.Plain.int])

end Summary

/-! ## Issues -/

namespace Issue

theorem readSeverity_name (s : Severity) : readSeverity (.text s.name) = .ok s := by
  cases s <;> rfl

/-- The place of an issue is read from the fields of the issue. -/
theorem readPlace_of_toValue {i : Issue} {fields : List (String × Value)} (hfile : i.location.file.isText = true)
    (h : i.toValue = .record fields) : readPlace fields = .ok i.location := by
  cases h
  rw [readPlace, Value.asFields_record]
  · simp [ok_bind, Value.need_eq, Value.orElse_eq, List.lookup_cons, Path.mk_text hfile]
  · simp [Value.passes_cons, Value.passes_optionalField, placeChecks, List.lookup_cons]

theorem read_toValue {i : Issue} (hfile : i.location.file.isText = true) : read i.toValue = .ok i := by
  have hplace := readPlace_of_toValue hfile rfl
  have hseverity := readSeverity_name i.severity
  rw [toValue, read, Value.asFields_record]
  · simp only [ok_bind, hplace]
    simp [ok_bind, Value.need_eq, Value.orElse_eq, List.lookup_cons, lookup_optionalField, hseverity]
  · simp [Value.passes_cons, Value.passes_optionalField, checks, List.lookup_cons, Value.check_of_read hseverity]

theorem plain_toValue (i : Issue) : i.toValue.Plain := by
  have hnames : (["id", "rule_id", "file", "line", "column", "offset", "length", "matched_text", "severity", "message"] ++
      ["suggested_fix"]).Nodup := by decide
  refine .record_of_sublist ?_ hnames ?_
  · rw [namesOf, List.map_append]
    exact (List.Sublist.refl _).append (names_optionalField ..)
  · simp only [List.forall_mem_append, forall_mem_optionalField]
    refine ⟨?_, ?_⟩
    · simp [Value.Plain.text, Value.Plain.int]
    · simp [Value.Plain.text]

end Issue

/-! ## Rules -/

namespace RuleKind

/-- The fields of a kind have names that no other field of a rule has. -/
theorem names_fields (k : RuleKind) : (namesOf k.fields).Sublist ["kind", "pattern", "declaration"] := by
  cases k <;> simp [fields]

theorem plain_fields (k : RuleKind) : ∀ field ∈ k.fields, field.2.Plain := by
  cases k <;> simp [fields, Value.Plain.text]

theorem lookup_fields_eq_none {k : RuleKind} {key : String} (h : key ∉ ["kind", "pattern", "declaration"]) :
    k.fields.lookup key = none := by
  refine List.lookup_eq_none_iff.2 fun field hfield => bne_iff_ne.2 fun heq => h ?_
  rw [heq]
  exact (names_fields k).subset (List.mem_map_of_mem hfield)

end RuleKind

namespace Rule

theorem readFileKind_name (format : Format) (k : FileKind) : readFileKind format (.text k.name) = .ok k := by
  cases format <;> cases k <;> rfl

/-- The kind of a rule is read from the fields of the rule. -/
theorem readKind_of_toValue (format : Format) {r : Rule} {fields : List (String × Value)}
    (h : r.toValue = .record fields) : RuleKind.read format fields = .ok r.kind := by
  obtain ⟨id, name, description, kind, required, fileKinds, message, suggestedFix⟩ := r
  cases h
  cases kind with
  | syntaxCheck | compilation =>
    simp [ok_bind, Value.need_eq, List.lookup_cons, RuleKind.read, RuleKind.fields, RuleKind.readName, RuleKind.name,
      RuleKind.names, Value.asName]
    rfl
  | pattern regex =>
    simp [ok_bind, Value.need_eq, List.lookup_cons, RuleKind.read, RuleKind.fields, RuleKind.readName, RuleKind.name,
      RuleKind.names, Value.asName]
  | importRequirement regex declaration =>
    rw [RuleKind.read, Value.asFields_record]
    · simp [ok_bind, Value.need_eq, List.lookup_cons, RuleKind.fields, RuleKind.readName, RuleKind.name, RuleKind.names,
        Value.asName]
    · simp [Value.passes_cons, Value.passes_optionalField, List.lookup_cons, RuleKind.fields]

theorem read_toValue (format : Format) (r : Rule) : read format r.toValue = .ok r := by
  have hkind := readKind_of_toValue format (r := r) rfl
  have hfileKinds := Value.asList_map (l := r.fileKinds) fun k _ => readFileKind_name format k
  have hunknown : Value.Passes (checks format) r.kind.fields := by
    have hkeys : ∀ key ∈ ["kind", "pattern", "declaration"], (checks format).lookup key = none := by
      simp [checks, List.lookup_cons]
    exact Value.passes_of_unknown fun key hkey => hkeys key ((RuleKind.names_fields r.kind).subset hkey)
  rw [toValue, read, Value.asFields_record]
  · simp only [ok_bind, hkind]
    simp [ok_bind, Value.need_eq, Value.orElse_eq, List.lookup_cons, List.lookup_append, lookup_optionalField,
      RuleKind.lookup_fields_eq_none, hfileKinds, Except.mapError]
  · simp only [List.append_assoc, Value.passes_append]
    refine ⟨?_, hunknown, ?_⟩
    · simp [Value.passes_cons, Value.passes_nil, checks, List.lookup_cons]
    · simp [Value.passes_cons, Value.passes_nil, Value.passes_optionalField, checks, List.lookup_cons,
        Value.check_of_read hfileKinds]

theorem plain_toValue (r : Rule) : r.toValue.Plain := by
  have hnames : (["id", "name", "description"] ++ ["kind", "pattern", "declaration"] ++
      ["required", "file_kinds", "message"] ++ ["suggested_fix"]).Nodup := by decide
  have hfileKinds := Value.Plain.list_map (fun k : FileKind => .text k.name) r.fileKinds
  refine .record_of_sublist ?_ hnames ?_
  · simp only [namesOf, List.map_append]
    exact (((List.Sublist.refl _).append (RuleKind.names_fields r.kind)).append (List.Sublist.refl _)).append
      (names_optionalField ..)
  · simp only [List.forall_mem_append, forall_mem_optionalField]
    refine ⟨⟨⟨?_, RuleKind.plain_fields r.kind⟩, ?_⟩, ?_⟩
    · simp [Value.Plain.text]
    · simp [Value.Plain.text, Value.Plain.bool, hfileKinds]
    · simp [Value.Plain.text]

end Rule

/-! ## Reports -/

namespace Report

/-- A list that is left out where it is empty, as a field that may be left out. -/
theorem listField_eq (name : String) (items : List Value) :
    listField name items = optionalField name (if items = [] then none else some (.list items)) := by
  cases items <;> rfl

/-- A list is read back from the field that holds it unless it is empty. -/
theorem elim_asList {α : Type} {encode : α → Value} {read : Value → Except ReadError α} {l : List α}
    (h : ∀ a ∈ l, read (encode a) = .ok a) :
    (if l = [] then none else some (Value.list (l.map encode))).elim (.ok []) (Value.asList read) = .ok l := by
  split
  · rename_i hempty
    rw [hempty]
    rfl
  · exact Value.asList_map h

theorem read_toValue {r : Report} (h : r.timestamp.Valid) (htext : r.isText = true) : read r.toValue = .ok r := by
  obtain ⟨hroot, hfiles, hpaths⟩ := isText_iff.1 htext
  have htimestamp : readTimestamp (.text r.timestamp.text) = .ok r.timestamp := by
    rw [readTimestamp, Timestamp.parse_text h]
    rfl
  have hissues := Value.asList_map fun i hi => Issue.read_toValue (hfiles i hi)
  have hsummary := r.summary.read_toValue
  have hrules := Value.asList_map (l := r.rules) fun rule _ => Rule.read_toValue .json rule
  have hids (ids : List String) := Value.asList_map (l := ids) fun id _ => Value.asText_text id
  have hinvalid : ∀ i ∈ r.invalidRules, InvalidRule.read i.toValue = .ok i := fun i _ => i.read_toValue
  have hskipped : ∀ p ∈ r.skippedFiles, Value.asPath (.text p.text) = .ok p := fun p hp =>
    (Value.asPath_text p.text).trans (congrArg _ (Path.mk_text (hpaths p hp)))
  rw [toValue, read, listField_eq, listField_eq, Value.asFields_record]
  · simp [ok_bind, Value.need_eq, Value.orElse_eq, List.lookup_cons, List.lookup_append, lookup_optionalField, htimestamp,
      Path.mk_text hroot, hissues, hsummary, hrules, hids, elim_asList hinvalid, elim_asList hskipped]
  · simp [Value.passes_cons, Value.passes_append, Value.passes_optionalField, checks, List.lookup_cons,
      Value.check_of_read htimestamp, Value.check_of_read hissues, Value.check_of_read hsummary,
      Value.check_of_read hrules, Value.check_of_read (hids _), Value.check_of_read (Value.asList_map hinvalid),
      Value.check_of_read (Value.asList_map hskipped)]

theorem plain_toValue (r : Report) : r.toValue.Plain := by
  have hnames : (["timestamp", "root_path"] ++ ["session_id"] ++
      ["files_checked", "issues", "summary", "rules", "passed_rule_ids", "failed_rule_ids"] ++ ["invalid_rules"] ++
      ["skipped_files"]).Nodup := by decide
  have hissues := Value.Plain.list_map Issue.plain_toValue r.issues
  have hrules := Value.Plain.list_map Rule.plain_toValue r.rules
  have hids := Value.Plain.list_map Value.Plain.text
  have hinvalid := Value.Plain.list_map InvalidRule.plain_toValue r.invalidRules
  have hskipped := Value.Plain.list_map (fun p : Path => .text p.text) r.skippedFiles
  rw [toValue, listField_eq, listField_eq]
  refine .record_of_sublist ?_ hnames ?_
  · simp only [namesOf, List.map_append]
    exact ((((List.Sublist.refl _).append (names_optionalField ..)).append (List.Sublist.refl _)).append
      (names_optionalField ..)).append (names_optionalField ..)
  · simp only [List.forall_mem_append, forall_mem_optionalField]
    refine ⟨⟨⟨⟨?_, ?_⟩, ?_⟩, ?_⟩, ?_⟩
    · simp [Value.Plain.text]
    · simp [Value.Plain.text]
    · simp [Value.Plain.int, hissues, r.summary.plain_toValue, hrules, hids]
    · simp [hinvalid]
    · simp [hskipped]

theorem valid_of_readTimestamp {v : Value} {t : Timestamp} (h : readTimestamp v = .ok t) : t.Valid := by
  cases v with
  | text s =>
    rw [readTimestamp] at h
    cases hparse : Timestamp.parse s.toList with
    | error e =>
      rw [hparse] at h
      cases h
    | ok u =>
      rw [hparse] at h
      cases h
      exact Timestamp.valid_of_parse hparse
  | _ => cases h

/-- A path that was read is UTF-8. -/
theorem isText_of_asPath {v : Value} {p : Path} (h : v.asPath = .ok p) : p.isText = true := by
  cases v with
  | text s =>
    cases h
    exact Path.isText_mk s
  | _ => cases h

theorem isText_of_readIssue {v : Value} {i : Issue} (h : Issue.read v = .ok i) : i.location.file.isText = true := by
  rw [Issue.read] at h
  -- The fields of the issue itself come before those of its place.
  iterate 7 obtain ⟨_, -, h⟩ := of_bind h
  obtain ⟨location, hplace, h⟩ := of_bind h
  cases h
  rw [Issue.readPlace] at hplace
  obtain ⟨_, -, hplace⟩ := of_bind hplace
  obtain ⟨file, hfile, hplace⟩ := of_bind hplace
  iterate 4 obtain ⟨_, -, hplace⟩ := of_bind hplace
  cases hplace
  obtain ⟨w, hw⟩ := Value.of_need hfile
  exact isText_of_asPath hw

/-- The timestamp and the paths are the parts of a report that not every value of its type can be. -/
theorem of_read {v : Value} {r : Report} (h : read v = .ok r) : r.timestamp.Valid ∧ r.isText = true := by
  rw [read] at h
  obtain ⟨fields, -, h⟩ := of_bind h
  obtain ⟨timestamp, htimestamp, h⟩ := of_bind h
  obtain ⟨root, hroot, h⟩ := of_bind h
  obtain ⟨session, -, h⟩ := of_bind h
  obtain ⟨filesChecked, -, h⟩ := of_bind h
  obtain ⟨issues, hissues, h⟩ := of_bind h
  obtain ⟨summary, -, h⟩ := of_bind h
  obtain ⟨rules, -, h⟩ := of_bind h
  obtain ⟨passed, -, h⟩ := of_bind h
  obtain ⟨failed, -, h⟩ := of_bind h
  obtain ⟨invalidRules, -, h⟩ := of_bind h
  obtain ⟨skippedFiles, hskipped, h⟩ := of_bind h
  cases h
  constructor
  · obtain ⟨w, hw⟩ := Value.of_need htimestamp
    exact valid_of_readTimestamp hw
  · obtain ⟨w, hw⟩ := Value.of_need hroot
    obtain ⟨w', hw'⟩ := Value.of_need hissues
    refine isText_iff.2 ⟨isText_of_asPath hw, fun i hi => ?_, fun p hp => ?_⟩
    · obtain ⟨item, hitem⟩ := Value.of_asList hw' i hi
      exact isText_of_readIssue hitem
    · rcases Value.of_orElse hskipped with ⟨w'', hw''⟩ | rfl
      · obtain ⟨item, hitem⟩ := Value.of_asList hw'' p hp
        exact isText_of_asPath hitem
      · exact absurd hp List.not_mem_nil

/-- A report has a JSON text that carries it: the text is that of one value alone, the report's record, and what is read from
that value is the report. No name stands twice in a record of it. -/
structure Carried (r : Report) : Prop where
  plain : r.toValue.Plain
  written : CommandLine.jsonText? r = some (Json.pretty 0 r.toValue)
  alone : ∀ v : Value, v.Plain → CommandLine.jsonText? r = some (Json.pretty 0 v) → v = r.toValue
  read_eq : read r.toValue = .ok r

theorem carried_of_valid {r : Report} (h : r.timestamp.Valid) (htext : r.isText = true) : r.Carried := by
  have hwritten : CommandLine.jsonText? r = some (Json.pretty 0 r.toValue) := if_pos htext
  exact {
    plain := r.plain_toValue
    written := hwritten
    alone := fun v hv heq => Json.pretty_inj hv r.plain_toValue (Option.some.inj (heq.symm.trans hwritten))
    read_eq := read_toValue h htext }

/-- Every report whose paths are UTF-8 is carried by its JSON text, with all fields of its issues, the place among them, with
the kind of every rule, and whatever it may leave out. So is a report that was read, however the value was written from which
it was read. -/
theorem round_trip :
    (∀ r : Report, r.timestamp.Valid → r.isText = true → r.Carried) ∧
      ∀ (v : Value) (r : Report), read v = .ok r → r.Carried :=
  ⟨fun _ h htext => carried_of_valid h htext, fun _ _ h => carried_of_valid (of_read h).1 (of_read h).2⟩

/-- A report with rules of every kind, with and without what may be left out, and with empty texts and lists. -/
def sample : Report where
  timestamp := ⟨2024, 2, 29, 23, 59, 59, 120000000⟩
  root := ⟨""⟩
  session := none
  filesChecked := 2
  issues :=
    [{ id := "", ruleId := "b", location := ⟨⟨"a.go"⟩, 1, 2, 3, 4⟩, severity := .info, message := "" },
      { id := "d:b.templ:7", ruleId := "d", location := ⟨⟨"b.templ"⟩, 7, 1, 0, 0⟩, matchedText := "kind", severity := .error
        message := "m", suggestedFix := some "" }]
  summary := ⟨1, 0, 1, 2, 0, 2⟩
  rules :=
    [{ id := "a", name := "", kind := .syntaxCheck, fileKinds := [], message := "" },
      { id := "b", name := "", kind := .pattern "", fileKinds := [.templ], message := "", suggestedFix := some "" },
      { id := "c", name := "C", kind := .importRequirement "x" "", required := true, fileKinds := [.templ, .go, .go]
        message := "m" },
      { id := "d", name := "D", description := "kind", kind := .compilation, fileKinds := [.go], message := "m" }]
  passed := []
  failed := ["d", ""]
  invalidRules := [⟨"e", ""⟩]
  skippedFiles := []

/-- The record of a report in another order, with a field that no report has and an offset to the time. -/
def sampleValue : Value :=
  .record
    [("session_id", .null), ("kind", .bool true), ("timestamp", .text "2024-01-02T01:04:05.5+02:00"),
      ("summary", .record [("total", .int 0), ("error", .int 0), ("warning", .int 0), ("info", .int 0),
        ("passed_rules", .int 0), ("failed_rules", .int 0)]),
      ("root_path", .text "p"), ("files_checked", .int 0), ("issues", .list []),
      ("rules", .list [.record [("declaration", .text ""), ("pattern", .text "x"), ("id", .text "r"), ("name", .text ""),
        ("kind", .int 2), ("file_kinds", .list [.record [("go", .null)]]), ("message", .text "")]]),
      ("passed_rule_ids", .list []), ("failed_rule_ids", .list []), ("skipped_files", .list [.text "f.go"])]

/-- What is read from it. -/
def sampleRead : Report where
  timestamp := ⟨2024, 1, 1, 23, 4, 5, 500000000⟩
  root := ⟨"p"⟩
  session := none
  filesChecked := 0
  issues := []
  summary := ⟨0, 0, 0, 0, 0, 0⟩
  rules := [{ id := "r", name := "", kind := .importRequirement "x" "", fileKinds := [.go], message := "" }]
  passed := []
  failed := []
  invalidRules := []
  skippedFiles := [⟨"f.go"⟩]

set_option maxRecDepth 8000 in
theorem round_trip_sample : sample.timestamp.Valid ∧ sample.isText = true ∧ sample.Carried ∧
    read sampleValue = .ok sampleRead ∧ sampleRead.Carried := by
  have hvalid : sample.timestamp.Valid := by decide
  have htext : sample.isText = true := by
    refine isText_iff.2 ⟨Path.isText_mk "", ?_, nofun⟩
    simp only [sample, List.forall_mem_cons]
    exact ⟨Path.isText_mk "a.go", Path.isText_mk "b.templ", nofun⟩
  have hread : read sampleValue = .ok sampleRead := by rfl
  exact ⟨hvalid, htext, round_trip.1 sample hvalid htext, hread, round_trip.2 sampleValue sampleRead hread⟩

end Report

end ComponentAudit
