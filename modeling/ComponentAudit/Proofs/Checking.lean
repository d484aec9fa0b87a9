import ComponentAudit.Checker
import ComponentAudit.Proofs.Collecting
import ComponentAudit.Proofs.Decoding

/-!
# What the rules say about a file

A check is a list of calls, and each call is about one rule. Leaving rules out of a registry leaves out the calls about them
and nothing else (`Checker.callsFor_retain`), although the syntax check may not run any more: where no rule asks for it, its
outcome is not seen (`Checker.calls_eq_callsFor`). So the calls about one rule are those of the rule alone
(`Checker.filter_callsFor`, `Rule.calls`).
-/

namespace ComponentAudit

open Collector Text

/-- What one rule has to say about a file with an outcome of its syntax check. -/
def Rule.calls (r : Rule) (f : SourceFile) (outcome : Except SyntaxFailure Unit) : List Call :=
  if r.appliesTo f.kind then
    match r.kind with
    | .syntaxCheck => [Checker.syntaxCall f outcome r]
    | .compilation => [Checker.compilationCall outcome r]
    | .pattern regex =>
      match Matcher.compile regex with
      | .ok regex => Matcher.forbid ⟨r, regex⟩ f
      | .error _ => []
    | .importRequirement regex declaration =>
      match Matcher.compile regex with
      | .ok regex => Matcher.requireDeclaration ⟨r, regex⟩ declaration f
      | .error _ => []
  else []

/-! ## Which rule a call is about -/

theorem ruleId?_syntaxCall (f : SourceFile) (outcome : Except SyntaxFailure Unit) (r : Rule) :
    (Checker.syntaxCall f outcome r).ruleId? = some r.id := by
  unfold Checker.syntaxCall
  split <;> rfl

theorem ruleId?_compilationCall (outcome : Except SyntaxFailure Unit) (r : Rule) :
    (Checker.compilationCall outcome r).ruleId? = some r.id := by
  unfold Checker.compilationCall
  split <;> rfl

namespace Matcher

theorem ruleId?_forbid (m : Matcher) (f : SourceFile) : ∀ call ∈ m.forbid f, call.ruleId? = some m.rule.id := by
  intro call h
  simp only [forbid] at h
  split at h
  · rw [List.mem_singleton.1 h]
    rfl
  · obtain ⟨i, hi, rfl⟩ := List.mem_map.1 h
    obtain ⟨line, -, hline⟩ := List.mem_filterMap.1 hi
    obtain ⟨found, -, rfl⟩ := Option.map_eq_some_iff.1 hline
    rfl

theorem ruleId?_requireDeclaration (m : Matcher) (declaration : String) (f : SourceFile) :
    ∀ call ∈ m.requireDeclaration declaration f, call.ruleId? = some m.rule.id := by
  intro call h
  unfold requireDeclaration at h
  split at h
  · split at h
    · rw [List.mem_singleton.1 h]
      rfl
    · exact absurd h List.not_mem_nil
  · split at h
    · rw [List.mem_singleton.1 h]
      rfl
    · rw [List.mem_singleton.1 h]
      rfl

/-- All that a matcher says is about its rule. -/
theorem ruleId?_calls (m : Matcher) (f : SourceFile) : ∀ call ∈ m.calls f, call.ruleId? = some m.rule.id := by
  intro call h
  unfold calls at h
  split at h
  · split at h
    · exact ruleId?_forbid m f call h
    · exact ruleId?_requireDeclaration m _ f call h
    · exact absurd h List.not_mem_nil
    · exact absurd h List.not_mem_nil
  · exact absurd h List.not_mem_nil

/-- The matcher of a rule on text whose pattern can be used. -/
def ofRule? (r : Rule) : Option Matcher :=
  r.kind.regex?.bind fun pattern => (compile pattern).toOption.map fun regex => ⟨r, regex⟩

/-- What is said of a rule on text whose pattern cannot be used. -/
def leftOut? (r : Rule) : Option InvalidRule :=
  r.kind.regex?.bind fun pattern =>
    match compile pattern with
    | .ok _ => none
    | .error reason => some ⟨r.id, reason⟩

/-- Each rule is looked at by itself. -/
theorem ofRules_eq (rules : List Rule) : ofRules rules = (rules.filterMap ofRule?, rules.filterMap leftOut?) := by
  induction rules with
  | nil => rfl
  | cons r rest ih =>
    rw [ofRules, ih, List.filterMap_cons, List.filterMap_cons]
    cases hr : r.kind.regex? with
    | none => simp [ofRule?, leftOut?, hr]
    | some pattern =>
      cases hc : compile pattern with
      | ok regex => simp [ofRule?, leftOut?, hr, hc, Except.toOption]
      | error reason => simp [ofRule?, leftOut?, hr, hc, Except.toOption]

theorem rule_of_ofRule? {r : Rule} {m : Matcher} (h : ofRule? r = some m) : m.rule = r := by
  obtain ⟨pattern, -, h⟩ := Option.bind_eq_some_iff.1 h
  obtain ⟨regex, -, rfl⟩ := Option.map_eq_some_iff.1 h
  rfl

theorem ruleId_of_leftOut? {r : Rule} {i : InvalidRule} (h : leftOut? r = some i) : i.ruleId = r.id := by
  obtain ⟨pattern, -, h⟩ := Option.bind_eq_some_iff.1 h
  split at h
  · cases h
  · rw [← Option.some.inj h]

end Matcher

/-- A rule on text says what its matcher says, if its pattern can be used. -/
theorem Rule.calls_of_text {r : Rule} (htext : r.kind.regex?.isSome = true) (f : SourceFile)
    (outcome : Except SyntaxFailure Unit) :
    r.calls f outcome = (Matcher.ofRule? r).toList.flatMap fun m => m.calls f := by
  by_cases ha : r.appliesTo f.kind = true
  · cases hk : r.kind with
    | syntaxCheck | compilation => simp [hk, RuleKind.regex?] at htext
    | pattern regex | importRequirement regex declaration =>
      cases hc : Matcher.compile regex with
      | ok regex => simp [calls, ha, hk, hc, Matcher.ofRule?, RuleKind.regex?, Except.toOption, Matcher.calls]
      | error reason => simp [calls, ha, hk, hc, Matcher.ofRule?, RuleKind.regex?, Except.toOption]
  · rw [calls, if_neg ha, eq_comm, List.flatMap_eq_nil_iff]
    intro m hm
    rw [Matcher.calls, Matcher.rule_of_ofRule? (Option.mem_toList.1 hm), if_neg ha]

/-- What a rule says is the outcome of the syntax check, as a rule on syntax or on compilation tells it, or what its matcher
says. -/
theorem Rule.of_mem_calls {r : Rule} {f : SourceFile} {outcome : Except SyntaxFailure Unit} {call : Call}
    (h : call ∈ r.calls f outcome) :
    (r.kind = .syntaxCheck ∧ call = Checker.syntaxCall f outcome r) ∨
      (r.kind = .compilation ∧ call = Checker.compilationCall outcome r) ∨
      ∃ m, Matcher.ofRule? r = some m ∧ m.rule = r ∧ call ∈ m.calls f := by
  by_cases htext : r.kind.regex?.isSome = true
  · rw [calls_of_text htext] at h
    obtain ⟨m, hm, hcall⟩ := List.mem_flatMap.1 h
    have hmatcher := Option.mem_toList.1 hm
    exact Or.inr (Or.inr ⟨m, hmatcher, Matcher.rule_of_ofRule? hmatcher, hcall⟩)
  · have happlies : r.appliesTo f.kind = true := by
      by_contra hnot
      rw [calls, if_neg hnot] at h
      exact absurd h List.not_mem_nil
    rw [calls, if_pos happlies] at h
    cases hk : r.kind with
    | syntaxCheck =>
      rw [hk] at h
      exact Or.inl ⟨rfl, List.mem_singleton.1 h⟩
    | compilation =>
      rw [hk] at h
      exact Or.inr (Or.inl ⟨rfl, List.mem_singleton.1 h⟩)
    | pattern regex | importRequirement regex declaration => simp [hk, RuleKind.regex?] at htext

/-- What is made of some of the rules, where each part keeps the identifier of its rule. -/
theorem filterMap_filter_id {α : Type} {make : Rule → Option α} {ident : α → String}
    (h : ∀ r x, make r = some x → ident x = r.id) (keep : String → Bool) (rules : List Rule) :
    (rules.filter fun r => keep r.id).filterMap make = (rules.filterMap make).filter fun x => keep (ident x) := by
  induction rules with
  | nil => rfl
  | cons r rest ih =>
    rw [List.filter_cons, List.filterMap_cons]
    cases hm : make r with
    | none =>
      split
      · rw [List.filterMap_cons, hm]
        exact ih
      · exact ih
    | some x =>
      rw [List.filter_cons, h r x hm]
      split
      · rw [List.filterMap_cons, hm, ← ih]
      · exact ih

namespace Checker

theorem registry_ofRegistry (g : Registry) (parser : SourceParser) : (ofRegistry g parser).registry = g :=
  rfl

/-! ## Fewer rules -/

/-- The checker with only the rules whose identifiers are listed. -/
def retain (c : Checker) (ids : List String) : Checker where
  registry := c.registry.retain ids
  parser := c.parser
  matchers := c.matchers.filter fun m => ids.contains m.rule.id
  invalidRules := c.invalidRules.filter fun i => ids.contains i.ruleId
  compiled := by
    have hc := c.compiled
    rw [Matcher.ofRules_eq, Prod.mk.injEq] at hc
    rw [Registry.retain, Matcher.ofRules_eq,
      filterMap_filter_id (fun r m h => congrArg Rule.id (Matcher.rule_of_ofRule? h)) ids.contains,
      filterMap_filter_id (fun r i h => Matcher.ruleId_of_leftOut? h) ids.contains, hc.1, hc.2]

/-- A checker is the one of its registry and its parser. -/
theorem eq_ofRegistry (c : Checker) : c = ofRegistry c.registry c.parser := by
  have h := c.compiled
  unfold ofRegistry
  split
  rename_i matchers invalidRules h'
  rw [h] at h'
  cases c
  cases h'
  rfl

/-- Making fewer rules ready for use, or leaving the others out of those that are ready. -/
theorem ofRegistry_retain (r : Registry) (parser : SourceParser) (ids : List String) :
    ofRegistry (r.retain ids) parser = (ofRegistry r parser).retain ids := by
  have hreg : (ofRegistry r parser).registry = r := rfl
  have hparser : (ofRegistry r parser).parser = parser := rfl
  rw [eq_ofRegistry ((ofRegistry r parser).retain ids)]
  simp only [retain, hreg, hparser]

/-- The rules of a kind, of fewer rules. -/
theorem rulesOf_retain (c : Checker) (ids : List String) (kind : RuleKind) (f : SourceFile) :
    (c.retain ids).rulesOf kind f = (c.rulesOf kind f).filter fun r => ids.contains r.id := by
  simp only [rulesOf, Registry.applicable, retain, Registry.retain, List.filter_filter]
  congr 1
  funext r
  rw [Bool.and_comm (ids.contains r.id), Bool.and_assoc]

/-- The calls about some rules, where each rule makes one call. -/
theorem filter_map_calls (keep : String → Bool) {call : Rule → Call} (h : ∀ r, (call r).ruleId? = some r.id)
    (rules : List Rule) :
    (rules.map call).filter (Call.concerns keep) = (rules.filter fun r => keep r.id).map call := by
  rw [List.filter_map]
  congr 1
  apply List.filter_congr
  intro r _
  simp [Call.concerns, h]

/-- The calls about some rules, where each matcher makes some calls. -/
theorem filter_allCalls (keep : String → Bool) (matchers : List Matcher) (f : SourceFile) :
    (Matcher.allCalls matchers f).filter (Call.concerns keep) =
      Matcher.allCalls (matchers.filter fun m => keep m.rule.id) f := by
  induction matchers with
  | nil => rfl
  | cons m rest ih =>
    rw [Matcher.allCalls, List.flatMap_cons, List.filter_append, List.filter_cons]
    have hcalls : ∀ call ∈ m.calls f, call.concerns keep = keep m.rule.id := by
      intro call h
      simp [Call.concerns, Matcher.ruleId?_calls m f call h]
    by_cases hk : keep m.rule.id = true
    · rw [if_pos hk, Matcher.allCalls, List.flatMap_cons]
      congr 1
      exact List.filter_eq_self.2 fun call h => (hcalls call h).trans hk
    · rw [if_neg hk]
      have hnone : (m.calls f).filter (Call.concerns keep) = [] :=
        List.filter_eq_nil_iff.2 fun call h => by rw [hcalls call h]; exact hk
      rw [hnone, List.nil_append]
      exact ih

/-- Leaving rules out leaves out the calls about them and nothing else. -/
theorem callsFor_retain (c : Checker) (ids : List String) (f : SourceFile) (outcome : Except SyntaxFailure Unit) :
    (c.retain ids).callsFor f outcome = (c.callsFor f outcome).filter (Call.concerns ids.contains) := by
  rw [callsFor, callsFor, List.filter_append, List.filter_append, filter_allCalls,
    filter_map_calls ids.contains (ruleId?_syntaxCall f outcome),
    filter_map_calls ids.contains (ruleId?_compilationCall outcome), rulesOf_retain, rulesOf_retain]
  rfl

/-! ## The outcome of the syntax check -/

/-- Where no rule asks for the syntax check, no rule follows its outcome. -/
theorem rulesOf_eq_nil {c : Checker} {f : SourceFile} (h : c.needsSyntax f.kind = false) :
    c.rulesOf .syntaxCheck f = [] ∧ c.rulesOf .compilation f = [] := by
  simp only [needsSyntax, List.any_eq_false, Bool.or_eq_true, decide_eq_true_eq, not_or] at h
  constructor
  · exact List.filter_eq_nil_iff.2 fun r hr => by simp [(h r hr).1]
  · exact List.filter_eq_nil_iff.2 fun r hr => by simp [(h r hr).2]

/-- That the syntax check runs only where a rule asks for it makes no difference. -/
theorem calls_eq_callsFor (c : Checker) (f : SourceFile) :
    c.calls f = c.callsFor f (checkSyntax c.parser f.kind f.content) := by
  unfold calls outcome
  split
  · rfl
  · rename_i h
    obtain ⟨hsyn, hcomp⟩ := rulesOf_eq_nil (Bool.not_eq_true _ ▸ h)
    simp only [callsFor, hsyn, hcomp, List.map_nil]

end Checker

/-- The outcome of the syntax check of some bytes: they fail it where they are not UTF-8. -/
def syntaxOutcome (parser : SourceParser) (kind : FileKind) (bytes : List UInt8) : Except SyntaxFailure Unit :=
  match Text.Utf8.decode? bytes with
  | some content => checkSyntax parser kind content
  | none => .error (.ofBytes bytes (Text.Utf8.validLength bytes))

namespace Checker

/-- A check of bytes is a check of what can be decoded of them, with the outcome of their syntax check. -/
theorem checkBytes_eq (c : Checker) (root path : Path) (kind : FileKind) (bytes : List UInt8) :
    c.checkBytes root path kind bytes =
      Collector.empty.runAll (c.callsFor (.ofPath path (Text.Utf8.decodeLossy bytes) root kind)
        (syntaxOutcome c.parser kind bytes)) := by
  unfold checkBytes syntaxOutcome
  cases h : Text.Utf8.decode? bytes with
  | none => rfl
  | some content =>
    rw [Text.Utf8.decodeLossy_of_decode? h]
    simp only [check, calls_eq_callsFor]
    rfl

/-! ## The calls of one rule -/

/-- The matchers are those of the rules of the registry. -/
theorem matchers_eq (c : Checker) : c.matchers = c.registry.rules.filterMap Matcher.ofRule? := by
  have hc := c.compiled
  rw [Matcher.ofRules_eq, Prod.mk.injEq] at hc
  exact hc.1.symm

/-- Each matcher is made of a rule of the registry. -/
theorem mem_matchers_iff {c : Checker} {m : Matcher} :
    m ∈ c.matchers ↔ ∃ r ∈ c.registry.rules, Matcher.ofRule? r = some m := by
  rw [matchers_eq, List.mem_filterMap]

/-- The rules that are left out of a scan are those of the registry whose pattern cannot be used. -/
theorem invalidRules_eq (c : Checker) : c.invalidRules = c.registry.rules.filterMap Matcher.leftOut? := by
  have hc := c.compiled
  rw [Matcher.ofRules_eq, Prod.mk.injEq] at hc
  exact hc.2.symm

/-- With one rule, a checker says what the rule says. -/
theorem callsFor_singleton {c : Checker} {r : Rule} (h : c.registry.rules = [r]) (f : SourceFile)
    (outcome : Except SyntaxFailure Unit) : c.callsFor f outcome = r.calls f outcome := by
  have hmatchers : Matcher.allCalls c.matchers f = (Matcher.ofRule? r).toList.flatMap fun m => m.calls f := by
    rw [matchers_eq, h, Matcher.allCalls, List.filterMap_cons]
    cases Matcher.ofRule? r with
    | none => rfl
    | some m => rfl
  rw [callsFor, hmatchers]
  simp only [rulesOf, Registry.applicable, h]
  by_cases htext : r.kind.regex?.isSome = true
  · rw [Rule.calls_of_text htext]
    cases hk : r.kind with
    | syntaxCheck | compilation => simp [hk, RuleKind.regex?] at htext
    | pattern regex | importRequirement regex declaration => simp [hk]
  · have hnone : Matcher.ofRule? r = none := by
      rw [Matcher.ofRule?, Option.not_isSome_iff_eq_none.1 htext]
      rfl
    rw [hnone, Rule.calls]
    by_cases ha : r.appliesTo f.kind = true
    · cases hk : r.kind with
      | syntaxCheck | compilation => simp [ha, hk]
      | pattern regex | importRequirement regex declaration => simp [hk, RuleKind.regex?] at htext
    · simp [ha]

end Checker

/-- A registry has one rule of an identifier. -/
theorem Registry.eq_of_id {g : Registry} {r r' : Rule} (hr : r ∈ g.rules) (hr' : r' ∈ g.rules) (hid : r'.id = r.id) :
    r' = r :=
  List.inj_on_of_nodup_map g.distinct hr' hr hid

/-- An identifier finds the one rule that has it. -/
theorem Registry.get?_eq_some_iff {g : Registry} {id : String} {r : Rule} : g.get? id = some r ↔ r ∈ g.rules ∧ r.id = id := by
  constructor
  · intro h
    exact ⟨List.mem_of_find?_eq_some h, by simpa using List.find?_some h⟩
  · rintro ⟨hr, rfl⟩
    have hfound : (g.get? r.id).isSome := List.find?_isSome.2 ⟨r, hr, by simp⟩
    obtain ⟨r', hr'⟩ := Option.isSome_iff_exists.1 hfound
    have hid : r'.id = r.id := by simpa using List.find?_some hr'
    rw [hr', eq_of_id hr (List.mem_of_find?_eq_some hr') hid]

/-- Of a registry with distinct identifiers, one identifier keeps one rule. -/
theorem Registry.rules_retain_singleton {g : Registry} {r : Rule} (hr : r ∈ g.rules) : (g.retain [r.id]).rules = [r] := by
  have hfilter : ∀ rules : List Rule, (rules.map (·.id)).Nodup → r ∈ rules →
      rules.filter (fun rule => [r.id].contains rule.id) = [r] := by
    intro rules
    induction rules with
    | nil => exact fun _ h => absurd h List.not_mem_nil
    | cons first rest ih =>
      intro hnodup hmem
      rw [List.map_cons, List.nodup_cons] at hnodup
      rcases List.mem_cons.1 hmem with rfl | hmem
      · rw [List.filter_cons_of_pos (by simp)]
        congr 1
        refine List.filter_eq_nil_iff.2 fun x hx => ?_
        simp only [List.contains_cons, List.contains_nil, Bool.or_false, beq_iff_eq]
        exact fun h => hnodup.1 (h ▸ List.mem_map_of_mem hx)
      · rw [List.filter_cons_of_neg, ih hnodup.2 hmem]
        simp only [List.contains_cons, List.contains_nil, Bool.or_false, beq_iff_eq]
        exact fun h => hnodup.1 (h ▸ List.mem_map_of_mem hmem)
  exact hfilter g.rules g.distinct hr

namespace Checker

/-- The calls about a rule are those of the rule alone. -/
theorem filter_callsFor {c : Checker} {r : Rule} (hr : r ∈ c.registry.rules) (f : SourceFile)
    (outcome : Except SyntaxFailure Unit) :
    (c.callsFor f outcome).filter (Call.concerns fun id => [r.id].contains id) = r.calls f outcome := by
  rw [← callsFor_retain c [r.id] f outcome]
  exact callsFor_singleton (Registry.rules_retain_singleton hr) f outcome

/-- Every call is about a rule of the registry. -/
theorem exists_rule_of_mem_callsFor {c : Checker} {f : SourceFile} {outcome : Except SyntaxFailure Unit} {call : Call}
    (h : call ∈ c.callsFor f outcome) : ∃ r ∈ c.registry.rules, call.ruleId? = some r.id := by
  simp only [callsFor, List.mem_append] at h
  rcases h with (h | h) | h
  · obtain ⟨r, hr, rfl⟩ := List.mem_map.1 h
    exact ⟨r, List.mem_of_mem_filter (List.mem_of_mem_filter hr), ruleId?_syntaxCall f outcome r⟩
  · obtain ⟨m, hm, hcall⟩ := List.mem_flatMap.1 h
    obtain ⟨r, hr, hmr⟩ := mem_matchers_iff.1 hm
    refine ⟨r, hr, ?_⟩
    rw [Matcher.ruleId?_calls m f call hcall, Matcher.rule_of_ofRule? hmr]
  · obtain ⟨r, hr, rfl⟩ := List.mem_map.1 h
    exact ⟨r, List.mem_of_mem_filter (List.mem_of_mem_filter hr), ruleId?_compilationCall outcome r⟩

theorem plain_callsFor (c : Checker) (f : SourceFile) (outcome : Except SyntaxFailure Unit) :
    Plain (c.callsFor f outcome) := by
  intro call h
  obtain ⟨r, -, hr⟩ := exists_rule_of_mem_callsFor h
  exact ⟨r.id, hr⟩

/-- A call is made about a rule exactly if the rule makes it. -/
theorem mem_calls_iff {c : Checker} {r : Rule} (hr : r ∈ c.registry.rules) {f : SourceFile}
    {outcome : Except SyntaxFailure Unit} {call : Call} :
    call ∈ r.calls f outcome ↔ call ∈ c.callsFor f outcome ∧ call.ruleId? = some r.id := by
  rw [← filter_callsFor hr, List.mem_filter, Call.concerns]
  cases call.ruleId? with
  | none => simp
  | some id => simp [eq_comm]

/-- The issues that some calls record about a rule are those of the calls about the rule. -/
theorem filter_filterMap_issue? (calls : List Call) (id : String) :
    (calls.filterMap Call.issue?).filter (fun i => i.ruleId = id) =
      (calls.filter (Call.concerns fun x => [id].contains x)).filterMap Call.issue? := by
  rw [List.filter_filterMap, List.filterMap_filter]
  congr 1
  funext call
  cases call with
  | record i => simp [Call.issue?, Call.concerns, Call.ruleId?, Option.filter_some]
  | pass x => simp [Call.issue?]
  | fail x => simp [Call.issue?]
  | absorb calls => simp [Call.issue?]

/-- What the calls of a checker leave of a rule in a collector: the issues that the rule records, and whether it passes and fails
by what it says itself. -/
theorem runAll_callsFor {c : Checker} {r : Rule} (hr : r ∈ c.registry.rules) (f : SourceFile)
    (outcome : Except SyntaxFailure Unit) :
    let found := Collector.empty.runAll (c.callsFor f outcome)
    found.issues.filter (fun i => i.ruleId = r.id) = (r.calls f outcome).filterMap Call.issue? ∧
      (r.id ∈ found.passed.ids ↔ .pass r.id ∈ r.calls f outcome) ∧
      (r.id ∈ found.failed.ids ↔ ∃ call ∈ r.calls f outcome, call.Fails r.id) := by
  have hplain := plain_callsFor c f outcome
  refine ⟨?_, ?_, ?_⟩
  · rw [issues_runAll hplain, show Collector.empty.issues = [] from rfl, List.nil_append, filter_filterMap_issue?,
      filter_callsFor hr]
  · refine (mem_passed_runAll hplain _ _).trans ((or_iff_right (IdSet.mem_empty r.id)).trans ?_)
    rw [mem_calls_iff hr]
    exact (and_iff_left rfl).symm
  · refine (mem_failed_runAll hplain _ _).trans ((or_iff_right (IdSet.mem_empty r.id)).trans ?_)
    refine exists_congr fun call => ?_
    rw [mem_calls_iff hr, and_assoc]
    exact and_congr_right fun _ => (and_iff_right_of_imp fun hfails => hfails.ruleId?_eq).symm

/-- The issues that a check of bytes records are those that the rules of its registry record. -/
theorem mem_issues_checkBytes {c : Checker} {root path : Path} {kind : FileKind} {bytes : List UInt8} {i : Issue} :
    i ∈ (c.checkBytes root path kind bytes).issues ↔ ∃ r ∈ c.registry.rules, r.id = i.ruleId ∧
      .record i ∈ r.calls (.ofPath path (Text.Utf8.decodeLossy bytes) root kind) (syntaxOutcome c.parser kind bytes) := by
  rw [checkBytes_eq, issues_runAll (plain_callsFor c _ _), show Collector.empty.issues = [] from rfl, List.nil_append,
    mem_filterMap_issue?]
  constructor
  · intro hcall
    obtain ⟨r, hr, hrule⟩ := exists_rule_of_mem_callsFor hcall
    exact ⟨r, hr, (Option.some.inj hrule).symm, (mem_calls_iff hr).2 ⟨hcall, hrule⟩⟩
  · rintro ⟨r, hr, -, hcall⟩
    exact ((mem_calls_iff hr).1 hcall).1

end Checker

end ComponentAudit
