import ComponentAudit.Proofs.Isolating
import ComponentAudit.Proofs.Linewise
import ComponentAudit.Proofs.Requiring

/-!
# The expressions of the built-in rules

What the patterns of the built-in rules are compiled to (`Rules.expressions`, `Rules.compile_expression`). All of them are plain
and have no empty word; what an import requirement looks for stands in a line (`Rules.goesByLines`). So the matchers of a
registry that is made of built-in rules go by lines, whichever of the rules it has and whichever are required.
-/

namespace ComponentAudit

open Pattern

/-- The declaration that a kind of rule asks for. -/
def RuleKind.declaration? : RuleKind → Option String
  | .importRequirement _ declaration => some declaration
  | .syntaxCheck | .pattern _ | .compilation => none

/-- Every rule of a registry is a built-in one, apart from whether it is required. -/
def Registry.IsBuiltin (g : Registry) : Prop :=
  ∀ r ∈ g.rules, ∃ b ∈ Rules.builtin, b.SameButRequired r

namespace Registry

/-- The presets are made of built-in rules. -/
theorem isBuiltin_of_preset (preset : Rules.Preset) {g : Registry} (h : g.rules = preset.rules) : g.IsBuiltin := by
  intro r hr
  rw [h] at hr
  cases preset with
  | recommended => exact ⟨r, hr, r.required, rfl⟩
  | strict =>
    obtain ⟨b, hb, rfl⟩ := List.mem_map.1 hr
    exact ⟨b, hb, true, rfl⟩
  | minimal =>
    have hsub : ∀ b ∈ Rules.Preset.minimal.rules, b ∈ Rules.builtin := by decide
    exact ⟨r, hsub r hr, r.required, rfl⟩

/-- Leaving rules out keeps a registry made of built-in rules. -/
theorem IsBuiltin.retain {g : Registry} (h : g.IsBuiltin) (ids : List String) : (g.retain ids).IsBuiltin :=
  fun r hr => h r (List.mem_of_mem_filter hr)

end Registry

namespace Rules

/-! ## Expressions -/

/-- The expressions of the characters of a text. -/
def letters (s : String) : List Regex :=
  s.toList.map fun c => .set (.single c)

/-- Characters of a set, at least so many and preferably all that there are. -/
def many (min : Nat) (cs : Charset) : Regex :=
  .repetition (.set cs) min none true

/-- The characters of a text spell the text. -/
theorem mem_language_letters {s : String} {w : List Char} : w ∈ (Regex.sequence (letters s)).language ↔ w = s.toList := by
  have hletters : ∀ l w : List Char, w ∈ (Regex.sequence (l.map fun c => .set (.single c))).language ↔ w = l := by
    intro l
    induction l with
    | nil => exact fun w => Language.mem_one w
    | cons c l ih =>
      intro w
      rw [List.map_cons, Regex.language_sequence_cons, Language.mem_mul]
      constructor
      · rintro ⟨_, ⟨d, hd, rfl⟩, v, hv, rfl⟩
        obtain rfl := (ih v).1 hv
        obtain rfl : d = c := by
          rw [Charset.single, Charset.contains, Bool.and_eq_true, decide_eq_true_iff, decide_eq_true_iff] at hd
          exact Char.le_antisymm hd.2 hd.1
        rfl
      · rintro rfl
        have hc : (Charset.single c).contains c = true := by
          rw [Charset.single, Charset.contains, Bool.and_eq_true, decide_eq_true_iff]
          exact ⟨Char.le_refl c, Char.le_refl c⟩
        exact ⟨[c], ⟨c, hc, rfl⟩, l, (ih l).2 rfl, rfl⟩
  exact hletters s.toList w

/-- Many characters of a set spell the texts that are made of them. -/
theorem mem_language_many {min : Nat} {cs : Charset} {w : List Char} :
    w ∈ (many min cs).language ↔ min ≤ w.length ∧ ∀ c ∈ w, cs.contains c = true := by
  rw [many, Regex.language, Language.mem_mul]
  constructor
  · rintro ⟨u, hu, v, hv, rfl⟩
    obtain ⟨hlength, hall⟩ := Regex.mem_language_set_pow.1 hu
    refine ⟨by rw [List.length_append]; omega, ?_⟩
    exact List.forall_mem_append.2 ⟨hall, Regex.mem_kstar_language_set.1 hv⟩
  · rintro ⟨hlength, hall⟩
    refine ⟨w.take min, Regex.mem_language_set_pow.2 ⟨List.length_take_of_le hlength, fun c hc => hall c (List.mem_of_mem_take hc)⟩,
      w.drop min, Regex.mem_kstar_language_set.2 fun c hc => hall c (List.mem_of_mem_drop hc), List.take_append_drop min w⟩

/-- One of some texts. -/
def anyOf (texts : List String) : Regex :=
  .choice (texts.map fun s => .sequence (letters s))

/-- An import of the file of a component. -/
def legacyPath : Regex :=
  .sequence (letters "import" ++ [many 1 .blank] ++ letters "\"" ++ [many 0 (.complement (.single '"'))] ++
    letters "views/components/" ++ [many 1 (.complement (.union (.single '/') (.single '"')))] ++ letters "." ++
    [many 1 .word] ++ letters "\"")

/-- The use of a component of a package. -/
def use (package : String) : Regex :=
  .sequence (letters ("@" ++ package ++ ".") ++ [many 1 .word])

/-- A call of a component with a text as its first argument. -/
def textCall (component : String) : Regex :=
  .sequence (letters ("@" ++ component ++ "(") ++ [many 0 .blank] ++ letters "\"")

/-- A look at the theme. -/
def themeCall : Regex :=
  .sequence (letters "theme.Get(")

/-- A class with a colour of its own. -/
def colourClass : Regex :=
  .sequence (letters "class=\"" ++ [many 0 (.complement (.single '"')), anyOf ["text-red-", "bg-blue-", "border-green-"],
    many 1 .digit])

/-- An attribute of a family. -/
def attributeOf (family : String) (names : List String) : Regex :=
  .sequence (letters (family ++ "-") ++ [anyOf names] ++ letters "=\"")

/-- The built-in rules on text with their expressions. -/
def expressions : List (Rule × Regex) := [
  (legacyImport, legacyPath), (atomsImported, use "atoms"), (moleculesImported, use "molecules"),
  (buttonProps, textCall "atoms.Button"), (formFieldProps, textCall "molecules.FormField"),
  (inputProps, textCall "atoms.Input"), (themeLookup, themeCall), (hardcodedColour, colourClass),
  (htmxProps, attributeOf "hx" ["post", "get", "put", "delete"]),
  (alpineProps, attributeOf "x" ["data", "show", "if", "for", "on"])]

set_option maxRecDepth 4000 in
/-- The patterns are read as the expressions. -/
theorem ofPattern_expressions :
    expressions.map (fun e => e.1.kind.regex?.map fun pattern => Regex.ofPattern pattern.toList) =
      expressions.map fun e => some (.ok e.2) := by
  cbv

theorem size_expressions : ∀ e ∈ expressions, e.2.size ≤ Regex.sizeLimit := by
  decide

/-- The pattern of a built-in rule on text is compiled to its expression. -/
theorem compile_expression : ∀ e ∈ expressions, ∀ pattern, e.1.kind.regex? = some pattern → Matcher.compile pattern = .ok e.2 := by
  intro e he pattern hpattern
  have hempty : ∀ e ∈ expressions, e.1.kind.regex? ≠ some "" := by decide
  have hread := List.map_inj_left.1 ofPattern_expressions e he
  rw [hpattern, Option.map_some, Option.some.injEq] at hread
  refine Matcher.compile_eq_ok_iff.2 ⟨?_, hread, size_expressions e he⟩
  rintro rfl
  exact hempty e he hpattern

/-- All expressions are plain, and none has an empty word. -/
theorem plain_expressions : ∀ e ∈ expressions, e.2.isPlain = true ∧ e.2.isNullable = false := by
  decide

/-- The uses that an import requirement looks for stand in a line, and so does its declaration. -/
theorem whole_expressions : ∀ e ∈ expressions, ∀ declaration ∈ e.1.kind.declaration?,
    e.2.mentions '\n' = false ∧ '\n' ∉ declaration.toList := by
  decide

end Rules

/-! ## Matchers -/

/-- The matcher of a built-in rule has its expression, whether the rule is required or not. -/
theorem Matcher.mem_expressions {b r : Rule} (hb : b ∈ Rules.builtin) (h : b.SameButRequired r) {m : Matcher}
    (hm : ofRule? r = some m) : (b, m.regex) ∈ Rules.expressions := by
  have hlisted : ∀ b ∈ Rules.builtin, b.kind.regex?.isSome = true → b ∈ Rules.expressions.map Prod.fst := by decide
  obtain ⟨pattern, hpattern, hm⟩ := Option.bind_eq_some_iff.1 hm
  rw [h.kind_eq] at hpattern
  obtain ⟨⟨b', regex⟩, he, rfl⟩ := List.mem_map.1 (hlisted b hb (by rw [hpattern, Option.isSome_some]))
  rw [Rules.compile_expression _ he pattern hpattern] at hm
  obtain rfl := Option.some.inj hm
  exact he

namespace Checker

variable {c : Checker}

/-- Each matcher of a checker with built-in rules is that of a built-in rule. -/
theorem exists_expression (h : c.registry.IsBuiltin) {m : Matcher} (hm : m ∈ c.matchers) :
    ∃ b, (b, m.regex) ∈ Rules.expressions ∧ b.SameButRequired m.rule := by
  obtain ⟨r, hr, hm⟩ := mem_matchers_iff.1 hm
  obtain ⟨b, hb, hsame⟩ := h r hr
  exact ⟨b, Matcher.mem_expressions hb hsame hm, Matcher.rule_of_ofRule? hm ▸ hsame⟩

/-- What an import requirement asks for is what the built-in rule asks for. -/
theorem exists_requirement (h : c.registry.IsBuiltin) {m : Matcher} (hm : m ∈ c.matchers) {pattern declaration : String}
    (hkind : m.rule.kind = .importRequirement pattern declaration) :
    ∃ b, (b, m.regex) ∈ Rules.expressions ∧ b.SameButRequired m.rule ∧ declaration ∈ b.kind.declaration? := by
  obtain ⟨b, he, hsame⟩ := exists_expression h hm
  refine ⟨b, he, hsame, ?_⟩
  rw [← hsame.kind_eq, hkind]
  rfl

/-- The matchers of built-in rules go by lines. -/
theorem goesByLines (h : c.registry.IsBuiltin) {m : Matcher} (hm : m ∈ c.matchers) : m.GoesByLines := by
  intro pattern declaration hkind
  obtain ⟨b, he, -, hdeclaration⟩ := exists_requirement h hm hkind
  obtain ⟨hplain, hnonempty⟩ := Rules.plain_expressions _ he
  obtain ⟨hwhole, hline⟩ := Rules.whole_expressions _ he declaration hdeclaration
  exact ⟨⟨hplain, hnonempty, hwhole⟩, hline⟩

end Checker

end ComponentAudit
