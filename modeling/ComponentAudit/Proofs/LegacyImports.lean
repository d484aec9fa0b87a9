import ComponentAudit.GoSource
import ComponentAudit.Proofs.Builtins

/-!
# Which imports of component files are found

The rule against imports of component files looks at one line at a time, for the keyword, blanks and the path between quotes
(`Rules.matches_legacyPath_iff`). So of the forms of an import declaration it sees one: a single import without a name. Where
there is a name, or the path stands between parentheses on a line of its own, the keyword is not next to the path, and the rule
finds nothing (`Checker.check_legacyImport`).
-/

namespace ComponentAudit

open Collector Pattern Text

/-! ## Lines -/

/-- The path of a component's file: a name with an extension, below the components. -/
def IsLegacyPath (path : List Char) : Prop :=
  ∃ above name extension, path = above ++ "views/components/".toList ++ name ++ '.' :: extension ∧
    name ≠ [] ∧ '/' ∉ name ∧ extension ≠ [] ∧ ∀ c ∈ extension, isWordChar c = true

/-- The keyword of an import declaration. -/
def importKeyword : List Char :=
  "import".toList

/-- What stands before the path of an import ends in the keyword and blanks. -/
def FollowsKeyword (lead : List Char) : Prop :=
  ∃ before blanks, lead = before ++ importKeyword ++ blanks ∧ blanks ≠ [] ∧ ∀ c ∈ blanks, isBlank c = true

/-- A line that holds the path of a component's file, between quotes and right after the keyword. -/
def ImportsLegacyPath (line : List Char) : Prop :=
  ∃ lead path after, line = lead ++ '"' :: path ++ '"' :: after ∧ FollowsKeyword lead ∧ '"' ∉ path ∧ IsLegacyPath path

namespace Rules

theorem forall_mem_not_single {c : Char} {w : List Char} :
    (∀ x ∈ w, (Charset.single c).complement.contains x = true) ↔ c ∉ w := by
  have hsingle : ∀ x, (Charset.single c).complement.contains x = true ↔ c ≠ x := by
    intro x
    simp only [Charset.single, Charset.contains, Bool.not_eq_true', Bool.and_eq_false_iff, decide_eq_false_iff_not]
    rw [← not_and_or, not_iff_not]
    exact ⟨fun h => Char.le_antisymm h.1 h.2, fun h => h ▸ ⟨Char.le_refl c, Char.le_refl c⟩⟩
  simp only [hsingle]
  exact ⟨fun h hc => h c hc rfl, fun h x hx hcx => h (hcx ▸ hx)⟩

/-- The words of the expression against imports of component files. -/
theorem mem_language_legacyPath {w : List Char} : w ∈ legacyPath.language ↔ ∃ blanks path,
    w = importKeyword ++ blanks ++ '"' :: path ++ ['"'] ∧ blanks ≠ [] ∧ (∀ c ∈ blanks, isBlank c = true) ∧
      '"' ∉ path ∧ IsLegacyPath path := by
  have hone : ∀ r, (Regex.sequence [r]).language = r.language := fun _ => rfl
  have hunion : ∀ name : List Char,
      (∀ c ∈ name, (Charset.complement (.union (.single '/') (.single '"'))).contains c = true) ↔ '/' ∉ name ∧ '"' ∉ name := by
    intro name
    rw [← forall_mem_not_single, ← forall_mem_not_single, ← forall₂_and]
    simp only [Charset.contains, Bool.not_or, Bool.and_eq_true]
  have hword : ∀ extension : List Char, (∀ c ∈ extension, isWordChar c = true) → '"' ∉ extension := by
    intro extension hall hquote
    exact absurd (hall _ hquote) (by decide)
  simp only [legacyPath, Regex.language_sequence_append, Language.mem_mul, mem_language_letters, hone, mem_language_many,
    exists_eq_left, forall_mem_not_single, hunion]
  constructor
  · rintro ⟨_, ⟨_, ⟨_, ⟨_, ⟨_, ⟨_, ⟨_, ⟨blanks, ⟨hblanks, hblank⟩, rfl⟩, rfl⟩, above, ⟨-, habove⟩, rfl⟩, rfl⟩, name,
      ⟨hname, hslash, hquote⟩, rfl⟩, rfl⟩, extension, ⟨hextension, hall⟩, rfl⟩, rfl⟩
    refine ⟨blanks, above ++ "views/components/".toList ++ name ++ '.' :: extension, ?_, List.length_pos_iff.1 hblanks, hblank, ?_,
      above, name, extension, rfl, List.length_pos_iff.1 hname, hslash, List.length_pos_iff.1 hextension, hall⟩
    · simp [importKeyword]
    · simp [habove, hquote, hword extension hall]
  · rintro ⟨blanks, _, rfl, hblanks, hblank, hpath, above, name, extension, rfl, hname, hslash, hextension, hall⟩
    simp only [List.mem_append, List.mem_cons, not_or] at hpath
    obtain ⟨⟨⟨habove, -⟩, hquote⟩, -⟩ := hpath
    refine ⟨_, ⟨_, ⟨_, ⟨_, ⟨_, ⟨_, ⟨_, ⟨blanks, ⟨List.length_pos_iff.2 hblanks, hblank⟩, rfl⟩, rfl⟩, above, ⟨Nat.zero_le _, habove⟩,
      rfl⟩, rfl⟩, name, ⟨List.length_pos_iff.2 hname, hslash, hquote⟩, rfl⟩, rfl⟩, extension,
      ⟨List.length_pos_iff.2 hextension, hall⟩, rfl⟩, ?_⟩
    simp [importKeyword]

/-- The expression against imports of component files matches in the lines that import one. -/
theorem matches_legacyPath_iff {line : List Char} : legacyPath.Matches line ↔ ImportsLegacyPath line := by
  have hplain : legacyPath.isPlain = true := by decide
  rw [Regex.matches_iff hplain]
  constructor
  · rintro ⟨w, hw, before, after, rfl⟩
    obtain ⟨blanks, path, rfl, hne, hblank, hquote, hpath⟩ := mem_language_legacyPath.1 hw
    exact ⟨before ++ importKeyword ++ blanks, path, after, by simp, ⟨before, blanks, rfl, hne, hblank⟩, hquote, hpath⟩
  · rintro ⟨_, path, after, rfl, ⟨before, blanks, rfl, hne, hblank⟩, hquote, hpath⟩
    exact ⟨_, mem_language_legacyPath.2 ⟨blanks, path, rfl, hne, hblank, hquote, hpath⟩, before, after, by simp⟩

end Rules

/-! ## Declarations -/

/-- An import as a source file spells it: a name or none, and a path between quotes. -/
structure ImportSpec where
  /-- A name, a point or an underscore, or nothing. -/
  name : List Char
  /-- The blanks after the name. -/
  gap : List Char
  path : List Char
  name_plain : ∀ c ∈ name, isBlank c = false ∧ c ≠ '"'
  gap_blank : ∀ c ∈ gap, isBlank c = true
  gap_of_unnamed : name = [] → gap = []
  path_unquoted : '"' ∉ path

/-- An import declaration: a single import, or imports in parentheses, each on a line of its own. -/
inductive ImportDeclaration where
  | single (gap : List Char) (spec : ImportSpec) (gap_blank : ∀ c ∈ gap, isBlank c = true)
      (gap_of_named : spec.name ≠ [] → gap ≠ [])
  | group (specs : List ImportSpec)

namespace ImportDeclaration

/-- The imports of a declaration, each after what stands before its path on its line. -/
def leads : ImportDeclaration → List (List Char × ImportSpec)
  | single gap spec _ _ => [(importKeyword ++ gap ++ spec.name ++ spec.gap, spec)]
  | group specs => specs.map fun spec => ('\t' :: spec.name ++ spec.gap, spec)

/-- The imports of a declaration. -/
def specs (d : ImportDeclaration) : List ImportSpec :=
  d.leads.map Prod.snd

/-- The lines of the imports of a declaration. -/
def specLines (d : ImportDeclaration) : List (List Char) :=
  d.leads.map fun e => e.1 ++ '"' :: e.2.path ++ ['"']

/-- The lines of a declaration. -/
def lines (d : ImportDeclaration) : List (List Char) :=
  match d with
  | single .. => d.specLines
  | group _ => [importKeyword ++ [' ', '(']] ++ d.specLines ++ [[')']]

/-- Whether the keyword, or a name that ends in it, is next to the path of an import. -/
def NextToKeyword (d : ImportDeclaration) (spec : ImportSpec) : Prop :=
  match d with
  | single gap _ _ _ => if spec.name = [] then gap ≠ [] else spec.gap ≠ [] ∧ importKeyword <:+ spec.name
  | group _ => spec.gap ≠ [] ∧ importKeyword <:+ spec.name

end ImportDeclaration

/-- Texts that end in other characters than blanks are the same if they are with blanks after them. -/
theorem append_blanks_inj {s t gap gap' : List Char} {c d : Char} (hs : s.getLast? = some c) (hc : isBlank c = false)
    (ht : t.getLast? = some d) (hd : isBlank d = false) (hgap : ∀ c ∈ gap, isBlank c = true)
    (hgap' : ∀ c ∈ gap', isBlank c = true) (h : s ++ gap = t ++ gap') : s = t ∧ gap = gap' := by
  have hnil : ∀ {u x : List Char} {e : Char}, (u ++ x).getLast? = some e → isBlank e = false → (∀ c ∈ x, isBlank c = true) →
      x = [] := by
    intro u x e hlast he hx
    by_contra hne
    rw [List.getLast?_append_of_ne_nil u hne] at hlast
    rw [hx e (List.mem_of_getLast? hlast)] at he
    cases he
  rcases List.append_eq_append_iff.1 h with ⟨x, rfl, rfl⟩ | ⟨x, rfl, rfl⟩
  · obtain rfl := hnil ht hd fun c hc => hgap c (List.mem_append_left _ hc)
    exact ⟨(List.append_nil s).symm, rfl⟩
  · obtain rfl := hnil hs hc fun c hc => hgap' c (List.mem_append_left _ hc)
    exact ⟨List.append_nil t, rfl⟩

/-- What ends in another character than a blank, and then blanks, follows the keyword if there are blanks and the keyword is
before them. -/
theorem followsKeyword_append_iff {lead gap : List Char} {c : Char} (hlast : lead.getLast? = some c) (hc : isBlank c = false)
    (hgap : ∀ c ∈ gap, isBlank c = true) : FollowsKeyword (lead ++ gap) ↔ gap ≠ [] ∧ importKeyword <:+ lead := by
  constructor
  · rintro ⟨before, blanks, h, hne, hblank⟩
    have hkeyword : (before ++ importKeyword).getLast? = some 't' :=
      List.getLast?_append_of_ne_nil before (by decide)
    obtain ⟨rfl, rfl⟩ := append_blanks_inj hlast hc hkeyword (by decide) hgap hblank h
    exact ⟨hne, List.suffix_append before importKeyword⟩
  · rintro ⟨hne, before, rfl⟩
    exact ⟨before, gap, rfl, hne, hgap⟩

/-- The keyword does not reach over a blank. -/
theorem keyword_suffix_append_iff {lead name : List Char} {c : Char} (hlast : lead.getLast? = some c) (hc : isBlank c = true) :
    importKeyword <:+ lead ++ name ↔ importKeyword <:+ name := by
  refine ⟨fun h => ?_, fun h => h.trans (List.suffix_append lead name)⟩
  rcases List.suffix_or_suffix_of_suffix h (List.suffix_append lead name) with hname | ⟨x, hx⟩
  · exact hname
  · obtain ⟨before, hbefore⟩ := h
    rw [← hx, ← List.append_assoc] at hbefore
    have hlead : before ++ x = lead := List.append_cancel_right hbefore
    have hnil : x = [] := by
      by_contra hne
      rw [← hlead, List.getLast?_append_of_ne_nil before hne] at hlast
      have hplain : (importKeyword.all fun c => !isBlank c) = true := by decide
      have hnot := List.all_eq_true.1 hplain c (hx ▸ List.mem_append_left _ (List.mem_of_getLast? hlast))
      rw [hc] at hnot
      cases hnot
    rw [hnil, List.nil_append] at hx
    exact hx ▸ List.suffix_rfl

/-- A line with one text between quotes imports a component's file if the text is the path of one, and follows the keyword. -/
theorem importsLegacyPath_iff {lead path : List Char} (hlead : '"' ∉ lead) (hpath : '"' ∉ path) :
    ImportsLegacyPath (lead ++ '"' :: path ++ ['"']) ↔ FollowsKeyword lead ∧ IsLegacyPath path := by
  constructor
  · rintro ⟨lead', path', after, h, hfollows, hpath', hlegacy⟩
    have hparts : [lead, path, []] = split '"' lead' ++ path' :: split '"' after := by
      have hright : split '"' (lead' ++ '"' :: path' ++ '"' :: after) = split '"' lead' ++ path' :: split '"' after := by
        rw [List.append_assoc, List.cons_append, split_append_cons, split_append_cons, split_of_not_mem hpath']
        rfl
      rw [← hright, ← h, List.append_assoc, List.cons_append, split_append_cons, split_append_cons, split_of_not_mem hlead,
        split_of_not_mem hpath]
      rfl
    have hjoin := join_split '"' lead'
    obtain ⟨x, xs, hx⟩ := List.exists_cons_of_ne_nil (split_ne_nil '"' lead')
    obtain ⟨y, ys, hy⟩ := List.exists_cons_of_ne_nil (split_ne_nil '"' after)
    rw [hx, hy] at hparts
    have hxs : xs = [] := by
      have hlength := congrArg List.length hparts
      simp only [List.length_cons, List.length_append, List.length_nil] at hlength
      exact List.length_eq_zero_iff.1 (by omega)
    rw [hx, hxs] at hjoin
    rw [hxs, List.cons_append, List.nil_append, List.cons.injEq, List.cons.injEq] at hparts
    obtain ⟨rfl, rfl, -⟩ := hparts
    obtain rfl : lead' = lead := hjoin.symm
    exact ⟨hfollows, hlegacy⟩
  · rintro ⟨hfollows, hlegacy⟩
    exact ⟨lead, path, [], rfl, hfollows, hpath, hlegacy⟩

namespace ImportDeclaration

variable {d : ImportDeclaration}

/-- No quote stands before the path of an import. -/
theorem quote_not_mem_lead {e : List Char × ImportSpec} (he : e ∈ d.leads) : '"' ∉ e.1 := by
  have hgap : ∀ {gap : List Char}, (∀ c ∈ gap, isBlank c = true) → '"' ∉ gap :=
    fun hblank hquote => absurd (hblank _ hquote) (by decide)
  have hname : ∀ spec : ImportSpec, '"' ∉ spec.name := fun spec hquote => (spec.name_plain _ hquote).2 rfl
  have hkeyword : '"' ∉ importKeyword := by decide
  cases d with
  | single gap spec hblank hnamed =>
    obtain rfl := List.mem_singleton.1 he
    simp only [List.mem_append, not_or]
    exact ⟨⟨⟨hkeyword, hgap hblank⟩, hname spec⟩, hgap spec.gap_blank⟩
  | group specs =>
    obtain ⟨spec, -, rfl⟩ := List.mem_map.1 he
    simp only [List.cons_append, List.mem_cons, List.mem_append, not_or]
    exact ⟨by decide, hname spec, hgap spec.gap_blank⟩

/-- What stands before the path of an import follows the keyword if the keyword, or a name that ends in it, is next to the path. -/
theorem followsKeyword_iff {e : List Char × ImportSpec} (he : e ∈ d.leads) : FollowsKeyword e.1 ↔ d.NextToKeyword e.2 := by
  have hnamed : ∀ {lead : List Char} {c : Char} (spec : ImportSpec), lead.getLast? = some c → isBlank c = true → spec.name ≠ [] →
      (FollowsKeyword (lead ++ spec.name ++ spec.gap) ↔ spec.gap ≠ [] ∧ importKeyword <:+ spec.name) := by
    intro lead c spec hlead hc hname
    obtain ⟨d, hd⟩ := Option.isSome_iff_exists.1 (List.getLast?_isSome.2 hname)
    have hlast : (lead ++ spec.name).getLast? = some d := by rw [List.getLast?_append_of_ne_nil lead hname, hd]
    rw [followsKeyword_append_iff hlast (spec.name_plain d (List.mem_of_getLast? hd)).1 spec.gap_blank,
      keyword_suffix_append_iff hlead hc]
  cases d with
  | single gap spec hblank happart =>
    obtain rfl := List.mem_singleton.1 he
    by_cases hname : spec.name = []
    · simp only [NextToKeyword, hname, spec.gap_of_unnamed hname, List.append_nil]
      rw [followsKeyword_append_iff (c := 't') rfl (by decide) hblank]
      exact and_iff_left (List.suffix_rfl)
    · obtain ⟨c, hc⟩ := Option.isSome_iff_exists.1 (List.getLast?_isSome.2 (happart hname))
      have hlast : (importKeyword ++ gap).getLast? = some c := by
        rw [List.getLast?_append_of_ne_nil importKeyword (happart hname), hc]
      simp only [NextToKeyword, if_neg hname]
      exact hnamed spec hlast (hblank c (List.mem_of_getLast? hc)) hname
  | group specs =>
    obtain ⟨spec, -, rfl⟩ := List.mem_map.1 he
    by_cases hname : spec.name = []
    · simp only [NextToKeyword, hname, spec.gap_of_unnamed hname, ne_eq, not_true_eq_false, false_and, iff_false]
      rintro ⟨before, blanks, h, -⟩
      have hkeyword : 'i' ∈ before ++ importKeyword ++ blanks :=
        List.mem_append_left _ (List.mem_append_right _ (by decide))
      rw [← h] at hkeyword
      exact absurd hkeyword (by decide)
    · have htab : ['\t'].getLast? = some '\t' := rfl
      exact hnamed spec htab (by decide) hname

/-- A declaration has a line that imports a component's file if that is the path of an import next to the keyword. -/
theorem exists_line_iff (d : ImportDeclaration) : (∃ l ∈ d.lines, ImportsLegacyPath l) ↔
    ∃ spec ∈ d.specs, d.NextToKeyword spec ∧ IsLegacyPath spec.path := by
  have hspecs : (∃ l ∈ d.specLines, ImportsLegacyPath l) ↔ ∃ spec ∈ d.specs, d.NextToKeyword spec ∧ IsLegacyPath spec.path := by
    have hlead : ∀ e ∈ d.leads, ImportsLegacyPath (e.1 ++ '"' :: e.2.path ++ ['"']) ↔
        d.NextToKeyword e.2 ∧ IsLegacyPath e.2.path := by
      intro e he
      rw [importsLegacyPath_iff (quote_not_mem_lead he) e.2.path_unquoted, followsKeyword_iff he]
    simp only [specLines, specs, List.mem_map, exists_exists_and_eq_and]
    exact exists_congr fun e => and_congr_right fun he => hlead e he
  have hunquoted : ∀ l : List Char, '"' ∉ l → ¬ImportsLegacyPath l := by
    rintro _ hquote ⟨lead, path, after, rfl, -⟩
    exact hquote (by simp)
  cases d with
  | single gap spec hblank happart => exact hspecs
  | group specs =>
    rw [← hspecs]
    have hopening := hunquoted (importKeyword ++ [' ', '(']) (by decide)
    have hclosing := hunquoted [')'] (by decide)
    simp only [lines, List.mem_append, List.mem_singleton, or_and_right, exists_or, exists_eq_left, hopening, hclosing, false_or,
      or_false]

end ImportDeclaration

/-! ## Checks -/

namespace Checker

variable {c : Checker}

/-- A check records an issue of the rule against imports of component files if a line imports one. -/
theorem exists_legacyImport_iff (hr : Rules.legacyImport ∈ c.registry.rules) (f : SourceFile) :
    (∃ i ∈ (c.check f .empty).issues, i.ruleId = Rules.legacyImport.id) ↔
      ∃ line ∈ lines f.content, ImportsLegacyPath line := by
  have hcompile : Matcher.compile r#"import\s+"[^"]*views/components/[^/"]+\.\w+""# = .ok Rules.legacyPath :=
    Rules.compile_expression (Rules.legacyImport, Rules.legacyPath) (List.mem_cons_self ..) _ rfl
  have hkind : f.kind ∈ Rules.legacyImport.fileKinds := by
    cases f.kind with
    | go => decide
    | templ => decide
  rw [exists_issue_iff hr]
  constructor
  · rintro ⟨-, -, regex, hregex, line, hline, hmatches⟩
    obtain rfl := Except.ok.inj (hcompile.symm.trans hregex)
    exact ⟨line, hline, Rules.matches_legacyPath_iff.1 hmatches⟩
  · rintro ⟨line, hline, himports⟩
    exact ⟨by decide, hkind, Rules.legacyPath, hcompile, line, hline, Rules.matches_legacyPath_iff.2 himports⟩

/-- A check of a file with an import declaration records an issue of the rule if a line elsewhere imports a component's file, or
the declaration does and has the path next to the keyword. -/
theorem exists_legacyImport_iff_of_declaration (hr : Rules.legacyImport ∈ c.registry.rules) {f : SourceFile}
    {d : ImportDeclaration} {before after : List (List Char)} (hlines : lines f.content = before ++ d.lines ++ after) :
    (∃ i ∈ (c.check f .empty).issues, i.ruleId = Rules.legacyImport.id) ↔
      (∃ line ∈ before ++ after, ImportsLegacyPath line) ∨
        ∃ spec ∈ d.specs, d.NextToKeyword spec ∧ IsLegacyPath spec.path := by
  rw [exists_legacyImport_iff hr, hlines, ← d.exists_line_iff]
  simp only [List.mem_append, or_and_right, exists_or]
  exact or_right_comm

/-- Which imports of component files are found. A check of any file records an issue of the rule exactly if a line holds the path
of a component's file, between quotes and right after the keyword and blanks. So of an import declaration in the file it sees the
path of a single import without a name; it does not see the paths between parentheses and those that follow a name, unless the
name ends in the keyword. -/
theorem check_legacyImport (hr : Rules.legacyImport ∈ c.registry.rules) (f : SourceFile) :
    ((∃ i ∈ (c.check f .empty).issues, i.ruleId = Rules.legacyImport.id) ↔
      ∃ line ∈ lines f.content, ImportsLegacyPath line) ∧
    ∀ (d : ImportDeclaration) (before after : List (List Char)), lines f.content = before ++ d.lines ++ after →
      ((∃ i ∈ (c.check f .empty).issues, i.ruleId = Rules.legacyImport.id) ↔
        (∃ line ∈ before ++ after, ImportsLegacyPath line) ∨
          ∃ spec ∈ d.specs, d.NextToKeyword spec ∧ IsLegacyPath spec.path) :=
  ⟨exists_legacyImport_iff hr f, fun _ _ _ hlines => exists_legacyImport_iff_of_declaration hr hlines⟩

/-- The import of the file of a component. -/
def buttonImport : ImportSpec where
  name := []
  gap := []
  path := "x/views/components/button.templ".toList
  name_plain := by simp
  gap_blank := by simp
  gap_of_unnamed := fun _ => rfl
  path_unquoted := by decide

/-- The import as a declaration of its own. -/
def singleImport : ImportDeclaration :=
  .single [' '] buttonImport (List.forall_mem_singleton.2 (by decide)) (fun _ => List.cons_ne_nil _ _)

/-- A source file with a single import. -/
def singleFile : SourceFile :=
  ⟨⟨"a.go"⟩, .go, "package a\n\nimport \"x/views/components/button.templ\"\n".toList⟩

/-- The source file with the import between parentheses. -/
def groupFile : SourceFile :=
  ⟨⟨"a.go"⟩, .go, "package a\n\nimport (\n\t\"x/views/components/button.templ\"\n)\n".toList⟩

theorem isLegacyPath_buttonImport : IsLegacyPath buttonImport.path :=
  ⟨"x/".toList, "button".toList, "templ".toList, by decide, by decide, by decide, by decide, List.all_eq_true.1 (by decide)⟩

theorem legacyImport_mem (parser : SourceParser) : Rules.legacyImport ∈ (ofRegistry Rules.registry parser).registry.rules := by
  rw [registry_ofRegistry]
  decide

/-- The recommended rules find the single import. -/
theorem check_legacyImport_single :
    Rules.legacyImport ∈ (ofRegistry Rules.registry GoSource.parser).registry.rules ∧
    ∃ i ∈ ((ofRegistry Rules.registry GoSource.parser).check singleFile .empty).issues, i.ruleId = "no-legacy-import-path" := by
  have hlines : lines singleFile.content = ["package a".toList, []] ++ singleImport.lines ++ [[]] := by decide
  refine ⟨legacyImport_mem _, (((check_legacyImport (legacyImport_mem _) singleFile).2 _ _ _ hlines).2 (.inr ?_))⟩
  exact ⟨buttonImport, List.mem_cons_self .., List.cons_ne_nil _ _, isLegacyPath_buttonImport⟩

/-- The recommended rules do not find the import between parentheses. -/
theorem check_legacyImport_group :
    lines groupFile.content = ["package a".toList, []] ++ (ImportDeclaration.group [buttonImport]).lines ++ [[]] ∧
    IsLegacyPath buttonImport.path ∧
    ¬∃ i ∈ ((ofRegistry Rules.registry GoSource.parser).check groupFile .empty).issues, i.ruleId = "no-legacy-import-path" := by
  have hlines : lines groupFile.content =
      ["package a".toList, []] ++ (ImportDeclaration.group [buttonImport]).lines ++ [[]] := by decide
  refine ⟨hlines, isLegacyPath_buttonImport, fun hissue => ?_⟩
  rcases (exists_legacyImport_iff_of_declaration (legacyImport_mem _) hlines).1 hissue with ⟨line, hline, himports⟩ | hspec
  · obtain ⟨lead, path, after, rfl, -⟩ := himports
    have hquote : ∀ line ∈ ["package a".toList, []] ++ [[]], '"' ∉ line := by decide
    exact hquote _ hline (by simp)
  · obtain ⟨spec, hspec, hnext, -⟩ := hspec
    obtain rfl := List.mem_singleton.1 hspec
    exact hnext.1 rfl

end Checker

end ComponentAudit
