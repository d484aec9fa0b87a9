import ComponentAudit.Registry

/-!
# The built-in rules

The rules for a tree whose components have moved from a path per file to the namespaces `atoms` and `molecules`, and to
structures for their properties. The order is that of evaluation.
-/

namespace ComponentAudit.Rules

/-- How files import the atoms. -/
def atomsImport : String := "\"github.com/niiniyare/ruun/views/components/atoms\""

/-- How files import the molecules. -/
def moleculesImport : String := "\"github.com/niiniyare/ruun/views/components/molecules\""

/-- Source files have to parse. -/
def goSyntax : Rule :=
  { id := "valid-structured-syntax"
    name := "Valid Go Syntax"
    description := "All Go files should have valid syntax"
    kind := .syntaxCheck
    required := true
    fileKinds := [.go]
    message := "Go file has syntax errors" }

/-- Templates have to have a sound outline. -/
def templSyntax : Rule :=
  { id := "valid-template-syntax"
    name := "Valid Templ Syntax"
    description := "All templ files should have balanced braces and well-formed components"
    kind := .syntaxCheck
    required := true
    fileKinds := [.templ]
    message := "Templ file has syntax errors" }

/-- No import names the file of a component. -/
def legacyImport : Rule :=
  { id := "no-legacy-import-path"
    name := "No Legacy Import Paths"
    description := "Should not import old component file paths"
    kind := .pattern r#"import\s+"[^"]*views/components/[^/"]+\.\w+""#
    required := true
    fileKinds := [.go, .templ]
    message := "Found import of legacy component path - should use atoms/molecules/organisms"
    suggestedFix := some "Update import to use atoms/molecules/organisms package" }

/-- A template that uses atoms imports them. -/
def atomsImported : Rule :=
  { id := "namespace-import-present"
    name := "Atoms Import Present"
    description := "Files using atoms should import the atoms package"
    kind := .importRequirement r"@atoms\.\w+" atomsImport
    required := true
    fileKinds := [.templ]
    message := "Using atoms components but missing import"
    suggestedFix := some ("Add: import " ++ atomsImport) }

/-- A template that uses molecules imports them. -/
def moleculesImported : Rule :=
  { id := "molecules-import-present"
    name := "Molecules Import Present"
    description := "Files using molecules should import the molecules package"
    kind := .importRequirement r"@molecules\.\w+" moleculesImport
    required := true
    fileKinds := [.templ]
    message := "Using molecules components but missing import"
    suggestedFix := some ("Add: import " ++ moleculesImport) }

/-- Buttons take a structure; a text as first argument is the old form of call. -/
def buttonProps : Rule :=
  { id := "button-props-struct"
    name := "Button Uses Props Struct"
    description := "Button components should use a props struct"
    kind := .pattern r#"@atoms\.Button\(\s*""#
    required := true
    fileKinds := [.templ]
    message := "Button should use ButtonProps struct"
    suggestedFix := some "Use @atoms.Button(atoms.ButtonProps\x7b...\x7d)" }

/-- Form fields take a structure. -/
def formFieldProps : Rule :=
  { id := "form-field-props-struct"
    name := "FormField Uses Props Struct"
    description := "FormField components should use a props struct"
    kind := .pattern r#"@molecules\.FormField\(\s*""#
    required := true
    fileKinds := [.templ]
    message := "FormField should use FormFieldProps struct"
    suggestedFix := some "Use @molecules.FormField(molecules.FormFieldProps\x7b...\x7d)" }

/-- Inputs take a structure. -/
def inputProps : Rule :=
  { id := "input-props-struct"
    name := "Input Uses Props Struct"
    description := "Input components should use a props struct"
    kind := .pattern r#"@atoms\.Input\(\s*""#
    required := true
    fileKinds := [.templ]
    message := "Input should use InputProps struct"
    suggestedFix := some "Use @atoms.Input(atoms.InputProps\x7b...\x7d)" }

/-- No theme is looked up while a page is made. -/
def themeLookup : Rule :=
  { id := "no-dynamic-theme-lookup"
    name := "No theme.Get() Calls"
    description := "Should not use dynamic theme.Get() calls"
    kind := .pattern r"theme\.Get\("
    required := true
    fileKinds := [.go, .templ]
    message := "Found theme.Get() call - should use compiled CSS classes"
    suggestedFix := some "Use compiled CSS classes instead of theme.Get()" }

/-- Colours come from the theme. -/
def hardcodedColour : Rule :=
  { id := "no-hardcoded-color-class"
    name := "No Hardcoded Colors"
    description := "Should not use hardcoded Tailwind color classes"
    kind := .pattern r#"class="[^"]*(?:text-red-|bg-blue-|border-green-)\d+"#
    fileKinds := [.templ]
    message := "Found hardcoded color - should use theme tokens"
    suggestedFix := some "Use theme tokens like text-error, bg-primary" }

/-- Requests from a page are declared by properties. -/
def htmxProps : Rule :=
  { id := "htmx-via-props"
    name := "HTMX via Props"
    description := "HTMX attributes should be passed via component props"
    kind := .pattern r#"hx-(?:post|get|put|delete)=""#
    fileKinds := [.templ]
    message := "HTMX attribute found in template - should pass via props"
    suggestedFix := some "Pass HTMX attributes via component props" }

/-- Behaviour on a page is declared by properties. -/
def alpineProps : Rule :=
  { id := "alpine-via-props"
    name := "Alpine.js via Props"
    description := "Alpine directives should be passed via component props"
    kind := .pattern r#"x-(?:data|show|if|for|on)=""#
    fileKinds := [.templ]
    message := "Alpine directive found in template - should pass via props"
    suggestedFix := some "Pass Alpine directives via component props" }

/-- Templates are fit for generating code. -/
def templGenerates : Rule :=
  { id := "template-generates"
    name := "Templ Files Generate"
    description := "Templ files should generate Go code successfully"
    kind := .compilation
    required := true
    fileKinds := [.templ]
    message := "Templ file failed to generate Go code" }

/-- Source files are fit for compilation. -/
def goBuilds : Rule :=
  { id := "source-builds"
    name := "Go Code Builds"
    description := "Go code should compile successfully"
    kind := .compilation
    required := true
    fileKinds := [.go]
    message := "Go code failed to compile" }

/-- The rules on syntax. -/
def syntaxRules : List Rule := [goSyntax, templSyntax]

/-- The rules on imports. -/
def importRules : List Rule := [legacyImport, atomsImported, moleculesImported]

/-- The rules on the use of components. -/
def componentRules : List Rule :=
  [buttonProps, formFieldProps, inputProps, themeLookup, hardcodedColour, htmxProps, alpineProps]

/-- The rules on compilation. -/
def compilationRules : List Rule := [templGenerates, goBuilds]

/-- All built-in rules. -/
def builtin : List Rule := syntaxRules ++ importRules ++ componentRules ++ compilationRules

/-- The registry of all built-in rules. -/
def registry : Registry := ⟨builtin, by decide⟩

/-- The built-in rules form a registry. -/
theorem ofRules_builtin : Registry.ofRules builtin = .ok registry := by rfl

end ComponentAudit.Rules
