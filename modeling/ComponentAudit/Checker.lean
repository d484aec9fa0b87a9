import ComponentAudit.Syntax
import ComponentAudit.Text.Utf8
import ComponentAudit.TextRules

/-!
# Checking a file

All rules of a registry against one file: first those on syntax, then those on text, whatever came of the syntax check,
and last those on compilation, which follow the syntax check. A file that is not UTF-8 fails the syntax check, and the
rules on text look at what can be decoded.
-/

namespace ComponentAudit

/-- The rules of a scan, ready for use. -/
structure Checker where
  registry : Registry
  parser : SourceParser
  matchers : List Matcher
  invalidRules : List InvalidRule
  /-- The matchers are those of the registry, and the rest of its rules on text is left out. -/
  compiled : Matcher.ofRules registry.rules = (matchers, invalidRules)

namespace Checker

/-- Makes a registry ready for use. -/
def ofRegistry (registry : Registry) (parser : SourceParser) : Checker :=
  match h : Matcher.ofRules registry.rules with
  | (matchers, invalidRules) => { registry, parser, matchers, invalidRules, compiled := h }

/-- The rules of one kind that inspect a file. -/
def rulesOf (c : Checker) (kind : RuleKind) (f : SourceFile) : List Rule :=
  (c.registry.applicable f.kind).filter fun r => r.kind = kind

/-- Whether a rule asks for the syntax check of files of a kind. -/
def needsSyntax (c : Checker) (k : FileKind) : Bool :=
  (c.registry.applicable k).any fun r => r.kind = .syntaxCheck || r.kind = .compilation

/-- What a rule on syntax has to say. -/
def syntaxCall (f : SourceFile) (outcome : Except SyntaxFailure Unit) (r : Rule) : Collector.Call :=
  match outcome with
  | .ok () => .pass r.id
  | .error failure =>
    let p := failure.position
    .record (.ofRule r.id r.severity (f.point p.line p.column) s!"{r.message}: {failure.message}" failure.message
      r.suggestedFix)

/-- What a rule on compilation has to say. -/
def compilationCall (outcome : Except SyntaxFailure Unit) (r : Rule) : Collector.Call :=
  match outcome with
  | .ok () => .pass r.id
  | .error _ => .fail r.id

/-- What the rules have to say about a file with an outcome of its syntax check. -/
def callsFor (c : Checker) (f : SourceFile) (outcome : Except SyntaxFailure Unit) : List Collector.Call :=
  (c.rulesOf .syntaxCheck f).map (syntaxCall f outcome) ++ Matcher.allCalls c.matchers f ++
    (c.rulesOf .compilation f).map (compilationCall outcome)

/-- The outcome of the syntax check; without a rule that asks for it there is nothing to check. -/
def outcome (c : Checker) (f : SourceFile) : Except SyntaxFailure Unit :=
  if c.needsSyntax f.kind then checkSyntax c.parser f.kind f.content else .ok ()

/-- What the rules have to say about a file of text. -/
def calls (c : Checker) (f : SourceFile) : List Collector.Call :=
  c.callsFor f (c.outcome f)

/-- Checks a file of text, adding to what a collector holds. -/
def check (c : Checker) (f : SourceFile) (found : Collector) : Collector :=
  found.runAll (c.calls f)

/-- Checks a file of bytes below a root, into a collector of its own. -/
def checkBytes (c : Checker) (root path : Path) (kind : FileKind) (bytes : List UInt8) : Collector :=
  match Text.Utf8.decode? bytes with
  | some content => c.check (.ofPath path content root kind) .empty
  | none =>
    let f := SourceFile.ofPath path (Text.Utf8.decodeLossy bytes) root kind
    Collector.empty.runAll (c.callsFor f (.error (.ofBytes bytes (Text.Utf8.validLength bytes))))

end Checker

end ComponentAudit
