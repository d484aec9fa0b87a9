import ComponentAudit.Pattern.Expr

/-!
# How deep patterns are nested

Groups, classes in brackets, repetitions, concatenations and alternations are levels of a pattern, one within the other. A
pattern with too many levels is refused where the first part lies that is too deep.
-/

namespace ComponentAudit.Pattern

/-- Goes down one level if there is one left; else the stretch that opens it is too deep. -/
def level (span : Span) (inside : Nat → Option Span) : Nat → Option Span
  | 0 => some span
  | n + 1 => inside n

namespace ClassExpr

mutual

/-- The first part of a class that lies below a number of levels. -/
def below? : ClassExpr → Nat → Option Span
  | .literal _, _ | .range _ _, _ | .ascii _ _ _, _ | .short _ _ _, _ | .unicode _ _ _, _ | .union _ [], _ => none
  | .union span (item :: rest), levels => level span (fun n => below? item n <|> belowAmong? rest n) levels
  | .operator op left right, levels =>
    level (operator op left right).span (fun n => below? left n <|> below? right n) levels
  | .bracketed span _ inner, levels => level span (below? inner) levels

/-- The first part of some classes that lies below a number of levels. -/
def belowAmong? : List ClassExpr → Nat → Option Span
  | [], _ => none
  | item :: rest, levels => below? item levels <|> belowAmong? rest levels

end

end ClassExpr

namespace Expr

mutual

/-- The first part of a pattern that lies below a number of levels. -/
def below? : Expr → Nat → Option Span
  | .flags _ _, _ | .literal _, _ | .dot _, _ | .anchor _ _, _ | .concat _ [], _ | .alternation _ [], _ => none
  | .class c, levels => c.below? levels
  | .repetition span _ _ _ inner, levels => level span (below? inner) levels
  | .group span _ inner, levels => level span (below? inner) levels
  | .concat span (item :: rest), levels => level span (fun n => below? item n <|> belowAmong? rest n) levels
  | .alternation span (item :: rest), levels => level span (fun n => below? item n <|> belowAmong? rest n) levels

/-- The first part of some patterns that lies below a number of levels. -/
def belowAmong? : List Expr → Nat → Option Span
  | [], _ => none
  | item :: rest, levels => below? item levels <|> belowAmong? rest levels

end

end Expr

end ComponentAudit.Pattern
