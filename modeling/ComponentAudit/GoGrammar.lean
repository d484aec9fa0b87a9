import ComponentAudit.Parsing.Grammar

/-!
# The grammar of Go

The tokens and the rules of Go source files. Where a text can be read in several ways, as with a call and a conversion,
the rules say which reading weighs more; what is not a declaration is let in at the top level, to be refused with a
message of its own.
-/

namespace ComponentAudit.GoGrammar

open Parsing

/-! ## Tokens -/

section Tokens

open TokenExpr

/-- A decimal digit. -/
def decimalDigit : TokenExpr := char (.between '0' '9')

/-- An octal digit. -/
def octalDigit : TokenExpr := char (.between '0' '7')

/-- A hexadecimal digit. -/
def hexDigit : TokenExpr := oneOf "0123456789abcdefABCDEF"

/-- An underscore between digits, or none. -/
def gap : TokenExpr := optional (text "_")

/-- Digits with single underscores between them. -/
def digits (digit : TokenExpr) : TokenExpr :=
  seq digit (many (seq gap digit))

/-- A name. -/
def identifier : Token :=
  { Token.ofExpr "identifier" (seq (char .nameStart) (many (char .namePart))) with rank := 0 }

/-- A whole number to base two, eight, ten or sixteen. -/
def integer : TokenExpr :=
  choice [
    sequence [text "0", oneOf "bB", gap, digits (oneOf "01")],
    either (text "0") (seq (char (.between '1' '9')) (optional (seq gap (digits decimalDigit)))),
    sequence [text "0", optional (oneOf "oO"), gap, digits octalDigit],
    sequence [text "0", oneOf "xX", gap, digits hexDigit]]

/-- An exponent after one of two letters. -/
def exponent (letters : String) : TokenExpr :=
  sequence [oneOf letters, optional (oneOf "+-"), digits decimalDigit]

/-- A decimal number with a point or an exponent. -/
def decimalFloat : TokenExpr :=
  choice [
    sequence [digits decimalDigit, text ".", optional (digits decimalDigit), optional (exponent "eE")],
    seq (digits decimalDigit) (exponent "eE"),
    sequence [text ".", digits decimalDigit, optional (exponent "eE")]]

/-- A hexadecimal number with an exponent. -/
def hexFloat : TokenExpr :=
  let mantissa := choice [
    sequence [gap, digits hexDigit, text ".", optional (digits hexDigit)],
    seq gap (digits hexDigit),
    seq (text ".") (digits hexDigit)]
  sequence [text "0", oneOf "xX", mantissa, exponent "pP"]

/-- A whole number. -/
def intLiteral : Token := .ofExpr "int_literal" integer

/-- A number with a point or an exponent. -/
def floatLiteral : Token := .ofExpr "float_literal" (either decimalFloat hexFloat)

/-- An imaginary number. -/
def imaginaryLiteral : Token :=
  .ofExpr "imaginary_literal" (seq (choice [digits decimalDigit, integer, either decimalFloat hexFloat]) (text "i"))

/-- A character between quotes. -/
def runeLiteral : Token :=
  .ofExpr "rune_literal" (sequence [
    text "'",
    either (noneOf "'\\") (seq (text "\\") (choice [
      seq (text "x") (times 2 hexDigit), times 3 octalDigit, seq (text "u") (times 4 hexDigit),
      seq (text "U") (times 8 hexDigit), oneOf "abfnrtv\\'\""])),
    text "'"])

/-- What stands between back quotes. -/
def rawContent : Token :=
  { Token.ofExpr "raw_string_literal_content" (many (noneOf "`")) with priority := 1 }

/-- What stands between double quotes, up to the next escape. -/
def stringContent : Token :=
  { Token.ofExpr "interpreted_string_literal_content" (many1 (noneOf "\"\n\\")) with priority := 1, immediate := true }

/-- A character written with a backslash. -/
def escapeSequence : Token :=
  { Token.ofExpr "escape_sequence" (seq (text "\\") (choice [
      noneOf "xuU", sequence [decimalDigit, decimalDigit, optional decimalDigit],
      sequence [text "x", hexDigit, many1 hexDigit], seq (text "u") (times 4 hexDigit),
      seq (text "U") (times 8 hexDigit)])) with immediate := true }

/-- The double quote right after what it closes. -/
def closingQuote : Token :=
  { Token.ofText "\"" with rank := 3, immediate := true }

/-- A remark to the end of the line, or between `/*` and `*/`. -/
def comment : Token :=
  let toStar := seq (many (noneOf "*")) (many1 (text "*"))
  .ofExpr "comment" (either
    (seq (text "//") (many (noneOf "\n")))
    (sequence [text "/*", toStar, many (seq (noneOf "/*") toStar), text "/"]))

end Tokens

/-! ## Rules -/

open Form

/-- What ends a statement. -/
def terminator : Form :=
  choice [text "\n", text ";", text "\x00"]

/-- What a function gives back. -/
def result : Form :=
  optional (choice [rule "parameter_list", rule "_simple_type"])

/-- Operators that bind like a product. -/
def products : List String := ["*", "/", "%", "<<", ">>", "&", "&^"]

/-- Operators that bind like a sum. -/
def sums : List String := ["+", "-", "|", "^"]

/-- Operators that compare. -/
def comparisons : List String := ["==", "!=", "<", "<=", ">", ">="]

/-- An assignment, by itself or with an operator. -/
def assignmentOperator : Form :=
  choice ((products ++ sums).map (fun s => text (s ++ "=")) ++ [text "="])

/-- Two expressions with an operator of some rank between them. -/
def operation (rank : Int) (operators : List String) : Form :=
  leftward rank (sequence [rule "_expression", choice (operators.map text), rule "_expression"])

/-- Two expressions with an operator between them. -/
def binaryExpression : Form :=
  choice [operation 5 products, operation 4 sums, operation 3 comparisons, operation 2 ["&&"], operation 1 ["||"]]

/-- The grammar of source files. -/
def grammar : Grammar where
  rules := [
    ("source_file", sequence [
      many (choice [sequence [rule "_statement", terminator], sequence [rule "_top_level_declaration", terminator]]),
      optional (rule "_top_level_declaration")]),
    ("_top_level_declaration", choice [
      rule "package_clause", rule "function_declaration", rule "method_declaration", rule "import_declaration"]),
    ("package_clause", sequence [text "package", rule "_package_identifier"]),
    ("import_declaration", sequence [text "import", choice [rule "import_spec", rule "import_spec_list"]]),
    ("import_spec",
      sequence [
        optional (choice [rule "dot", rule "blank_identifier", rule "_package_identifier"]), rule "_string_literal"]),
    ("dot", text "."),
    ("blank_identifier", token (.word "blank_identifier" "_")),
    ("import_spec_list", sequence [
      text "(",
      optional (sequence [rule "import_spec", many (sequence [terminator, rule "import_spec"]), optional terminator]),
      text ")"]),
    ("_declaration", choice [rule "const_declaration", rule "type_declaration", rule "var_declaration"]),
    ("const_declaration", sequence [
      text "const",
      choice [
        rule "const_spec", sequence [text "(", many (sequence [rule "const_spec", terminator]), text ")"]]]),
    ("const_spec", leftward 0 (sequence [
      commaList (rule "identifier"),
      optional (sequence [optional (rule "_type"), text "=", rule "expression_list"])])),
    ("var_declaration", sequence [text "var", choice [rule "var_spec", rule "var_spec_list"]]),
    ("var_spec", sequence [
      commaList (rule "identifier"),
      choice [
        sequence [rule "_type", optional (sequence [text "=", rule "expression_list"])],
        sequence [text "=", rule "expression_list"]]]),
    ("var_spec_list", sequence [text "(", many (sequence [rule "var_spec", terminator]), text ")"]),
    ("function_declaration", rightward 1 (sequence [
      text "func", rule "identifier", optional (rule "type_parameter_list"), rule "parameter_list", result,
      optional (rule "block")])),
    ("method_declaration", rightward 1 (sequence [
      text "func", rule "parameter_list", rule "_field_identifier", rule "parameter_list", result,
      optional (rule "block")])),
    ("type_parameter_list",
      sequence [text "[", commaList (rule "type_parameter_declaration"), optional (text ","), text "]"]),
    ("type_parameter_declaration", sequence [commaList (rule "identifier"), rule "type_elem"]),
    ("parameter_list", sequence [
      text "(",
      optional (sequence [
        optional (commaList (choice [rule "parameter_declaration", rule "variadic_parameter_declaration"])),
        optional (text ",")]),
      text ")"]),
    ("parameter_declaration", sequence [optional (commaList (rule "identifier")), rule "_type"]),
    ("variadic_parameter_declaration", sequence [optional (rule "identifier"), text "...", rule "_type"]),
    ("type_alias", sequence [rule "_type_identifier", optional (rule "type_parameter_list"), text "=", rule "_type"]),
    ("type_declaration", sequence [
      text "type",
      choice [
        rule "type_spec", rule "type_alias",
        sequence [
          text "(", many (sequence [choice [rule "type_spec", rule "type_alias"], terminator]), text ")"]]]),
    ("type_spec", weighted 1 (sequence [rule "_type_identifier", optional (rule "type_parameter_list"), rule "_type"])),
    ("field_name_list", commaList (rule "_field_identifier")),
    ("expression_list", commaList (rule "_expression")),
    ("_type", choice [rule "_simple_type", rule "parenthesized_type"]),
    ("parenthesized_type", sequence [text "(", rule "_type", text ")"]),
    ("_simple_type", choice [
      weighted (-1) (rule "_type_identifier"), rule "generic_type", rule "qualified_type", rule "pointer_type",
      rule "struct_type", rule "interface_type", rule "array_type", rule "slice_type", rule "map_type",
      rule "channel_type", rule "function_type", rule "negated_type"]),
    ("generic_type", weighted 1 (sequence [
      choice [rule "_type_identifier", rule "qualified_type", rule "negated_type"], rule "type_arguments"])),
    ("type_arguments",
      weighted 2 (sequence [text "[", commaList (rule "type_elem"), optional (text ","), text "]"])),
    ("pointer_type", ranked 6 none (sequence [text "*", rule "_type"])),
    ("array_type", rightward 0 (sequence [text "[", rule "_expression", text "]", rule "_type"])),
    ("implicit_length_array_type", sequence [text "[", text "...", text "]", rule "_type"]),
    ("slice_type", rightward 0 (sequence [text "[", text "]", rule "_type"])),
    ("struct_type", sequence [text "struct", rule "field_declaration_list"]),
    ("negated_type", leftward 0 (sequence [text "~", rule "_type"])),
    ("field_declaration_list", sequence [
      text "\x7b",
      optional (sequence [
        rule "field_declaration", many (sequence [terminator, rule "field_declaration"]), optional terminator]),
      text "\x7d"]),
    ("field_declaration", sequence [
      choice [
        sequence [commaList (rule "_field_identifier"), rule "_type"],
        sequence [optional (text "*"), choice [rule "_type_identifier", rule "qualified_type", rule "generic_type"]]],
      optional (rule "_string_literal")]),
    ("interface_type", sequence [
      text "interface", text "\x7b",
      optional (sequence [
        rule "_interface_elem", many (sequence [terminator, rule "_interface_elem"]), optional terminator]),
      text "\x7d"]),
    ("_interface_elem", choice [rule "method_elem", rule "type_elem"]),
    ("method_elem", sequence [rule "_field_identifier", rule "parameter_list", result]),
    ("type_elem", sequence [rule "_type", many (sequence [text "|", rule "_type"])]),
    ("map_type", rightward 0 (sequence [text "map", text "[", rule "_type", text "]", rule "_type"])),
    ("channel_type", leftward 0 (choice [
      sequence [text "chan", rule "_type"], sequence [text "chan", text "<-", rule "_type"],
      ranked 6 none (sequence [text "<-", text "chan", rule "_type"])])),
    ("function_type", rightward 0 (sequence [text "func", rule "parameter_list", result])),
    ("block", sequence [text "\x7b", optional (rule "statement_list"), text "\x7d"]),
    ("statement_list", choice [
      sequence [
        rule "_statement", many (sequence [terminator, rule "_statement"]),
        optional (sequence [terminator, optional (rule "empty_labeled_statement")])],
      rule "empty_labeled_statement"]),
    ("_statement", choice [
      rule "_declaration", rule "_simple_statement", rule "return_statement", rule "go_statement",
      rule "defer_statement", rule "if_statement", rule "for_statement", rule "expression_switch_statement",
      rule "type_switch_statement", rule "select_statement", rule "labeled_statement",
      rule "fallthrough_statement", rule "break_statement", rule "continue_statement", rule "goto_statement",
      rule "block", rule "empty_statement"]),
    ("empty_statement", text ";"),
    ("_simple_statement", choice [
      rule "expression_statement", rule "send_statement", rule "inc_statement", rule "dec_statement",
      rule "assignment_statement", rule "short_var_declaration"]),
    ("expression_statement", rule "_expression"),
    ("send_statement", sequence [rule "_expression", text "<-", rule "_expression"]),
    ("receive_statement",
      sequence [optional (sequence [rule "expression_list", choice [text "=", text ":="]]), rule "_expression"]),
    ("inc_statement", sequence [rule "_expression", text "++"]),
    ("dec_statement", sequence [rule "_expression", text "--"]),
    ("assignment_statement", sequence [rule "expression_list", assignmentOperator, rule "expression_list"]),
    ("short_var_declaration", sequence [rule "expression_list", text ":=", rule "expression_list"]),
    ("labeled_statement", sequence [called "label_name" (rule "identifier"), text ":", rule "_statement"]),
    ("empty_labeled_statement", sequence [called "label_name" (rule "identifier"), text ":"]),
    ("fallthrough_statement", leftward 0 (text "fallthrough")),
    ("break_statement", sequence [text "break", optional (called "label_name" (rule "identifier"))]),
    ("continue_statement", sequence [text "continue", optional (called "label_name" (rule "identifier"))]),
    ("goto_statement", sequence [text "goto", called "label_name" (rule "identifier")]),
    ("return_statement", sequence [text "return", optional (rule "expression_list")]),
    ("go_statement", sequence [text "go", rule "_expression"]),
    ("defer_statement", sequence [text "defer", rule "_expression"]),
    ("if_statement", sequence [
      text "if", optional (sequence [rule "_simple_statement", text ";"]), rule "_expression", rule "block",
      optional (sequence [text "else", choice [rule "block", rule "if_statement"]])]),
    ("for_statement", sequence [
      text "for", optional (choice [rule "_expression", rule "for_clause", rule "range_clause"]), rule "block"]),
    ("for_clause", sequence [
      optional (rule "_simple_statement"), text ";", optional (rule "_expression"), text ";",
      optional (rule "_simple_statement")]),
    ("range_clause", sequence [
      optional (sequence [rule "expression_list", choice [text "=", text ":="]]), text "range",
      rule "_expression"]),
    ("expression_switch_statement", sequence [
      text "switch", optional (sequence [rule "_simple_statement", text ";"]), optional (rule "_expression"),
      text "\x7b", many (choice [rule "expression_case", rule "default_case"]), text "\x7d"]),
    ("expression_case",
      sequence [text "case", rule "expression_list", text ":", optional (rule "statement_list")]),
    ("default_case", sequence [text "default", text ":", optional (rule "statement_list")]),
    ("type_switch_statement", sequence [
      text "switch", rule "_type_switch_header", text "\x7b",
      many (choice [rule "type_case", rule "default_case"]), text "\x7d"]),
    ("_type_switch_header", sequence [
      optional (sequence [rule "_simple_statement", text ";"]),
      optional (sequence [rule "expression_list", text ":="]), rule "_expression", text ".", text "(",
      text "type", text ")"]),
    ("type_case", sequence [text "case", commaList (rule "_type"), text ":", optional (rule "statement_list")]),
    ("select_statement", sequence [
      text "select", text "\x7b", many (choice [rule "communication_case", rule "default_case"]), text "\x7d"]),
    ("communication_case", sequence [
      text "case", choice [rule "send_statement", rule "receive_statement"], text ":",
      optional (rule "statement_list")]),
    ("_expression", choice [
      rule "unary_expression", rule "binary_expression", rule "selector_expression", rule "index_expression",
      rule "slice_expression", rule "call_expression", rule "type_assertion_expression",
      rule "type_conversion_expression", rule "type_instantiation_expression", rule "identifier",
      called "identifier" (choice [text "new", text "make"]), rule "composite_literal", rule "func_literal",
      rule "_string_literal", rule "int_literal", rule "float_literal", rule "imaginary_literal", rule "rune_literal",
      rule "nil", rule "true", rule "false", rule "iota", rule "parenthesized_expression"]),
    ("parenthesized_expression", sequence [text "(", rule "_expression", text ")"]),
    ("call_expression", ranked 7 none (choice [
      sequence [called "identifier" (choice [text "new", text "make"]), rule "special_argument_list"],
      sequence [rule "_expression", optional (rule "type_arguments"), rule "argument_list"]])),
    ("variadic_argument", rightward 0 (sequence [rule "_expression", text "..."])),
    ("special_argument_list", sequence [
      text "(",
      optional (sequence [rule "_type", many (sequence [text ",", rule "_expression"]), optional (text ",")]),
      text ")"]),
    ("argument_list", sequence [
      text "(",
      optional (sequence [
        choice [rule "_expression", rule "variadic_argument"],
        many (sequence [text ",", choice [rule "_expression", rule "variadic_argument"]]), optional (text ",")]),
      text ")"]),
    ("selector_expression", ranked 7 none (sequence [rule "_expression", text ".", rule "_field_identifier"])),
    ("index_expression", ranked 7 none (sequence [rule "_expression", text "[", rule "_expression", text "]"])),
    ("slice_expression", ranked 7 none (sequence [
      rule "_expression", text "[",
      choice [
        sequence [optional (rule "_expression"), text ":", optional (rule "_expression")],
        sequence [optional (rule "_expression"), text ":", rule "_expression", text ":", rule "_expression"]],
      text "]"])),
    ("type_assertion_expression",
      ranked 7 none (sequence [rule "_expression", text ".", text "(", rule "_type", text ")"])),
    ("type_conversion_expression",
      weighted (-1) (sequence [rule "_type", text "(", rule "_expression", optional (text ","), text ")"])),
    ("type_instantiation_expression",
      weighted (-1) (sequence [rule "_type", text "[", commaList (rule "_type"), optional (text ","), text "]"])),
    ("composite_literal", ranked (-1) none (sequence [
      choice [
        rule "map_type", rule "slice_type", rule "array_type", rule "implicit_length_array_type",
        rule "struct_type", rule "_type_identifier", rule "generic_type", rule "qualified_type"],
      rule "literal_value"])),
    ("literal_value", sequence [
      text "\x7b",
      optional (sequence [
        optional (commaList (choice [rule "literal_element", rule "keyed_element"])), optional (text ",")]),
      text "\x7d"]),
    ("literal_element", choice [rule "_expression", rule "literal_value"]),
    ("keyed_element", sequence [rule "literal_element", text ":", rule "literal_element"]),
    ("func_literal", sequence [text "func", rule "parameter_list", result, rule "block"]),
    ("unary_expression", ranked 6 none (sequence [
      choice [text "+", text "-", text "!", text "^", text "*", text "&", text "<-"], rule "_expression"])),
    ("binary_expression", binaryExpression),
    ("qualified_type", sequence [rule "_package_identifier", text ".", rule "_type_identifier"]),
    ("identifier", token identifier),
    ("_type_identifier", called "type_identifier" (rule "identifier")),
    ("_field_identifier", called "field_identifier" (rule "identifier")),
    ("_package_identifier", called "package_identifier" (rule "identifier")),
    ("_string_literal", choice [rule "raw_string_literal", rule "interpreted_string_literal"]),
    ("raw_string_literal", sequence [text "`", token rawContent, text "`"]),
    ("interpreted_string_literal", sequence [
      text "\"", many (choice [token stringContent, rule "escape_sequence"]),
      choice [text "\"", token closingQuote]]),
    ("escape_sequence", token escapeSequence),
    ("int_literal", token intLiteral),
    ("float_literal", token floatLiteral),
    ("imaginary_literal", token imaginaryLiteral),
    ("rune_literal", token runeLiteral),
    ("nil", token (.word "nil" "nil")),
    ("true", token (.word "true" "true")),
    ("false", token (.word "false" "false")),
    ("iota", token (.word "iota" "iota")),
    ("comment", token comment)]
  inlined := [
    "_type", "_type_identifier", "_field_identifier", "_package_identifier", "_top_level_declaration", "_string_literal",
    "_interface_elem"]
  hidden := [
    "_top_level_declaration", "_declaration", "_type", "_simple_type", "_interface_elem", "_statement", "_simple_statement",
    "_type_switch_header", "_expression", "_type_identifier", "_field_identifier", "_package_identifier", "_string_literal"]
  extras := [comment]
  names := identifier

end ComponentAudit.GoGrammar
