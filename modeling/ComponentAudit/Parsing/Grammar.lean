import ComponentAudit.Parsing.Token

/-!
# Grammars

The rules of a language as forms over tokens and other rules, and the productions that they stand for: sequences of
tokens and rules without choices. A repetition becomes a rule of its own, and the rules to be spelled out in place are.
-/

namespace ComponentAudit.Parsing

/-- The side on which operators of one rank group. -/
inductive Side where
  | left
  | right
  deriving Repr, DecidableEq, Hashable

/-- What a rule of a language says. -/
inductive Form where
  | blank
  | token (t : Token)
  | rule (name : String)
  | seq (a b : Form)
  | either (a b : Form)
  /-- A form, once or more often. -/
  | many1 (a : Form)
  /-- A form that binds as tightly as said, and groups to a side. -/
  | ranked (rank : Int) (side : Option Side) (a : Form)
  /-- A form to be preferred, where a text can be read in several ways, by as much as said. -/
  | weighted (weight : Int) (a : Form)
  /-- A form whose tokens go by another name. -/
  | called (name : String) (a : Form)
  deriving Repr, DecidableEq

namespace Form

/-- Some forms, one after another. -/
def sequence : List Form → Form
  | [] => blank
  | [a] => a
  | a :: rest => seq a (sequence rest)

/-- One of some forms. -/
def choice : List Form → Form
  | [] => blank
  | [a] => a
  | a :: rest => either a (choice rest)

/-- A form or nothing. -/
def optional (a : Form) : Form :=
  either a blank

/-- A form, any number of times. -/
def many (a : Form) : Form :=
  either (many1 a) blank

/-- The text of a token. -/
def text (s : String) : Form :=
  token (.ofText s)

/-- A form, once or more often, with commas between. -/
def commaList (a : Form) : Form :=
  seq a (many (seq (text ",") a))

/-- A form that groups to the left. -/
def leftward (rank : Int) (a : Form) : Form :=
  ranked rank (some .left) a

/-- A form that groups to the right. -/
def rightward (rank : Int) (a : Form) : Form :=
  ranked rank (some .right) a

/-- The tokens of a form, in order. -/
def tokens : Form → List Token
  | token t => [t]
  | blank | rule _ => []
  | seq a b | either a b => a.tokens ++ b.tokens
  | many1 a | ranked _ _ a | weighted _ a | called _ a => a.tokens

/-- The forms without choices that a form stands for. -/
def variants : Form → List Form
  | either a b => a.variants ++ b.variants
  | seq a b => a.variants.flatMap fun x => b.variants.map fun y => seq x y
  | ranked rank side a => a.variants.map (ranked rank side)
  | weighted weight a => a.variants.map (weighted weight)
  | called name a => a.variants.map (called name)
  | a => [a]

end Form

/-- A language: rules by name, the first of which is for whole texts. -/
structure Grammar where
  rules : List (String × Form)
  /-- The rules that are spelled out wherever they are named. -/
  inlined : List String
  /-- The rules that are no nodes in a tree; their parts stand in their place. -/
  hidden : List String
  /-- The tokens that may stand anywhere. -/
  extras : List Token
  /-- The token for names. -/
  names : Token

/-! ## Productions -/

/-- A token or a rule, by number. -/
inductive Symbol where
  | token (index : Nat)
  | rule (index : Nat)
  deriving Repr, DecidableEq, Hashable

/-- A symbol within a production, how tightly it binds to what follows it, and the name that it goes by. -/
structure Step where
  symbol : Symbol
  rank : Option Int
  side : Option Side
  name : Option String
  deriving Repr, DecidableEq, Hashable

/-- A sequence of symbols that a rule can stand for. -/
structure Production where
  steps : List Step
  weight : Int
  deriving Repr, DecidableEq

/-- The larger of two weights, whatever their signs; the first of equal ones. -/
def heavier (a b : Int) : Int :=
  if b.natAbs > a.natAbs then b else a

/-- A rule with its productions. -/
structure PlainRule where
  name : String
  /-- The rule is a node in a tree. -/
  visible : Bool
  /-- The rule stands for a repetition. -/
  repeats : Bool
  productions : List Production
  deriving Repr

/-- A language by numbers: its tokens, and rules without choices. -/
structure PlainGrammar where
  tokens : Array Token
  rules : Array PlainRule
  extras : List Nat
  names : Nat

/-- The numbers of tokens and rules. -/
structure Numbering where
  tokens : List Token
  /-- What a name of a rule stands for. -/
  rules : List (String × Symbol)

/-- Values without repetitions, in order. -/
def distinct {α : Type} [BEq α] (l : List α) : List α :=
  (l.foldl (fun seen a => if seen.contains a then seen else a :: seen) []).reverse

/-- Changes the last of some values. -/
def mapLast {α : Type} (f : α → α) : List α → List α
  | [] => []
  | [a] => [f a]
  | a :: rest => a :: mapLast f rest

namespace Form

/-- A form without repetitions; each becomes a rule, and equal ones the same rule. The rules so far are given with what
they repeat. -/
def plain (owner : String) : Form → StateM (List (Form × String)) Form
  | seq a b => return seq (← a.plain owner) (← b.plain owner)
  | either a b => return either (← a.plain owner) (← b.plain owner)
  | ranked rank side a => return ranked rank side (← a.plain owner)
  | weighted weight a => return weighted weight (← a.plain owner)
  | called name a => return called name (← a.plain owner)
  | many1 a => do
    let repeated ← a.plain owner
    let known ← get
    match known.lookup repeated with
    | some name => return rule name
    | none =>
      let name := s!"{owner} {known.length}"
      set (known ++ [(repeated, name)])
      return rule name
  | a => return a

/-- The steps of a form without choices. The last one of a ranked form binds to what follows it as if the form were not
ranked, unless nothing follows. -/
def steps (numbers : Numbering) (rank : Option Int) (side : Option Side) (name : Option String) (atEnd : Bool) :
    Form → List Step
  | seq a b => a.steps numbers rank side name false ++ b.steps numbers rank side name atEnd
  | ranked inner innerSide a =>
    let steps := a.steps numbers (some inner) (innerSide <|> side) name atEnd
    if atEnd then steps
    else mapLast (fun s => { s with rank := rank, side := if innerSide.isSome then side else s.side }) steps
  | weighted _ a => a.steps numbers rank side name atEnd
  | called inner a => a.steps numbers rank side (some inner) atEnd
  | token t => [⟨.token (numbers.tokens.idxOf t), rank, side, name⟩]
  | rule r => ((numbers.rules.lookup r).map fun s => Step.mk s rank side name).toList
  | blank | either _ _ | many1 _ => []

/-- The heaviest weight within a form. -/
def weightFrom (weight : Int) : Form → Int
  | weighted inner a => a.weightFrom (heavier weight inner)
  | seq a b | either a b => b.weightFrom (a.weightFrom weight)
  | many1 a | ranked _ _ a | called _ a => a.weightFrom weight
  | blank | token _ | rule _ => weight

end Form

namespace Grammar

/-- The tokens of a grammar as often as they occur, in the order of the rules. -/
def occurrences (g : Grammar) : List Token :=
  g.rules.flatMap fun rule => rule.2.tokens

/-- The token that a rule is only another name of: it stands nowhere else. -/
def soleToken? (g : Grammar) : Form → Option Token
  | .token t => if g.occurrences.count t = 1 then some t else none
  | _ => none

/-- The rules without repetitions, and those that stand for repetitions. -/
def plainForms (g : Grammar) : List (String × Form) × List (String × Form) :=
  let kept := g.rules.filter fun rule => (g.soleToken? rule.2).isNone
  let expand : StateM (List (Form × String)) (List (String × Form)) :=
    kept.mapM fun rule => return (rule.1, ← rule.2.plain rule.1)
  let (forms, repeats) := expand.run []
  (forms, repeats.map fun (repeated, name) => (name, .either (.seq (.rule name) (.rule name)) repeated))

/-- The ways to spell out some steps in which a rule to be inlined is named; it names no such rule itself. -/
def spellOut (inlined : Nat → Option (List Production)) : List Step → List Production
  | [] => [⟨[], 0⟩]
  | step :: rest =>
    let heads : List Production := match step.symbol with
      | .rule r => match inlined r with
        | some productions => productions.map fun p =>
          let closed (s : Step) : Step := { s with rank := s.rank <|> step.rank, side := s.side <|> step.side }
          { p with steps := mapLast closed p.steps }
        | none => [⟨[step], 0⟩]
      | .token _ => [⟨[step], 0⟩]
    heads.flatMap fun head => (spellOut inlined rest).map fun tail =>
      ⟨head.steps ++ tail.steps, heavier head.weight tail.weight⟩

/-- The grammar by numbers. -/
def toPlain (g : Grammar) : PlainGrammar :=
  let tokens := distinct g.occurrences
  let (forms, repeats) := g.plainForms
  let all := forms ++ repeats
  let renamed := g.rules.filterMap fun (name, form) => (g.soleToken? form).map fun t => (name, Symbol.token (tokens.idxOf t))
  let numbers : Numbering := ⟨tokens, renamed ++ all.mapIdx fun i rule => (rule.1, Symbol.rule i)⟩
  let productions := (all.map fun (_, form) => distinct (form.variants.map fun v =>
    Production.mk (v.steps numbers none none none true) (v.weightFrom 0))).toArray
  let inlined (r : Nat) : Option (List Production) :=
    match all[r]? with
    | some rule => if g.inlined.contains rule.1 then productions[r]? else none
    | none => none
  { tokens := tokens.toArray
    rules := (all.mapIdx fun i rule => {
      name := rule.1
      visible := i < forms.length && !g.hidden.contains rule.1
      repeats := forms.length ≤ i
      productions := distinct ((productions.getD i []).flatMap fun p =>
        (spellOut inlined p.steps).map fun q => { q with weight := heavier p.weight q.weight }) }).toArray
    extras := g.extras.map tokens.idxOf
    names := tokens.idxOf g.names }

end Grammar

end ComponentAudit.Parsing
