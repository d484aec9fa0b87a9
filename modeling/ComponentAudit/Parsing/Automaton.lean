import Std.Data.HashMap
import ComponentAudit.Parsing.Grammar

/-!
# The automaton of a grammar

The states that a parser can be in while it reads a text from left to right, with what to do in each of them at each
token. A state is a set of items: productions of which some steps are done, each with the tokens that may follow it.
Where the items of a state disagree, how tightly their steps bind decides; where that is left open, a state has several
actions at a token, and the parser follows all of them.

Sets of tokens are numbers, bit `t` being token `t`; the end of a text counts as one token more.
-/

namespace ComponentAudit.Parsing

/-- What a parser does in a state at a token. -/
inductive Action where
  /-- Takes the token and goes to a state; the token goes on with a repetition, or not. -/
  | shift (target : Nat) (repeats : Bool)
  /-- Takes the token, which may stand anywhere, and stays. -/
  | skip
  /-- Puts the last steps together as a rule, which has some weight; the steps may go by other names. -/
  | reduce (rule count : Nat) (weight : Int) (names : List (Option String))
  /-- The text is read. -/
  | accept
  /-- Leaves the token out, as the text cannot be read. -/
  | recover
  deriving Repr, DecidableEq

/-- A state: the actions by token, and the states after a rule. -/
structure AutomatonState where
  actions : List (Nat × List Action)
  targets : List (Nat × Nat)

/-- The automaton of a grammar. State `0` is for texts that cannot be read; state `1` is the one to start in. -/
structure Automaton where
  grammar : PlainGrammar
  states : Array AutomatonState

/-- A production on the way: the rule that it belongs to, how many steps are done, how tightly the last of them binds,
and the steps to come. -/
structure Item where
  rule : Nat
  done : Nat
  weight : Int
  rank : Option Int
  side : Option Side
  names : List (Option String)
  rest : List Step
  deriving DecidableEq, Hashable

namespace Item

/-- A production with no step done. -/
def start (rule : Nat) (p : Production) : Item :=
  ⟨rule, 0, p.weight, none, none, p.steps.map (·.name), p.steps⟩

/-- The item with one more step done. -/
def next (item : Item) : Item :=
  match item.rest with
  | [] => item
  | step :: rest => { item with done := item.done + 1, rank := step.rank, side := step.side, rest := rest }

/-- An item and those that it becomes, step by step. -/
def stages (item : Item) : List Step → List Item
  | [] => [item]
  | _ :: rest => item :: stages item.next rest

/-- The order in which a state lists its items. -/
def key (item : Item) : List Int :=
  [item.done, item.rule, item.weight, item.done + item.rest.length]

/-- Whether an item is listed no later than another one. -/
def notAfter (a b : Item) : Bool :=
  !decide (b.key < a.key)

end Item

/-! ## Items by number -/

/-- The items of a grammar by number, with what closing a state and stepping on needs to know of them. -/
structure ItemTable where
  items : Array Item
  /-- The number of the item with one more step done. -/
  next : Array Nat
  /-- By rule: the tokens that it can open with. -/
  first : Array Nat
  /-- By rule: the items that a state has once it waits for the rule, with tokens that may follow each, and whether what
  follows the rule may follow it too. -/
  opened : Array (List (Nat × Nat × Bool))

namespace PlainGrammar

/-- The number of tokens; the end of a text has this number. -/
def endOfText (g : PlainGrammar) : Nat :=
  g.tokens.size

/-- The productions of a rule; beyond the last rule stands one for a whole text. -/
def productionsOf (g : PlainGrammar) (rule : Nat) : List Production :=
  if rule = g.rules.size then [⟨[⟨.rule 0, none, none, none⟩], 0⟩]
  else match g.rules[rule]? with
    | some r => r.productions
    | none => []

/-- Whether a rule stands for a repetition. -/
def isRepetition (g : PlainGrammar) (rule : Nat) : Bool :=
  match g.rules[rule]? with
  | some r => r.repeats
  | none => false

/-- The set of one token. -/
def singleton (token : Nat) : Nat :=
  1 <<< token

/-- The tokens that a symbol can open with, as far as known for rules. -/
def firstOf (first : Array Nat) : Symbol → Nat
  | .token t => singleton t
  | .rule r => first.getD r 0

/-- Adds to the tokens that rules can open with, once around. -/
def growFirst (g : PlainGrammar) (first : Array Nat) : Array Nat :=
  first.mapIdx fun r known => (g.productionsOf r).foldl (fun known p =>
    match p.steps with
    | [] => known
    | step :: _ => known ||| firstOf first step.symbol) known

/-- The tokens that rules can open with. -/
def firstSets (g : PlainGrammar) : Array Nat :=
  Nat.repeat g.growFirst g.rules.size (Array.replicate g.rules.size 0)

/-- The rules that a state waits for once it waits for some rules, with tokens that may follow each, and whether what
follows the first one may follow it too; as far as the fuel goes. -/
def openRules (g : PlainGrammar) (first : Array Nat) : Nat → List (Nat × Nat × Bool) → List (Nat × Nat × Bool) →
    List (Nat × Nat × Bool)
  | 0, _, known => known
  | _, [], known => known
  | fuel + 1, (rule, follow, inherits) :: rest, known =>
    let (follow', inherits') := ((known.lookup rule).map fun (f, i) => (f ||| follow, i || inherits)).getD (follow, inherits)
    if known.lookup rule = some (follow', inherits') then openRules g first fuel rest known
    else
      let more := (g.productionsOf rule).filterMap fun p =>
        match p.steps with
        | [⟨.rule r, _, _, _⟩] => some (r, follow', inherits')
        | ⟨.rule r, _, _, _⟩ :: after :: _ => some (r, firstOf first after.symbol, false)
        | _ => none
      openRules g first fuel (more ++ rest) ((rule, follow', inherits') :: known.filter (·.1 ≠ rule))

end PlainGrammar

namespace ItemTable

/-- The items of a grammar by number. -/
def ofGrammar (g : PlainGrammar) : ItemTable :=
  let rules := List.range (g.rules.size + 1)
  let all := rules.flatMap fun rule => (g.productionsOf rule).flatMap fun p => (Item.start rule p).stages p.steps
  let items := (distinct all |>.mergeSort Item.notAfter).toArray
  let numbers := (items.mapIdx fun i item => (item, i)).foldl (fun m (item, i) => m.insert item i) (∅ : Std.HashMap Item Nat)
  let number (item : Item) : Nat := numbers.getD item 0
  let first := g.firstSets
  { items := items
    next := items.map fun item => number item.next
    first := first
    opened := ((List.range g.rules.size).map fun rule =>
      (g.openRules first (g.rules.size * g.rules.size) [(rule, 0, true)] []).flatMap fun (r, follow, inherits) =>
        (g.productionsOf r).map fun p => (number (Item.start r p), follow, inherits)).toArray }

end ItemTable

/-! ## States -/

/-- The items that a state is known by, in order, each with the tokens that may follow it. -/
structure Kernel where
  items : List (Nat × Nat)
  deriving DecidableEq

instance : Hashable Kernel :=
  ⟨fun k => k.items.foldl (fun h (item, follow) =>
    mixHash h (mixHash (hash item) (mixHash (hash (follow % 0x1000000000000)) (hash (follow >>> 48))))) 7⟩

namespace Kernel

/-- Adds an item with tokens that may follow it. -/
def insert (item follow : Nat) (k : Kernel) : Kernel :=
  ⟨go k.items⟩
where
  /-- Adds it to a list in order. -/
  go : List (Nat × Nat) → List (Nat × Nat)
    | [] => [(item, follow)]
    | (i, f) :: rest =>
      if item < i then (item, follow) :: (i, f) :: rest
      else if item = i then (i, f ||| follow) :: rest
      else (i, f) :: go rest

end Kernel

/-- Adds an item to the kernel that a symbol leads to; the symbols are in order. -/
def insertUnder (symbol item follow : Nat) : List (Nat × Kernel) → List (Nat × Kernel)
  | [] => [(symbol, ⟨[(item, follow)]⟩)]
  | (s, k) :: rest =>
    if symbol < s then (symbol, ⟨[(item, follow)]⟩) :: (s, k) :: rest
    else if symbol = s then (s, k.insert item follow) :: rest
    else (s, k) :: insertUnder symbol item follow rest

/-- An item of a state with the tokens that may follow it. -/
structure Entry where
  number : Nat
  item : Item
  follow : Nat

namespace Entry

/-- The item is done, and a token may follow it. -/
def endsBefore (e : Entry) (token : Nat) : Bool :=
  e.item.rest.isEmpty && e.follow.testBit token

/-- The item is on the way, and a token may go on with it. -/
def goesOnWith (first : Array Nat) (e : Entry) (token : Nat) : Bool :=
  match e.item.rest with
  | [] => false
  | step :: _ => e.item.done != 0 && (PlainGrammar.firstOf first step.symbol).testBit token

/-- How tightly the item binds to what follows. -/
def rank (e : Entry) : Int :=
  e.item.rank.getD 0

end Entry

namespace ItemTable

/-- The steps to come of an item. -/
def restOf (t : ItemTable) (number : Nat) : List Step :=
  match t.items[number]? with
  | some item => item.rest
  | none => []

/-- All items of a state, in order. -/
def close (t : ItemTable) (k : Kernel) : List Entry :=
  let add (follows : Array Nat) (item follow : Nat) : Array Nat := follows.modify item (· ||| follow)
  let follows := k.items.foldl (fun follows (number, follow) =>
    let follows := add follows number follow
    match t.restOf number with
    | ⟨.rule r, _, _, _⟩ :: rest =>
      let inherited := match rest with
        | [] => follow
        | after :: _ => PlainGrammar.firstOf t.first after.symbol
      (t.opened.getD r []).foldl (fun follows (opened, own, inherits) =>
        add follows opened (if inherits then own ||| inherited else own)) follows
    | _ => follows) (Array.replicate t.items.size 0)
  (t.items.zip follows).toList.zipIdx.filterMap fun ((item, follow), number) =>
    if follow = 0 then none else some ⟨number, item, follow⟩

/-- The kernels that the items of a state lead to at a token, or else after a rule. -/
def kernelsAfter (t : ItemTable) (index? : Symbol → Option Nat) (entries : List Entry) : List (Nat × Kernel) :=
  entries.foldl (fun kernels e =>
    match e.item.rest with
    | [] => kernels
    | step :: _ => match index? step.symbol with
      | some s => insertUnder s (t.next.getD e.number 0) e.follow kernels
      | none => kernels) []

end ItemTable

/-- What to do once an item is done. -/
def Item.action (start : Nat) (item : Item) : Action :=
  if item.rule = start then .accept else .reduce item.rule item.done item.weight item.names

/-- The actions of a state at a token, given where the token leads. The items that bind most tightly win. Between items that
are done and items that go on, the tighter ones win; where both bind as tightly, those that group to the left are done, and
those that group to the right go on. What is left undecided stays, and so does a repetition, which may always end. -/
def actionsAt (g : PlainGrammar) (first : Array Nat) (entries : List Entry) (target? : Option Nat) (token : Nat) :
    List Action :=
  let done := entries.filter (·.endsBefore token)
  let tightest := done.filter fun e => done.all fun other => other.rank ≤ e.rank
  let ends := tightest.map (·.item.action g.rules.size)
  match target?, tightest with
  | none, _ => ends
  | some target, [] => [.shift target false]
  | some target, e :: _ =>
    let onWay := entries.filter (·.goesOnWith first token)
    let involved := (entries.filter fun e => e.endsBefore token || e.goesOnWith first token).filterMap fun e =>
      if e.item.rule = g.rules.size then none else some e.item.rule
    if involved.all fun rule => g.isRepetition rule && involved.head? = some rule then ends ++ [.shift target true]
    else
      let tighter := onWay.any fun (other : Entry) => e.rank < other.rank
      let looser := onWay.any fun (other : Entry) => other.rank < e.rank
      let groupTo (side : Side) := tightest.all fun (e : Entry) => e.item.side = some side
      match tighter, looser with
      | true, false => [.shift target false]
      | false, true => ends
      | true, true => ends ++ [.shift target false]
      | false, false =>
        if groupTo .left then ends
        else if groupTo .right then [.shift target false]
        else ends ++ [.shift target false]

/-- Whether a token is a sign to go on from in a text that cannot be read: it does not take whatever comes, and is not
blank. -/
def Token.isSign (t : Token) : Bool :=
  t.priority == 0 && match t.shape with
    | .fixed s => !s.toList.all Text.isBlank
    | .described _ => true

namespace Automaton

/-- The states found so far: what each is known by, their numbers, and those that are worked out. -/
structure Progress where
  kernels : Array Kernel
  numbers : Std.HashMap Kernel Nat
  states : Array AutomatonState

/-- The number of a state, which may be a new one. -/
def Progress.number (kernel : Kernel) : StateM Progress Nat := do
  let p ← get
  match p.numbers[kernel]? with
  | some n => return n
  | none =>
    let n := p.kernels.size
    modify fun p => { p with kernels := p.kernels.push kernel, numbers := p.numbers.insert kernel n }
    return n

/-- The numbers of the states that symbols lead to. -/
def Progress.numbered (kernels : List (Nat × Kernel)) : StateM Progress (List (Nat × Nat)) :=
  kernels.mapM fun (symbol, kernel) => return (symbol, ← Progress.number kernel)

/-- Works out a state. -/
def Progress.work (g : PlainGrammar) (t : ItemTable) (kernel : Kernel) : StateM Progress Unit := do
  let entries := t.close kernel
  let shifts ← numbered (t.kernelsAfter (fun | .token i => some i | .rule _ => none) entries)
  let targets ← numbered (t.kernelsAfter (fun | .token _ => none | .rule i => some i) entries)
  let ends := (entries.filter (·.item.rest.isEmpty)).foldl (fun ends e => ends ||| e.follow) 0
  let actions := (List.range (g.tokens.size + 1)).filterMap fun token =>
    let target? := shifts.lookup token
    if target?.isSome || ends.testBit token then some (token, actionsAt g t.first entries target? token)
    else if g.extras.contains token then some (token, [.skip])
    else none
  modify fun p => { p with states := p.states.push ⟨actions, targets⟩ }

/-- Works out the states that are known but not worked out yet, as many as the fuel allows. -/
def Progress.workAll (g : PlainGrammar) (t : ItemTable) : Nat → Progress → Progress
  | 0, p => p
  | fuel + 1, p =>
    match p.kernels[p.states.size]? with
    | some kernel => workAll g t fuel ((work g t kernel).run p).2
    | none => p

/-- The state for texts that cannot be read. -/
def lost (g : PlainGrammar) : AutomatonState :=
  let signs := (List.range g.tokens.size).filter fun i => g.tokens[i]?.any Token.isSign
  ⟨(signs ++ [g.endOfText]).map fun token => (token, [.recover]), []⟩

/-- The automaton of a grammar, as far as the first `limit` states. -/
def ofGrammar (g : PlainGrammar) (limit : Nat) : Automaton :=
  let t := ItemTable.ofGrammar g
  let opening := (g.productionsOf g.rules.size).map fun p =>
    ((t.items.toList.idxOf (Item.start g.rules.size p)), PlainGrammar.singleton g.endOfText)
  let none : Kernel := ⟨[]⟩
  let kernels := #[none, ⟨opening⟩]
  let numbers := (∅ : Std.HashMap Kernel Nat) |>.insert none 0 |>.insert ⟨opening⟩ 1
  ⟨g, (Progress.workAll g t limit ⟨kernels, numbers, #[lost g]⟩).states⟩

/-- The actions of a state at a token. -/
def actions (a : Automaton) (state token : Nat) : List Action :=
  ((a.states[state]?.map (·.actions)).getD []).lookup token |>.getD []

/-- The state after a rule. -/
def afterRule (a : Automaton) (state rule : Nat) : Nat :=
  (((a.states[state]?.map (·.targets)).getD []).lookup rule).getD 0

/-- The state after a token, or `0` if the state does not take it. -/
def afterToken (a : Automaton) (state token : Nat) : Nat :=
  match (a.actions state token).getLast? with
  | some (.shift target _) => target
  | some .skip => state
  | _ => 0

end Automaton

end ComponentAudit.Parsing
