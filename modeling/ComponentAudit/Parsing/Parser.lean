import ComponentAudit.Parsing.Stack

/-!
# The parser

Reads a text by the automaton of its language, all readings side by side. A reading that cannot take the next token is
paused; once every reading is, the best one goes on: it may take a token to be missing, go back to a state below that can
take the next token and drop what lies between, or pass over the token. So every text has a tree, and texts that are not in
the language have one with errors in it.
-/

namespace ComponentAudit.Parsing

open Stacks

/-- The number of a tree's token, if it has one. -/
def Tree.token? (g : PlainGrammar) (t : Tree) : Option Nat :=
  match t.label.kind with
  | .token i => some i
  | .endOfText => some g.endOfText
  | .rule _ | .error | .passed => none

namespace Scanner

/-- The actions in a state at a tree that comes next. -/
def actionsFor (p : Scanner) (state : Nat) (next : Tree) : List Action :=
  match next.token? p.automaton.grammar with
  | some token => p.automaton.actions state token
  | none => []

/-- The next tree for a head. Once the whole text is read, its end ends all readings. -/
def nextTree (p : Scanner) (s : Stacks) (h : Head) : Tree :=
  let g := p.automaton.grammar
  let v := s.top h
  if s.finished.isSome && v.place.rest.isEmpty then
    .ofLexeme g.endOfText ⟨some g.endOfText, v.place, v.place, v.place, false⟩
  else .ofLexeme g.endOfText (p.read v.state v.place)

/-! ## Putting steps together -/

/-- The best tree of a rule for some ways to come by its parts, with the extras that stand after it. -/
def bestOf (g : PlainGrammar) (rule : Nat) (names : List (Option String)) (place : Place) :
    List (List Tree) → Option (Tree × List Tree)
  | [] => none
  | way :: ways =>
    let build (trees : List Tree) : Tree × List Tree :=
      let (parts, extras) := Tree.splitExtras trees
      (.ofParts g (.rule rule) place (Tree.rename names parts), extras)
    some (ways.foldl (fun best trees =>
      let other := build trees
      if best.1.yieldsTo other.1 then other else best) (build way))

/-- Puts the last steps of a head together as a rule. Each vertex below them is the start of a head of its own, after the
ones that there are, unless it can be joined into one of them. Gives the number of the first new head, if there is one. -/
def reduce (p : Scanner) (s : Stacks) (v rule count : Nat) (weight : Int) (names : List (Option String)) :
    Stacks × Option Nat :=
  let g := p.automaton.grammar
  match s.heads[v]? with
  | none => (s, none)
  | some h =>
    let halted := s.heads.countP (·.status.isHalted)
    let reduced := (s.popped v count).foldl (fun s (below, ways) =>
      let new := s.heads.length
      if headLimit + headSurplus + halted < new then s
      else match bestOf g rule names (s.vertex below).place ways with
        | none => s
        | some (tree, extras) =>
          let state := p.automaton.afterRule (s.vertex below).state rule
          let s := { s with heads := s.heads ++ [Head.mk below h.countAtError none .active] }
          let s := s.push g new (some (tree.relabel fun l => { l with weight := l.weight + weight })) state
          let s := extras.foldl (fun s extra => s.push g new (some extra) state) s
          (s.joinFirst g ((List.range new).filter (· ≠ v)) new).getD s) s
    (reduced, if s.heads.length < reduced.heads.length then some s.heads.length else none)

/-- The tree of the whole text, of the trees on a way down to the bottom: the last one that is no extra takes in the rest. -/
def wholeText (g : PlainGrammar) (trees : List Tree) : Option Tree :=
  let after := trees.reverse.takeWhile fun t => t.label.extra
  match trees.reverse.drop after.length with
  | [] => none
  | root :: before =>
    some (.ofParts g root.label.kind root.label.start (before.reverse ++ root.parts ++ after.reverse))

/-- Takes the whole text as read by a head. -/
def accept (p : Scanner) (s : Stacks) (v : Nat) (next : Tree) : Stacks :=
  let g := p.automaton.grammar
  let s := s.push g v (some next) 1
  let s := (s.allPopped v).foldl (fun s trees =>
    match wholeText g trees with
    | none => s
    | some root =>
      { s with
        accepted := s.accepted + 1
        finished := match s.finished with
          | some best => some (if best.yieldsTo root then root else best)
          | none => some root }) s
  s.modifyHead v ({ · with status := .halted })

/-! ## Going on in spite of an error -/

/-- The tokens in the order in which the parser thinks of them: names first. -/
def tokenOrder (p : Scanner) : List Nat :=
  let g := p.automaton.grammar
  g.names :: (List.range g.tokens.size).filter (· ≠ g.names)

/-- The rules that a state can put steps together as, at some tokens, each once for a number of steps; and whether it can
take one of the tokens. -/
def reductionsAt (p : Scanner) (state : Nat) (tokens : List Nat) : List Action × Bool :=
  let actions := tokens.flatMap (p.automaton.actions state)
  let takes := actions.any fun
    | .shift _ repeats => !repeats
    | .recover => true
    | .skip | .reduce .. | .accept => false
  let reductions := actions.foldl (fun seen action =>
    match action with
    | .reduce rule count _ _ =>
      let known := seen.any fun
        | .reduce r c _ _ => r == rule && c == count
        | _ => false
      if count = 0 ∨ known then seen else seen ++ [action]
    | _ => seen) []
  (reductions, takes)

/-- Puts steps together in every way there is, from a head on: with any token to come, or with a given one; then heads that
cannot take it are dropped. Tells whether some head can take it. -/
def reduceAll (p : Scanner) (start : Nat) (token? : Option Nat) (initial : Nat) :
    Nat → (round v : Nat) → Bool → Stacks → Stacks × Bool
  | 0, _, _, can, s => (s, can)
  | fuel + 1, round, v, can, s =>
    let g := p.automaton.grammar
    match s.heads[v]? with
    | none => (s, can)
    | some h =>
      let earlier := (List.range v).filter (initial ≤ ·)
      match s.joinFirst g earlier v with
      | some joined => reduceAll p start token? initial fuel (round + 1) v can joined
      | none =>
        let count := s.heads.length
        let given := token?.filter (· ≠ g.endOfText)
        let (reductions, takes) := p.reductionsAt (s.top h).state (given.elim p.tokenOrder ([·]))
        let (s, last) := reductions.foldl (fun (s, _) action =>
          match action with
          | .reduce rule count weight names => p.reduce s v rule count weight names
          | _ => (s, none)) (s, none)
        let following := if v = start then count else v + 1
        if takes then reduceAll p start token? initial fuel (round + 1) following true s
        else match last with
          | some new =>
            if round < headLimit then reduceAll p start token? initial fuel (round + 1) v can (s.moveHead new v)
            else
              let s := if given.isSome then s.removeHead v else s
              reduceAll p start token? initial fuel (round + 1) following can s
          | none =>
            let s := if given.isSome then s.removeHead v else s
            reduceAll p start token? initial fuel (round + 1) following can s

/-- How many rounds of putting steps together there may be. -/
def roundLimit : Nat := 1000

/-- Puts steps together in every way there is, from a head on. -/
def allReductions (p : Scanner) (s : Stacks) (v : Nat) (token? : Option Nat) : Stacks × Bool :=
  p.reduceAll v token? s.heads.length roundLimit 0 v false s

/-- Takes one of some tokens to be missing after a head: the first one after which some head can take the next tree. Each
comes with the state after it. Tells whether there is one. -/
def tryMissing (p : Scanner) (h : Head) (next : Tree) : List (Nat × Nat) → Stacks → Stacks × Bool
  | [], s => (s, false)
  | (token, state) :: others, s =>
    let g := p.automaton.grammar
    let w := s.heads.length
    let s := { s with heads := s.heads ++ [{ h with found := none }] }
    let s := s.push g w (some (.ofMissing token (s.top h).place)) state
    let (s, fits) := p.allReductions s w (next.token? g)
    if fits then (s, true) else tryMissing p h next others s

/-- The tokens that may be missing in a state, with the states after them: steps can be put together then. -/
def missingTokens (p : Scanner) (state : Nat) (next : Tree) : List (Nat × Nat) :=
  p.tokenOrder.filterMap fun token =>
    let after := p.automaton.afterToken state token
    let fits := (p.actionsFor after next).any fun
      | .reduce .. => true
      | _ => false
    if after ≠ 0 ∧ after ≠ state ∧ fits then some (token, after) else none

/-- Gives up the readings of some heads; the first of them after which a token can be missing goes on with that token as
well. -/
def giveUp (p : Scanner) (next : Tree) : List Nat → Bool → Stacks → Stacks
  | [], _, s => s
  | v :: others, supplied, s =>
    let g := p.automaton.grammar
    match s.heads[v]? with
    | none => giveUp p next others supplied s
    | some h =>
      let (s, supplied) :=
        if supplied then (s, true) else p.tryMissing h next (p.missingTokens (s.top h).state next) s
      giveUp p next others supplied (s.push g v none 0)

/-- Takes the tree of an error off the top of a head, if there is one: gives its parts. -/
def popError (s : Stacks) (v : Nat) : Stacks × List Tree :=
  match s.heads[v]? with
  | none => (s, [])
  | some h =>
    let isError (link : Nat × Option Tree) : Bool := link.2.any Tree.isError
    match (s.top h).links.find? isError with
    | some (below, some t) => (s.modifyHead v ({ · with vertex := below, status := .active }), t.parts)
    | _ => (s, [])

/-- Goes back from a head by some trees to a state, on a new head; the trees become the parts of an error. Tells whether
there is a way. -/
def goBack (p : Scanner) (s : Stacks) (v depth state : Nat) : Stacks × Bool :=
  let g := p.automaton.grammar
  match s.heads[v]? with
  | none => (s, false)
  | some h =>
    let ways := (s.popped v depth).filter fun (below, _) => (s.vertex below).state = state
    (ways.foldl (fun s (below, ways) =>
      let w := s.heads.length
      let s := { s with heads := s.heads ++ [Head.mk below h.countAtError none .active] }
      let (s, earlier) := popError s w
      let (parts, extras) := Tree.splitExtras (earlier ++ (ways.head?).getD [])
      let s := match parts with
        | [] => s
        | _ :: _ =>
          let t := Tree.ofParts g .error (s.vertex below).place parts
          s.push g w (some (t.relabel ({ · with extra := true }))) state
      extras.foldl (fun s extra => s.push g w (some extra) state) s) s, !ways.isEmpty)

/-- Goes back from a head to the first of some vertices found below it that can take the next tree, unless some other
reading is better than that. Tells whether it did. -/
def goBackTo (p : Scanner) (v : Nat) (next : Tree) (others : Nat) : List Found → Stacks → Stacks × Bool
  | [], s => (s, false)
  | f :: rest, s =>
    match s.heads[v]? with
    | none => (s, false)
    | some h =>
      let place := (s.top h).place
      let depth := if 0 < s.progress h then f.depth + 1 else f.depth
      let taken := (s.heads.take others).any fun other =>
        (s.top other).state == f.state && (s.top other).place.same place
      let cost := s.headCost h + f.depth * Tree.droppedCost + Tree.passCost f.place place
      if f.state = 0 ∨ f.place.same place ∨ taken then goBackTo p v next others rest s
      else if s.hasBetter v cost then (s, false)
      else if (p.actionsFor f.state next).isEmpty then goBackTo p v next others rest s
      else match p.goBack s v depth f.state with
        | (s, true) => (s, true)
        | (s, false) => goBackTo p v next others rest s

/-- Passes over the next tree on a head that was given up. -/
def passOver (p : Scanner) (s : Stacks) (v : Nat) (next : Tree) : Stacks :=
  let g := p.automaton.grammar
  match s.heads[v]? with
  | none => s
  | some h =>
    let place := (s.top h).place
    let isExtra := match (p.actionsFor 1 next).getLast? with
      | some .skip => true
      | _ => false
    let next := if isExtra then next.relabel ({ · with extra := true }) else next
    let passed := Tree.ofParts g .passed place [next]
    if 0 < s.progress h then
      match s.popped v 1 with
      | (below, way :: _) :: _ =>
        let s := s.modifyHead v ({ · with vertex := below, status := .active })
        s.push g v (some (.ofParts g .passed place (way ++ [passed]))) 0
      | _ => s.push g v (some passed) 0
    else s.push g v (some passed) 0

/-- Goes on on a head that was given up: from a state below it, and past the next tree. -/
def recover (p : Scanner) (s : Stacks) (v : Nat) (next : Tree) : Stacks :=
  let g := p.automaton.grammar
  match s.heads[v]? with
  | none => s
  | some h =>
    let others := s.heads.length
    let (s, wentBack) := if next.isError then (s, false) else p.goBackTo v next others (h.found.getD []) s
    let halt (s : Stacks) : Stacks := s.modifyHead v ({ · with status := .halted })
    if next.isEnd then
      p.accept (s.push g v (some (.ofParts g .error (s.top h).place [])) 1) v next
    else if wentBack && headLimit < s.heads.length then halt s
    else if s.hasBetter v (s.headCost h + Tree.droppedCost + Tree.passCost next.label.before next.label.stop) then halt s
    else p.passOver s v next

/-- Goes on on a head that cannot take the next tree. -/
def handleError (p : Scanner) (s : Stacks) (v : Nat) (next : Tree) : Stacks :=
  let g := p.automaton.grammar
  let before := s.heads.length
  let (s, _) := p.allReductions s v none
  let after := s.heads.length
  let new := (List.range after).drop before
  let s := p.giveUp next (v :: new) false s
  let s := new.foldl (fun s _ => (s.join g v before).getD s) s
  let found := s.survey v
  p.recover (s.modifyHead v ({ · with found := some found })) v next

/-! ## Reading -/

/-- Puts steps together on a head by some actions up to one that takes the next tree. Gives whether that was done, and the
first new head of the last reduction that has one. -/
def act (p : Scanner) (v : Nat) (next : Tree) (state : Nat) :
    List Action → (last : Option Nat) → (reduced : Bool) → Stacks → Stacks × Bool × Option Nat × Bool
  | [], last, reduced, s => (s, false, last, reduced)
  | action :: others, last, reduced, s =>
    let g := p.automaton.grammar
    match action with
    | .shift target repeats =>
      if repeats then act p v next state others last reduced s
      else (s.push g v (some (next.relabel ({ · with extra := false }))) target, true, last, reduced)
    | .skip => (s.push g v (some (next.relabel ({ · with extra := true }))) state, true, last, reduced)
    | .reduce rule count weight names =>
      let (s, new) := p.reduce s v rule count weight names
      act p v next state others (new <|> last) true s
    | .accept => (p.accept s v next, true, last, reduced)
    | .recover => (p.recover s v next, true, last, reduced)

/-- Goes on with a head until it takes the next tree, or cannot. -/
def advanceWith (p : Scanner) (v : Nat) : Nat → (next : Tree) → Stacks → Stacks
  | 0, _, s => s.modifyHead v ({ · with status := .halted })
  | fuel + 1, next, s =>
    let g := p.automaton.grammar
    match s.heads[v]? with
    | none => s
    | some h =>
      let state := (s.top h).state
      let (s, taken, last, reduced) := p.act v next state (p.actionsFor state next) none false s
      if taken then s
      else match last with
        | some new => advanceWith p v fuel next (s.moveHead new v)
        | none =>
          if reduced then s.modifyHead v ({ · with status := .halted })
          else if next.label.isKeyword && next.label.kind != .token g.names &&
              !(p.automaton.actions state g.names).isEmpty then
            advanceWith p v fuel (next.relabel ({ · with kind := .token g.names })) s
          else if state = 0 then p.recover s v next
          else s.modifyHead v ({ · with status := .paused next, countAtError := (s.top h).count })

/-- Goes on with a head by a tree. -/
def advance (p : Scanner) (s : Stacks) (v : Nat) : Stacks :=
  match s.heads[v]? with
  | none => s
  | some h =>
    p.advanceWith v ((s.vertices.size + 2) * (p.automaton.grammar.rules.size + 2)) (p.nextTree s h) s

/-- Goes on with a head until it has passed the furthest place so far, or the same one if it is not the first head. -/
def advanceHead (p : Scanner) (v : Nat) : Nat → (furthest : Nat) → Stacks → Stacks × Nat
  | 0, furthest, s => (s, furthest)
  | fuel + 1, furthest, s =>
    match s.heads[v]? with
    | none => (s, furthest)
    | some h =>
      if h.status.isActive then
        let s := p.advance s v
        let offset := (s.heads[v]?.map fun h => (s.top h).place.offset).getD 0
        if furthest < offset ∨ (0 < v ∧ offset = furthest) then (s, offset)
        else advanceHead p v fuel furthest s
      else (s, furthest)

/-- Goes on with all heads, from one on. -/
def advanceAll (p : Scanner) (fuel : Nat) : Nat → (v furthest : Nat) → Stacks → Stacks × Nat
  | 0, _, furthest, s => (s, furthest)
  | heads + 1, v, furthest, s =>
    if v < s.heads.length then
      let (s, furthest) := p.advanceHead v fuel furthest s
      advanceAll p fuel heads (v + 1) furthest s
    else (s, furthest)

/-! ## Choosing among readings -/

/-- Ranks a head, of some standing, among those before it: where one of them is better by far, the head is dropped; where it
is better itself by far, the other one is; heads in the same state at the same place are joined. -/
def rank (g : PlainGrammar) (standing : Standing) : List Head → List Head → Head → Stacks → Stacks
  | better, [], h, s => { s with heads := better ++ [h] }
  | better, other :: others, h, s =>
    let join : Option Stacks := { s with heads := [other, h] }.join g 0 1
    let joined (j : Stacks) : Stacks := { j with heads := better ++ j.heads ++ others }
    match compare (s.standing other) standing with
    | .takeLeft => { s with heads := better ++ other :: others }
    | .preferLeft | .neither => match join with
      | some j => joined j
      | none => rank g standing (better ++ [other]) others h s
    | .preferRight => match join with
      | some j => joined j
      | none => rank g standing (better ++ [h]) others other s
    | .takeRight => rank g standing better others h s

/-- Ranks all heads that are not halted. Gives also the least cost of a head that is not in an error. -/
def rankAll (g : PlainGrammar) (s : Stacks) : Stacks × Option Nat :=
  (s.heads.filter (!·.status.isHalted)).foldl (fun (s, least) h =>
    let standing := s.standing h
    let least := if standing.inError then least else some ((least.map (min standing.cost)).getD standing.cost)
    (rank g standing [] s.heads h s, least)) ({ s with heads := [] }, none)

/-- Lets the first paused head go on, if no head before it is active, and drops the others, among the first `count` heads.
Gives what the head costs that goes on. -/
def resume (p : Scanner) : (count v : Nat) → (resumed : Bool) → (least : Option Nat) → Stacks → Stacks × Option Nat
  | 0, _, _, least, s => (s, least)
  | count + 1, v, resumed, least, s =>
    match s.heads[v]? with
    | none => (s, least)
    | some h =>
      match h.status with
      | .paused next =>
        if !resumed && s.accepted < headLimit then
          let cost := s.headCost h
          let s := p.handleError (s.modifyHead v ({ · with status := .active })) v next
          resume p count (v + 1) true (some cost) s
        else resume p count v resumed least (s.removeHead v)
      | .active | .halted => resume p count (v + 1) true least s

/-- Keeps the best heads, and lets a paused one go on if there is no other. -/
def condense (p : Scanner) (s : Stacks) : Stacks × Option Nat :=
  let (s, least) := rankAll p.automaton.grammar s
  let s := { s with heads := s.heads.take headLimit }
  p.resume s.heads.length 0 false least s

/-- Goes on with all heads until the text is read and no head can do better. -/
def run (p : Scanner) (work : Nat) : Nat → (furthest : Nat) → Stacks → Option Tree
  | 0, _, s => s.finished
  | fuel + 1, furthest, s =>
    if s.heads.isEmpty then s.finished
    else
      let (s, furthest) := p.advanceAll work work 0 furthest s
      let (s, least) := p.condense s
      match s.finished with
      | some t => if least.all (t.cost < ·) then s.finished else run p work fuel furthest s
      | none => run p work fuel furthest s

/-- The tree of a text. -/
def parse (p : Scanner) (text : List Char) : Option Tree :=
  let work := 1000 * (text.length + 100)
  p.run work work 0 (.start 1 (.start text))

end Scanner

end ComponentAudit.Parsing
