import ComponentAudit.Parsing.Tree

/-!
# Stacks that share their ends

The parser follows several readings of a text at once. Each has a stack of trees, and stacks share what they have in common:
a vertex stands for a state at a place of the text, and links to the vertices below it carry the trees between. Readings
that come to the same state at the same place join in one vertex. The tops of the stacks are the heads.
-/

namespace ComponentAudit.Parsing

/-- A state at a place of the text, with what is known of the readings that lead there. -/
structure Vertex where
  state : Nat
  place : Place
  /-- The vertices below, with the trees between; no tree where the readings were given up. -/
  links : List (Nat × Option Tree)
  cost : Nat
  count : Nat
  weight : Int

/-- Whether a reading goes on. -/
inductive HeadStatus where
  | active
  /-- The reading cannot take the tree that comes next. -/
  | paused (next : Tree)
  | halted

/-- A vertex that some readings found below a head, how many trees above it, and the place of it. -/
structure Found where
  place : Place
  depth : Nat
  state : Nat

/-- The top of a stack. -/
structure Head where
  vertex : Nat
  /-- How many nodes there were at the last error. -/
  countAtError : Nat
  /-- What lies below, where the reading was given up. -/
  found : Option (List Found)
  status : HeadStatus

/-- The stacks of the parser, and the best tree of the whole text so far. -/
structure Stacks where
  vertices : Array Vertex
  heads : List Head
  finished : Option Tree
  /-- How often the whole text was read. -/
  accepted : Nat

/-- A way down from a head: the vertex that it has come to, and the trees on it, from the bottom. -/
structure Descent where
  vertex : Nat
  trees : List Tree
  depth : Nat

namespace HeadStatus

/-- Whether a head is active. -/
def isActive : HeadStatus → Bool
  | active => true
  | paused _ | halted => false

/-- Whether a head is paused. -/
def isPaused : HeadStatus → Bool
  | paused _ => true
  | active | halted => false

/-- Whether a head is halted. -/
def isHalted : HeadStatus → Bool
  | halted => true
  | active | paused _ => false

end HeadStatus

namespace Stacks

/-- How many readings are kept. -/
def headLimit : Nat := 6

/-- How many more readings there may be for a while. -/
def headSurplus : Nat := 4

/-- How many links a vertex may have. -/
def linkLimit : Nat := 8

/-- How many ways down are followed at once. -/
def descentLimit : Nat := 64

/-- The one stack to start with. -/
def start (state : Nat) (place : Place) : Stacks where
  vertices := #[⟨state, place, [], 0, 0, 0⟩]
  heads := [⟨0, 0, none, .active⟩]
  finished := none
  accepted := 0

/-- A vertex by number. -/
def vertex (s : Stacks) (n : Nat) : Vertex :=
  s.vertices.getD n ⟨0, .start [], [], 0, 0, 0⟩

/-- The vertex of a head. -/
def top (s : Stacks) (h : Head) : Vertex :=
  s.vertex h.vertex

/-- Changes a head. -/
def modifyHead (s : Stacks) (v : Nat) (f : Head → Head) : Stacks :=
  { s with heads := s.heads.modify v f }

/-- Takes a head away. -/
def removeHead (s : Stacks) (v : Nat) : Stacks :=
  { s with heads := s.heads.eraseIdx v }

/-- Puts a head in the place of another one; what lies below is kept from the one that knows it. -/
def moveHead (s : Stacks) (source target : Nat) : Stacks :=
  match s.heads[source]?, s.heads[target]? with
  | some new, some old =>
    if source = target then s
    else { s with heads := (s.heads.set target { new with found := new.found <|> old.found }).eraseIdx source }
  | _, _ => s

/-- Puts a tree on top of a stack, which comes to a state; or gives the reading up. -/
def push (g : PlainGrammar) (s : Stacks) (v : Nat) (tree : Option Tree) (state : Nat) : Stacks :=
  match s.heads[v]? with
  | none => s
  | some h =>
    let below := s.top h
    let new : Vertex := match tree with
      | none => { below with state := state, links := [(h.vertex, none)] }
      | some t => {
          state := state
          place := t.label.stop
          links := [(h.vertex, some t)]
          cost := below.cost + t.cost
          count := below.count + t.size g
          weight := below.weight + t.weight }
    { s with
      vertices := s.vertices.push new
      heads := s.heads.set v { h with
        vertex := s.vertices.size
        countAtError := if tree.isNone then new.count else h.countAtError } }

/-! ## Joining -/

/-- Whether two heads are active, in the same state at the same place, and as costly as each other. -/
def canJoin (s : Stacks) (a b : Nat) : Bool :=
  match s.heads[a]?, s.heads[b]? with
  | some x, some y =>
    let p := s.top x
    let q := s.top y
    x.status.isActive && y.status.isActive && p.state == q.state && p.place.same q.place && p.cost == q.cost
  | _, _ => false

/-- Whether two links carry the same reading. -/
def sameReading : Option Tree → Option Tree → Bool
  | none, none => true
  | some a, some b => a.agrees b
  | _, _ => false

/-- The weight of the readings over a link. -/
def linkWeight (s : Stacks) (link : Nat × Option Tree) : Int :=
  (s.vertex link.1).weight + (link.2.map Tree.weight).getD 0

/-- Adds a link to a vertex. A link that carries the reading of another one joins with it, and so do the vertices below. -/
def addLink (g : PlainGrammar) : Nat → Stacks → Nat → Nat × Option Tree → Stacks
  | 0, s, _, _ => s
  | fuel + 1, s, n, link =>
    let v := s.vertex n
    let below := s.vertex link.1
    let joins (other : Nat × Option Tree) : Bool :=
      sameReading other.2 link.2 && (other.1 == link.1 ||
        (let w := s.vertex other.1
         w.state == below.state && w.place.same below.place && w.cost == below.cost))
    if n = link.1 then s
    else match v.links.findIdx? joins with
      | some i =>
        match v.links[i]? with
        | none => s
        | some other =>
          if other.1 = link.1 then
            if (other.2.map Tree.weight).getD 0 < (link.2.map Tree.weight).getD 0 then
              { s with vertices := s.vertices.modify n fun v =>
                  { v with links := v.links.set i link, weight := s.linkWeight link } }
            else s
          else
            let s := below.links.foldl (fun s deeper => addLink g fuel s other.1 deeper) s
            { s with vertices := s.vertices.modify n fun v => { v with weight := max v.weight (s.linkWeight link) } }
      | none =>
        if linkLimit ≤ v.links.length then s
        else { s with vertices := s.vertices.modify n fun v =>
                 { v with
                   links := v.links ++ [link]
                   count := max v.count (below.count + (link.2.map (Tree.size g)).getD 0)
                   weight := max v.weight (s.linkWeight link) } }

/-- Joins a head into another one, if they can be joined. -/
def join (g : PlainGrammar) (s : Stacks) (a b : Nat) : Option Stacks :=
  match s.heads[a]?, s.heads[b]? with
  | some x, some y =>
    if s.canJoin a b then
      let joined := (s.top y).links.foldl (fun s link => addLink g s.vertices.size s x.vertex link) s
      let v := joined.top x
      some ((if v.state = 0 then joined.modifyHead a ({ · with countAtError := v.count }) else joined).removeHead b)
    else none
  | _, _ => none

/-- Joins a head into the first of some others that it can be joined into. -/
def joinFirst (g : PlainGrammar) (s : Stacks) (others : List Nat) (b : Nat) : Option Stacks :=
  others.firstM fun a => s.join g a b

/-! ## Ways down -/

/-- One step further down on each link. -/
def stepDown (s : Stacks) (d : Descent) : List Descent :=
  (s.vertex d.vertex).links.map fun (below, tree) =>
    match tree with
    | some t => ⟨below, t :: d.trees, if t.label.extra then d.depth else d.depth + 1⟩
    | none => ⟨below, d.trees, d.depth + 1⟩

/-- Follows ways down, all of them a step at a time, and gives those to be taken in the order in which they are come to. -/
def descend (s : Stacks) (take leave : Descent → Bool) : Nat → List Descent → List Descent
  | _, [] => []
  | 0, _ => []
  | fuel + 1, ways =>
    let further := (ways.filter fun d => !leave d).map s.stepDown
    let next := further.filterMap List.head? ++ further.flatMap List.tail
    ways.filter take ++ descend s take leave fuel (next.take descentLimit)

/-- The ways down from a head. -/
def descents (s : Stacks) (v : Nat) (take leave : Descent → Bool) : List Descent :=
  match s.heads[v]? with
  | some h => s.descend take leave (s.vertices.size + 1) [⟨h.vertex, [], 0⟩]
  | none => []

/-- The ways down by a number of trees, by the vertices that they lead to. -/
def popped (s : Stacks) (v count : Nat) : List (Nat × List (List Tree)) :=
  (s.descents v (·.depth == count) (·.depth == count)).foldl (fun groups d =>
    if groups.any (·.1 == d.vertex) then
      groups.map fun (n, ways) => if n = d.vertex then (n, ways ++ [d.trees]) else (n, ways)
    else groups ++ [(d.vertex, [d.trees])]) []

/-- All ways down to the bottom. -/
def allPopped (s : Stacks) (v : Nat) : List (List Tree) :=
  let atBottom (d : Descent) : Bool := (s.vertex d.vertex).links.isEmpty
  (s.descents v atBottom atBottom).map (·.trees)

/-- How deep down the parser looks for a state to go on in. -/
def depthLimit : Nat := 16

/-- The vertices below a head, each state once at a depth. -/
def survey (s : Stacks) (v : Nat) : List Found :=
  (s.descents v (·.depth ≤ depthLimit) (depthLimit < ·.depth)).foldl (fun seen d =>
    let w := s.vertex d.vertex
    let known := (seen.reverse.takeWhile (d.depth ≤ ·.depth)).any fun f => f.depth == d.depth && f.state == w.state
    if known then seen else seen ++ [⟨w.place, d.depth, w.state⟩]) []

/-! ## Comparing readings -/

/-- What a reading is compared by. -/
structure Standing where
  cost : Nat
  /-- How many nodes there are since the last error. -/
  progress : Nat
  weight : Int
  inError : Bool

/-- How many nodes a head has since its last error. -/
def progress (s : Stacks) (h : Head) : Nat :=
  (s.top h).count - h.countAtError

/-- What the errors of a head cost so far. -/
def headCost (s : Stacks) (h : Head) : Nat :=
  let v := s.top h
  let givenUp := v.state == 0 && (match v.links with
    | (_, none) :: _ => true
    | _ => false)
  v.cost + if h.status.isPaused || givenUp then Tree.errorCost else 0

/-- What a head is compared by. -/
def standing (s : Stacks) (h : Head) : Standing where
  cost := s.headCost h + if h.status.isPaused then Tree.droppedCost else 0
  progress := s.progress h
  weight := (s.top h).weight
  inError := h.status.isPaused || (s.top h).state == 0

/-- Which of two readings is better, and whether the other one is to be dropped. -/
inductive Verdict where
  | takeLeft
  | preferLeft
  | neither
  | preferRight
  | takeRight
  deriving Repr, DecidableEq

/-- The difference in cost that drops a reading; each node since the last error makes it count more. -/
def costMargin : Nat := 1800

/-- Compares two readings: those that are not in an error come first, then the cheaper ones, then the weightier ones. -/
def compare (a b : Standing) : Verdict :=
  if !a.inError && b.inError then if a.cost < b.cost then .takeLeft else .preferLeft
  else if a.inError && !b.inError then if b.cost < a.cost then .takeRight else .preferRight
  else if a.cost < b.cost then
    if costMargin < (b.cost - a.cost) * (1 + a.progress) then .takeLeft else .preferLeft
  else if b.cost < a.cost then
    if costMargin < (a.cost - b.cost) * (1 + b.progress) then .takeRight else .preferRight
  else if b.weight < a.weight then .preferLeft
  else if a.weight < b.weight then .preferRight
  else .neither

/-- Whether some other reading is better than a head would be at some cost. -/
def hasBetter (s : Stacks) (v cost : Nat) : Bool :=
  match s.heads[v]? with
  | none => false
  | some h =>
    let own : Standing := ⟨cost, s.progress h, (s.top h).weight, false⟩
    s.finished.any (fun t => t.cost ≤ cost) ||
      s.heads.zipIdx.any fun (other, i) =>
        i != v && other.status.isActive && (s.top h).place.offset ≤ (s.top other).place.offset &&
          match compare own (s.standing other) with
          | .takeRight => true
          | .preferRight => s.canJoin i v
          | .takeLeft | .preferLeft | .neither => false

end Stacks

end ComponentAudit.Parsing
