import Mathlib.Data.List.Lex
import ComponentAudit.Proofs.TopLevels

/-!
# The first thing wrong in a syntax tree

A node has an address: the numbers of the children on the way to it. The lexicographic order of addresses is the order of the
text, parents before children and children from left to right. The search for the first fault passes over trees that are known
to hold none, and finds the same node as the search through all of them (`SyntaxTree.firstError?_eq_find?`): the one whose address
is least (`SyntaxTree.firstError?_eq_some_iff`). A source file with a fault is refused for that one, whatever stands at its top
level (`GoSource.parse_firstFault`).
-/

namespace ComponentAudit

namespace SyntaxTree

/-- The tree at an address. -/
def subtree? : SyntaxTree → List Nat → Option SyntaxTree
  | t, [] => some t
  | t, n :: rest => t.children[n]?.bind fun child => child.subtree? rest

/-- The node at an address stands for something wrong, and any other such node stands at a greater address. -/
structure FirstFault (t : SyntaxTree) (address : List Nat) (n : SyntaxNode) : Prop where
  stands : ∃ u, t.subtree? address = some u ∧ u.top = n
  fault : n.isFault = true
  first : ∀ other u, t.subtree? other = some u → u.top.isFault = true → other = address ∨ List.Lex (· < ·) address other

/-! ## Nodes and their addresses -/

theorem mem_preorderAll {ts : List SyntaxTree} {n : SyntaxNode} : n ∈ preorderAll ts ↔ ∃ t ∈ ts, n ∈ t.preorder := by
  induction ts with
  | nil => simp [preorderAll]
  | cons t rest ih => rw [preorderAll, List.mem_append, ih, List.exists_mem_cons_iff]

/-- The tree at an address below a node is that at the rest of the address in one of its children. -/
theorem subtree?_cons_eq_some {top : SyntaxNode} {children : List SyntaxTree} {i : Nat} {rest : List Nat} {u : SyntaxTree} :
    (node top children).subtree? (i :: rest) = some u ↔ ∃ t, children[i]? = some t ∧ t.subtree? rest = some u :=
  Option.bind_eq_some_iff

/-- A node that stands at an address is gone through. -/
theorem mem_preorder_of_subtree? {t u : SyntaxTree} {address : List Nat} (h : t.subtree? address = some u) :
    u.top ∈ t.preorder := by
  induction address generalizing t with
  | nil =>
    obtain rfl := Option.some.inj h
    cases t with
    | node top children => exact List.mem_cons_self ..
  | cons i rest ih =>
    cases t with
    | node top children =>
      obtain ⟨child, hchild, hrest⟩ := subtree?_cons_eq_some.1 h
      exact List.mem_cons_of_mem _ (mem_preorderAll.2 ⟨child, List.mem_of_getElem? hchild, ih hrest⟩)

/-! ## The search -/

mutual

/-- Passing over the trees without a fault loses nothing. -/
theorem firstError?_eq_find? : ∀ t : SyntaxTree, t.firstError? = t.preorder.find? (·.isFault)
  | node top children => by
    rw [firstError?, preorder, List.find?_cons]
    by_cases htop : top.isFault = true
    · rw [if_pos htop, htop]
    · rw [if_neg htop, Bool.eq_false_iff.2 htop]
      by_cases herror : (node top children).hasError = true
      · rw [if_pos herror, firstErrorAmong?_eq_find? children]
      · rw [if_neg herror]
        rw [hasError_eq_any, preorder, List.any_cons, Bool.or_eq_true, not_or, Bool.not_eq_true, Bool.not_eq_true,
          List.any_eq_false] at herror
        exact (List.find?_eq_none.2 herror.2).symm

theorem firstErrorAmong?_eq_find? : ∀ ts : List SyntaxTree, firstErrorAmong? ts = (preorderAll ts).find? (·.isFault)
  | [] => rfl
  | t :: rest => by
    rw [firstErrorAmong?, preorderAll, List.find?_append, ← firstError?_eq_find? t, ← firstErrorAmong?_eq_find? rest]
    cases t.firstError? with
    | none => rfl
    | some n => rfl

end

mutual

/-- The first fault that is gone through is the one at the least address. -/
theorem exists_firstFault : ∀ {t : SyntaxTree} {n : SyntaxNode}, t.preorder.find? (·.isFault) = some n →
    ∃ address, t.FirstFault address n
  | node top children, n, h => by
    rw [preorder, List.find?_cons] at h
    split at h
    · rename_i htop
      obtain rfl := Option.some.inj h
      exact ⟨[], ⟨_, rfl, rfl⟩, htop, fun other _ _ _ => (List.lex_nil_or_eq_nil other).symm⟩
    · rename_i htop
      obtain ⟨i, t, address, ht, hfirst, hbefore⟩ := exists_firstFault_among h
      obtain ⟨u, hu, hn⟩ := hfirst.stands
      refine ⟨i :: address, ⟨u, subtree?_cons_eq_some.2 ⟨t, ht, hu⟩, hn⟩, hfirst.fault, fun other v hv hfault => ?_⟩
      cases other with
      | nil =>
        obtain rfl := Option.some.inj hv
        exact absurd hfault (Bool.eq_false_iff.1 htop)
      | cons j rest =>
        obtain ⟨t', ht', hrest⟩ := subtree?_cons_eq_some.1 hv
        -- A later child stands behind, the same one is left to the induction, and in an earlier one nothing is wrong.
        rcases Nat.lt_trichotomy i j with hlt | rfl | hlt
        · exact Or.inr (.rel hlt)
        · obtain rfl := Option.some.inj (ht.symm.trans ht')
          exact (hfirst.first rest v hrest hfault).imp (congrArg (i :: ·)) .cons
        · exact absurd hfault (hbefore j t' hlt ht' _ (mem_preorder_of_subtree? hrest))

/-- The first fault in some trees is the first one of a tree before which all trees are without. -/
theorem exists_firstFault_among : ∀ {ts : List SyntaxTree} {n : SyntaxNode},
    (preorderAll ts).find? (·.isFault) = some n →
    ∃ (i : Nat) (t : SyntaxTree) (address : List Nat), ts[i]? = some t ∧ t.FirstFault address n ∧
      ∀ (j : Nat) (t' : SyntaxTree), j < i → ts[j]? = some t' → ∀ m ∈ t'.preorder, ¬m.isFault = true
  | [], n, h => by cases h
  | t :: rest, n, h => by
    rw [preorderAll, List.find?_append] at h
    cases hfind : t.preorder.find? (·.isFault) with
    | some m =>
      rw [hfind] at h
      obtain rfl := Option.some.inj h
      obtain ⟨address, hfirst⟩ := exists_firstFault hfind
      exact ⟨0, t, address, rfl, hfirst, fun j t' hj => absurd hj (Nat.not_lt_zero j)⟩
    | none =>
      rw [hfind] at h
      obtain ⟨i, t', address, ht', hfirst, hbefore⟩ := exists_firstFault_among h
      refine ⟨i + 1, t', address, ht', hfirst, fun j u hj hu => ?_⟩
      cases j with
      | zero =>
        obtain rfl := Option.some.inj hu
        exact List.find?_eq_none.1 hfind
      | succ j => exact hbefore j u (Nat.lt_of_succ_lt_succ hj) hu

end

/-- There is one first fault at most. -/
theorem FirstFault.unique {t : SyntaxTree} {a b : List Nat} {n m : SyntaxNode} (h : t.FirstFault a n)
    (h' : t.FirstFault b m) : n = m := by
  obtain ⟨u, hu, rfl⟩ := h.stands
  obtain ⟨v, hv, rfl⟩ := h'.stands
  obtain rfl : b = a := by
    rcases h.first b v hv h'.fault with heq | hlt
    · exact heq
    · rcases h'.first a u hu h.fault with heq | hlt'
      · exact heq.symm
      · exact absurd hlt' (asymm hlt)
  rw [Option.some.inj (hu.symm.trans hv)]

/-- The search finds the fault at the least address. -/
theorem firstError?_eq_some_iff {t : SyntaxTree} {n : SyntaxNode} :
    t.firstError? = some n ↔ ∃ address, t.FirstFault address n := by
  rw [firstError?_eq_find?]
  refine ⟨exists_firstFault, fun ⟨address, hfirst⟩ => ?_⟩
  obtain ⟨u, hu, htop⟩ := hfirst.stands
  have hmem : n ∈ t.preorder := htop ▸ mem_preorder_of_subtree? hu
  obtain ⟨m, hm⟩ := Option.isSome_iff_exists.1 (List.find?_isSome.2 ⟨n, hmem, hfirst.fault⟩)
  obtain ⟨_, hfirst'⟩ := exists_firstFault hm
  rw [hm, hfirst.unique hfirst']

theorem isFault_eq_false_iff {n : SyntaxNode} : n.isFault = false ↔ n.status = .sound := by
  simp [SyntaxNode.isFault]

/-- The search finds nothing exactly if nothing is wrong. -/
theorem firstError?_eq_none_iff {t : SyntaxTree} : t.firstError? = none ↔ ∀ n ∈ t.preorder, n.status = .sound := by
  rw [firstError?_eq_find?, List.find?_eq_none]
  simp only [Bool.not_eq_true, isFault_eq_false_iff]

theorem hasError_eq_true_iff {t : SyntaxTree} : t.hasError = true ↔ ∃ n ∈ t.preorder, n.status ≠ .sound := by
  rw [hasError_eq_any, List.any_eq_true]
  simp only [SyntaxNode.isFault, decide_eq_true_eq]

end SyntaxTree

/-! ## The parser -/

namespace GoSource

-- `parser` is opened through this lemma. Unfolded at a text, it would have its tables computed.
theorem parse_mk (language : String) (f : List Char → Except ParseError Unit) (text : List Char) :
    (SourceParser.mk language f).parse text = f text := rfl

theorem parse_of_tree {text : List Char} {root : SyntaxTree} (h : tree? text = some root) :
    parser.parse text = checkTree root := by
  rw [parser, parse_mk, h]

theorem parse_of_none {text : List Char} (h : tree? text = none) :
    parser.parse text = .error ⟨1, 1, "parser produced no syntax tree"⟩ := by
  rw [parser, parse_mk, h]

/-- A tree with a fault is refused for the first one, whatever stands at its top level. -/
theorem checkTree_of_firstFault {root : SyntaxTree} {address : List Nat} {n : SyntaxNode} (h : root.FirstFault address n) :
    checkTree root = .error (complaint n) := by
  rw [checkTree, SyntaxTree.firstError?_eq_some_iff.2 ⟨address, h⟩]

/-- A tree is known to hold a fault exactly if the node on top or one below it stands for something wrong. The search for the
first one, which passes over the other trees, finds what a search through all nodes finds: the fault at the least address, in the
order in which nodes stand before those below them and trees from left to right; and it finds nothing exactly if there is none. A
text with such a tree is refused with the complaint about that fault, whatever stands at the top level; only a tree without one
is looked at there. -/
theorem parse_firstFault (root : SyntaxTree) :
    (root.hasError = true ↔ ∃ n ∈ root.preorder, n.status ≠ .sound) ∧
    root.firstError? = root.preorder.find? (·.status ≠ .sound) ∧
    (∀ n, root.firstError? = some n ↔ ∃ address, root.FirstFault address n) ∧
    (root.firstError? = none ↔ ∀ n ∈ root.preorder, n.status = .sound) ∧
    ((∃ n ∈ root.preorder, n.status ≠ .sound) → ∃ address n, root.FirstFault address n ∧
      checkTree root = .error (complaint n) ∧
      ∀ text, tree? text = some root → parser.parse text = .error (complaint n)) ∧
    ((∀ n ∈ root.preorder, n.status = .sound) → checkTree root = checkTopLevel root) := by
  refine ⟨SyntaxTree.hasError_eq_true_iff, root.firstError?_eq_find?, fun n => SyntaxTree.firstError?_eq_some_iff,
    SyntaxTree.firstError?_eq_none_iff, ?_, fun hsound => ?_⟩
  · rintro ⟨m, hm, hfault⟩
    have hfound : root.firstError? ≠ none := fun hnone => hfault (SyntaxTree.firstError?_eq_none_iff.1 hnone m hm)
    obtain ⟨n, hn⟩ := Option.ne_none_iff_exists'.1 hfound
    obtain ⟨address, hfirst⟩ := SyntaxTree.firstError?_eq_some_iff.1 hn
    have hrefused := checkTree_of_firstFault hfirst
    exact ⟨address, n, hfirst, hrefused, fun text htree => (parse_of_tree htree).trans hrefused⟩
  · rw [checkTree, SyntaxTree.firstError?_eq_none_iff.2 hsound]

end GoSource

end ComponentAudit
