import Mathlib.Tactic.ByContra
import ComponentAudit.GoSource

/-!
# The order of a source file

Comments apart, a source file is in order if a package clause comes first, then the imports, then the other declarations
(`InOrder`). A stage of the reader stands for what has been read so far (`Stage.Reads`). Each step reads one thing more, or the
thing is out of place whatever may follow it (`Stage.next_cases`). So a tree in which nothing is wrong is refused for the first
thing that is out of place, or for having no package clause (`checkTree_inOrder`).
-/

namespace ComponentAudit

namespace SyntaxTree

mutual

theorem hasError_eq_any : ∀ t : SyntaxTree, t.hasError = t.preorder.any (·.isFault)
  | node top children => by rw [hasError, preorder, List.any_cons, anyHasError_eq_any children]

theorem anyHasError_eq_any : ∀ ts : List SyntaxTree, anyHasError ts = (preorderAll ts).any (·.isFault)
  | [] => rfl
  | t :: rest => by rw [anyHasError, preorderAll, List.any_append, hasError_eq_any t, anyHasError_eq_any rest]

end

/-- A tree in which nothing is wrong has no first node that is. -/
theorem firstError?_eq_none {t : SyntaxTree} (h : ∀ n ∈ t.preorder, n.status = .sound) : t.firstError? = none := by
  have hsound : t.hasError = false := by
    rw [hasError_eq_any, List.any_eq_false]
    intro n hn
    simp [SyntaxNode.isFault, h n hn]
  cases t with
  | node top children =>
    have htop : top.isFault = false := by
      rw [hasError, Bool.or_eq_false_iff] at hsound
      exact hsound.1
    rw [firstError?, hsound, htop]
    rfl

end SyntaxTree

namespace GoSource

/-! ## What is in order -/

/-- The kinds of the declarations that are no imports. -/
def declarationKinds : List String :=
  ["function_declaration", "method_declaration", "const_declaration", "var_declaration", "type_declaration"]

/-- The kinds of some nodes, comments apart. -/
def kindsOf (nodes : List SyntaxNode) : List String :=
  (nodes.map (·.kind)).filter (· ≠ "comment")

/-- One package clause, then any number of imports, then any number of other declarations. -/
def InOrder (kinds : List String) : Prop :=
  ∃ imports declarations, kinds = "package_clause" :: (imports ++ declarations) ∧
    (∀ k ∈ imports, k = "import_declaration") ∧ ∀ k ∈ declarations, k ∈ declarationKinds

/-- Something may follow with which the kinds are in order. -/
def StartsInOrder (kinds : List String) : Prop :=
  ∃ rest, InOrder (kinds ++ rest)

/-- The first of some nodes that is out of place, and those before it: whatever follows it, the nodes are not in order. -/
structure FirstMisplaced (nodes before : List SyntaxNode) (n : SyntaxNode) : Prop where
  stands : before ++ [n] <+: nodes
  inOrder : StartsInOrder (kindsOf before)
  misplaced : ¬StartsInOrder (kindsOf (before ++ [n]))

/-- What is said of a node that is out of place after some nodes. -/
def misplacedMessage (before : List SyntaxNode) (n : SyntaxNode) : String :=
  if "package_clause" ∉ kindsOf before then s!"expected 'package', found '{snippet n.text}'"
  else if n.kind = "import_declaration" ∧ ∃ k ∈ kindsOf before, k ∈ declarationKinds then
    "imports must appear before other declarations"
  else s!"non-declaration statement outside function body: '{snippet n.text}'"

variable {kinds : List String} {nodes before : List SyntaxNode} {n : SyntaxNode}

theorem InOrder.startsInOrder (h : InOrder kinds) : StartsInOrder kinds :=
  ⟨[], by rwa [List.append_nil]⟩

theorem kindsOf_append (nodes others : List SyntaxNode) : kindsOf (nodes ++ others) = kindsOf nodes ++ kindsOf others := by
  rw [kindsOf, List.map_append, List.filter_append]
  rfl

/-- What starts in order did so before. -/
theorem StartsInOrder.of_append {rest : List String} (h : StartsInOrder (kinds ++ rest)) : StartsInOrder kinds := by
  obtain ⟨more, hmore⟩ := h
  exact ⟨rest ++ more, by rwa [← List.append_assoc]⟩

/-- The first node that is out of place is one. -/
theorem FirstMisplaced.unique {before' : List SyntaxNode} {n' : SyntaxNode} (h : FirstMisplaced nodes before n)
    (h' : FirstMisplaced nodes before' n') : before = before' ∧ n = n' := by
  -- Of two such nodes the later one would have the earlier one before it.
  have hle : ∀ {a b : List SyntaxNode} {x y : SyntaxNode}, FirstMisplaced nodes a x → FirstMisplaced nodes b y →
      b.length ≤ a.length := by
    intro a b x y ha hb
    by_contra hlt
    have hlength : (a ++ [x]).length ≤ b.length := by
      rw [List.length_append, List.length_singleton]
      omega
    obtain ⟨rest, rfl⟩ := List.prefix_of_prefix_length_le ha.stands ((List.prefix_append _ _).trans hb.stands) hlength
    have hstarts := hb.inOrder
    rw [kindsOf_append] at hstarts
    exact ha.misplaced hstarts.of_append
  have hlength : (before ++ [n]).length = (before' ++ [n']).length := by
    rw [List.length_append, List.length_append, Nat.le_antisymm (hle h' h) (hle h h')]
    rfl
  have heq := (List.prefix_of_prefix_length_le h.stands h'.stands (Nat.le_of_eq hlength)).eq_of_length hlength
  obtain ⟨hbefore, hn⟩ := List.append_inj' heq rfl
  exact ⟨hbefore, List.head_eq_of_cons_eq hn⟩

/-! ## What may follow -/

theorem InOrder.package_mem (h : InOrder kinds) : "package_clause" ∈ kinds := by
  obtain ⟨imports, declarations, rfl, -, -⟩ := h
  exact List.mem_cons_self ..

/-- Before other declarations another import may follow. -/
theorem InOrder.append_import (h : InOrder kinds) (hnone : ¬∃ k ∈ kinds, k ∈ declarationKinds) :
    InOrder (kinds ++ ["import_declaration"]) := by
  obtain ⟨imports, declarations, rfl, himports, hdeclarations⟩ := h
  cases declarations with
  | nil =>
    refine ⟨imports ++ ["import_declaration"], [], by simp, fun k hk => ?_, hdeclarations⟩
    rcases List.mem_append.1 hk with hk | hk
    · exact himports k hk
    · exact List.mem_singleton.1 hk
  | cons d declarations => exact absurd ⟨d, by simp, hdeclarations d (List.mem_cons_self ..)⟩ hnone

/-- Another declaration may always follow. -/
theorem InOrder.append_declaration (h : InOrder kinds) {k : String} (hk : k ∈ declarationKinds) :
    InOrder (kinds ++ [k]) := by
  obtain ⟨imports, declarations, rfl, himports, hdeclarations⟩ := h
  refine ⟨imports, declarations ++ [k], by simp, himports, fun d hd => ?_⟩
  rcases List.mem_append.1 hd with hd | hd
  · exact hdeclarations d hd
  · exact List.mem_singleton.1 hd ▸ hk

/-- After the package clause nothing but an import may follow, and that before other declarations only, or a declaration. -/
theorem InOrder.of_append {k : String} {rest : List String} (h : InOrder (kinds ++ k :: rest)) (hne : kinds ≠ []) :
    (k = "import_declaration" ∧ ¬∃ d ∈ kinds, d ∈ declarationKinds) ∨ k ∈ declarationKinds := by
  obtain ⟨imports, declarations, heq, himports, hdeclarations⟩ := h
  obtain ⟨first, more, rfl⟩ := List.exists_cons_of_ne_nil hne
  obtain ⟨rfl, htail⟩ := List.cons.inj heq
  rcases List.append_eq_append_iff.1 htail with ⟨between, rfl, hrest⟩ | ⟨between, rfl, hrest⟩
  · cases between with
    | nil =>
      have hk : k ∈ declarations := by
        rw [← List.nil_append declarations, ← hrest]
        exact List.mem_cons_self ..
      exact Or.inr (hdeclarations k hk)
    | cons k' between =>
      obtain ⟨rfl, -⟩ := List.cons.inj hrest
      refine Or.inl ⟨himports k (by simp), ?_⟩
      rintro ⟨d, hd, hdeclared⟩
      rcases List.mem_cons.1 hd with rfl | hd
      · exact absurd hdeclared (by decide)
      · rw [himports d (List.mem_append_left _ hd)] at hdeclared
        exact absurd hdeclared (by decide)
  · exact Or.inr (hdeclarations k (by rw [hrest]; simp))

/-- Nothing but a package clause may come first. -/
theorem not_startsInOrder_singleton {k : String} (hk : k ≠ "package_clause") : ¬StartsInOrder [k] := by
  rintro ⟨rest, imports, declarations, heq, -, -⟩
  exact hk (List.cons.inj heq).1

theorem not_startsInOrder_append {k : String} (hne : kinds ≠ [])
    (himport : k = "import_declaration" → ∃ d ∈ kinds, d ∈ declarationKinds) (hk : k ∉ declarationKinds) :
    ¬StartsInOrder (kinds ++ [k]) := by
  rintro ⟨rest, hrest⟩
  rw [List.append_assoc, List.singleton_append] at hrest
  rcases hrest.of_append hne with ⟨hk', hnone⟩ | hk'
  · exact hnone (himport hk')
  · exact hk hk'

/-! ## Stages -/

/-- What has been read when the reader is at a stage. -/
def Stage.Reads : Stage → List String → Prop
  | .opening, kinds => kinds = []
  | .imports, kinds => InOrder kinds ∧ ¬∃ k ∈ kinds, k ∈ declarationKinds
  | .declarations, kinds => InOrder kinds ∧ ∃ k ∈ kinds, k ∈ declarationKinds

/-- What something at the top level is by its kind. -/
theorem ofKind_cases (k : String) : (k = "comment" ∧ TopLevel.ofKind k = .comment) ∨
    k ≠ "comment" ∧
      ((k = "package_clause" ∧ TopLevel.ofKind k = .packageClause) ∨
        (k = "import_declaration" ∧ TopLevel.ofKind k = .importDeclaration) ∨
        (k ∈ declarationKinds ∧ TopLevel.ofKind k = .declaration) ∨
        (k ≠ "package_clause" ∧ k ≠ "import_declaration" ∧ k ∉ declarationKinds ∧ TopLevel.ofKind k = .statement)) := by
  unfold TopLevel.ofKind
  split
  · rename_i hk
    exact Or.inl ⟨hk, rfl⟩
  · rename_i hcomment
    refine Or.inr ⟨hcomment, ?_⟩
    split
    · rename_i hk
      exact Or.inl ⟨hk, rfl⟩
    · rename_i hpackage
      split
      · rename_i hk
        exact Or.inr (Or.inl ⟨hk, rfl⟩)
      · rename_i himport
        split
        · rename_i hk
          exact Or.inr (Or.inr (Or.inl ⟨List.contains_iff_mem.1 hk, rfl⟩))
        · rename_i hk
          exact Or.inr (Or.inr (Or.inr ⟨hpackage, himport, mt List.contains_iff_mem.2 hk, rfl⟩))

theorem kindsOf_concat (h : n.kind ≠ "comment") : kindsOf (before ++ [n]) = kindsOf before ++ [n.kind] := by
  rw [kindsOf_append]
  simp [kindsOf, h]

theorem kindsOf_comment (h : n.kind = "comment") : kindsOf (before ++ [n]) = kindsOf before := by
  rw [kindsOf_append]
  simp [kindsOf, h]

namespace Stage

variable {stage : Stage}

/-- After the package clause, what is no import and no declaration is out of place. -/
theorem noDeclaration_of_inOrder (h : InOrder (kindsOf before)) (himport : n.kind ≠ "import_declaration")
    (hk : n.kind ∉ declarationKinds) :
    ¬StartsInOrder (kindsOf before ++ [n.kind]) ∧
      Misplaced.noDeclaration.message (snippet n.text) = misplacedMessage before n := by
  have hne : kindsOf before ≠ [] := List.ne_nil_of_mem h.package_mem
  refine ⟨not_startsInOrder_append hne (fun heq => absurd heq himport) hk, ?_⟩
  rw [misplacedMessage, if_neg (not_not.2 h.package_mem), if_neg fun hand => himport hand.1]
  rfl

/-- One step of the reader: what comes next is read, or it is out of place and the reader says why. -/
theorem next_cases (h : stage.Reads (kindsOf before)) (n : SyntaxNode) :
    (∃ stage', stage.next (.ofKind n.kind) = .ok stage' ∧ stage'.Reads (kindsOf (before ++ [n]))) ∨
      ∃ fault, stage.next (.ofKind n.kind) = .error fault ∧ ¬StartsInOrder (kindsOf (before ++ [n])) ∧
        fault.message (snippet n.text) = misplacedMessage before n := by
  rcases ofKind_cases n.kind with ⟨hcomment, hitem⟩ | ⟨hne, hitem⟩
  · rw [hitem, kindsOf_comment hcomment]
    exact Or.inl ⟨stage, by cases stage <;> rfl, h⟩
  rw [kindsOf_concat hne]
  cases stage with
  | opening =>
    have hbefore : kindsOf before = [] := h
    rw [hbefore, List.nil_append]
    by_cases hk : n.kind = "package_clause"
    · rw [hk]
      exact Or.inl ⟨.imports, rfl, ⟨[], [], rfl, by simp, by simp⟩, by decide⟩
    · have hnext : opening.next (.ofKind n.kind) = .error .beforePackage := by
        rcases hitem with ⟨hk', -⟩ | ⟨-, hitem⟩ | ⟨-, hitem⟩ | ⟨-, -, -, hitem⟩
        · exact absurd hk' hk
        all_goals rw [hitem]; rfl
      refine Or.inr ⟨_, hnext, not_startsInOrder_singleton hk, ?_⟩
      rw [misplacedMessage, if_pos (by rw [hbefore]; exact List.not_mem_nil)]
      rfl
  | imports =>
    obtain ⟨hinOrder, hnone⟩ := h
    rcases hitem with ⟨hk, hitem⟩ | ⟨hk, hitem⟩ | ⟨hk, hitem⟩ | ⟨-, himport, hk, hitem⟩
    · rw [hitem]
      exact Or.inr ⟨_, rfl, noDeclaration_of_inOrder hinOrder (by simp [hk]) (by simp [hk, declarationKinds])⟩
    · rw [hitem, hk]
      refine Or.inl ⟨.imports, rfl, hinOrder.append_import hnone, ?_⟩
      rintro ⟨d, hd, hdeclared⟩
      rcases List.mem_append.1 hd with hd | hd
      · exact hnone ⟨d, hd, hdeclared⟩
      · rw [List.mem_singleton.1 hd] at hdeclared
        exact absurd hdeclared (by decide)
    · rw [hitem]
      exact Or.inl ⟨.declarations, rfl, hinOrder.append_declaration hk, n.kind, by simp, hk⟩
    · rw [hitem]
      exact Or.inr ⟨_, rfl, noDeclaration_of_inOrder hinOrder himport hk⟩
  | declarations =>
    obtain ⟨hinOrder, hdeclared⟩ := h
    rcases hitem with ⟨hk, hitem⟩ | ⟨hk, hitem⟩ | ⟨hk, hitem⟩ | ⟨-, himport, hk, hitem⟩
    · rw [hitem]
      exact Or.inr ⟨_, rfl, noDeclaration_of_inOrder hinOrder (by simp [hk]) (by simp [hk, declarationKinds])⟩
    · have hne : kindsOf before ≠ [] := List.ne_nil_of_mem hinOrder.package_mem
      rw [hitem]
      refine Or.inr ⟨_, rfl, not_startsInOrder_append hne (fun _ => hdeclared) (by simp [hk, declarationKinds]), ?_⟩
      rw [misplacedMessage, if_neg (not_not.2 hinOrder.package_mem), if_pos ⟨hk, hdeclared⟩]
      rfl
    · rw [hitem]
      exact Or.inl ⟨.declarations, rfl, hinOrder.append_declaration hk, n.kind, by simp, hk⟩
    · rw [hitem]
      exact Or.inr ⟨_, rfl, noDeclaration_of_inOrder hinOrder himport hk⟩

/-- What has been read may go on to be in order; it is, once there is a package clause. -/
theorem Reads.startsInOrder {kinds : List String} (h : stage.Reads kinds) : StartsInOrder kinds := by
  cases stage with
  | opening =>
    obtain rfl : kinds = [] := h
    exact ⟨["package_clause"], [], [], rfl, by simp, by simp⟩
  | imports | declarations => exact h.1.startsInOrder

end Stage

/-- A run of the reader: it reads all nodes, or it stops at the first one that is out of place. -/
theorem readTopLevel_cases {stage : Stage} (h : stage.Reads (kindsOf before)) (nodes : List SyntaxNode) :
    (∃ stage', readTopLevel stage (nodes.map fun n => .ofKind n.kind) = .ok stage' ∧
      stage'.Reads (kindsOf (before ++ nodes))) ∨
    ∃ between n fault, readTopLevel stage (nodes.map fun n => .ofKind n.kind) = .error (between.length, fault) ∧
      FirstMisplaced (before ++ nodes) (before ++ between) n ∧
      fault.message (snippet n.text) = misplacedMessage (before ++ between) n := by
  induction nodes generalizing before stage with
  | nil => exact Or.inl ⟨stage, rfl, by rwa [List.append_nil]⟩
  | cons n rest ih =>
    have hsplit : before ++ n :: rest = before ++ [n] ++ rest := by simp
    rw [List.map_cons, readTopLevel]
    rcases stage.next_cases h n with ⟨stage', hnext, hreads⟩ | ⟨fault, hnext, hmisplaced, hmessage⟩
    · rw [hnext, hsplit]
      rcases ih hreads with ⟨last, hread, hlast⟩ | ⟨between, m, fault, hread, hfirst, hmessage⟩
      · exact Or.inl ⟨last, by simp only [hread]; rfl, hlast⟩
      · have hbetween : before ++ n :: between = before ++ [n] ++ between := by simp
        refine Or.inr ⟨n :: between, m, fault, by simp only [hread]; rfl, ?_⟩
        rw [hbetween]
        exact ⟨hfirst, hmessage⟩
    · rw [hnext]
      refine Or.inr ⟨[], n, fault, rfl, ?_⟩
      rw [List.append_nil]
      exact ⟨⟨⟨rest, hsplit.symm⟩, h.startsInOrder, hmisplaced⟩, hmessage⟩

/-! ## The check -/

/-- Where all may go on to be in order, nothing is out of place. -/
theorem StartsInOrder.not_firstMisplaced (h : StartsInOrder (kindsOf nodes)) :
    ¬∃ before n, FirstMisplaced nodes before n := by
  rintro ⟨before, n, hfirst⟩
  obtain ⟨rest, rfl⟩ := hfirst.stands
  rw [kindsOf_append] at h
  exact hfirst.misplaced h.of_append

/-- The nodes at the top level of a tree that have a meaning of their own. -/
def topLevel (root : SyntaxTree) : List SyntaxNode :=
  (root.children.map SyntaxTree.top).filter (·.named)

theorem checkTopLevel_cases (root : SyntaxTree) :
    (InOrder (kindsOf (topLevel root)) ∧ checkTopLevel root = .ok ()) ∨
      (∃ before n, FirstMisplaced (topLevel root) before n ∧
        checkTopLevel root = .error (complaintAt n (misplacedMessage before n))) ∨
      (kindsOf (topLevel root) = [] ∧ checkTopLevel root = .error noPackage) := by
  have hopening : Stage.opening.Reads (kindsOf []) := rfl
  unfold checkTopLevel topLevel
  dsimp only
  generalize (root.children.map SyntaxTree.top).filter (·.named) = nodes
  rcases readTopLevel_cases hopening nodes with ⟨stage, hread, hreads⟩ | ⟨before, n, fault, hread, hfirst, hmessage⟩
  · rw [hread]
    cases stage with
    | opening => exact Or.inr (Or.inr ⟨hreads, rfl⟩)
    | imports | declarations => exact Or.inl ⟨hreads.1, rfl⟩
  · obtain ⟨rest, hrest⟩ := hfirst.stands
    have hget : nodes[before.length]? = some n := by
      rw [List.nil_append, List.nil_append] at hrest
      rw [← hrest]
      simp
    simp only [hread, hget, hmessage]
    exact Or.inr (Or.inl ⟨before, n, hfirst, rfl⟩)

/-- A tree in which nothing is wrong is accepted exactly if what stands at its top level is in order: comments apart, one
package clause, then imports, then other declarations. Otherwise it is refused at the first node after which nothing could
put the top level in order, with what is said of such a node; or, where there is none, at the start for want of a package
clause. -/
theorem checkTree_inOrder (root : SyntaxTree) (h : ∀ n ∈ root.preorder, n.status = .sound) :
    (checkTree root = .ok () ↔ InOrder (kindsOf (topLevel root))) ∧
    ∀ e, checkTree root = .error e ↔
      (∃ before n, FirstMisplaced (topLevel root) before n ∧ e = complaintAt n (misplacedMessage before n)) ∨
      ((¬∃ before n, FirstMisplaced (topLevel root) before n) ∧ "package_clause" ∉ kindsOf (topLevel root) ∧
        e = noPackage) := by
  have hcheck : checkTree root = checkTopLevel root := by rw [checkTree, SyntaxTree.firstError?_eq_none h]
  rw [hcheck]
  rcases checkTopLevel_cases root with ⟨hinOrder, hok⟩ | ⟨before, n, hfirst, herror⟩ | ⟨hnone, herror⟩
  · rw [hok]
    refine ⟨iff_of_true rfl hinOrder, fun e => iff_of_false nofun ?_⟩
    rintro (⟨before, n, hfirst, -⟩ | ⟨-, hmissing, -⟩)
    · exact hinOrder.startsInOrder.not_firstMisplaced ⟨before, n, hfirst⟩
    · exact hmissing hinOrder.package_mem
  · rw [herror]
    refine ⟨iff_of_false nofun fun hinOrder => ?_, fun e => ?_⟩
    · exact hinOrder.startsInOrder.not_firstMisplaced ⟨before, n, hfirst⟩
    · rw [Except.error.injEq]
      constructor
      · rintro rfl
        exact Or.inl ⟨before, n, hfirst, rfl⟩
      · rintro (⟨before', n', hfirst', rfl⟩ | ⟨hno, -, -⟩)
        · obtain ⟨rfl, rfl⟩ := hfirst.unique hfirst'
          rfl
        · exact absurd ⟨before, n, hfirst⟩ hno
  · have hopening : Stage.opening.Reads (kindsOf (topLevel root)) := hnone
    have hstarts := hopening.startsInOrder
    rw [herror]
    refine ⟨iff_of_false nofun fun hinOrder => ?_, fun e => ?_⟩
    · have hmem := hinOrder.package_mem
      rw [hnone] at hmem
      exact List.not_mem_nil hmem
    · rw [Except.error.injEq]
      constructor
      · rintro rfl
        exact Or.inr ⟨hstarts.not_firstMisplaced, by rw [hnone]; exact List.not_mem_nil, rfl⟩
      · rintro (⟨before, n, hfirst, -⟩ | ⟨-, -, rfl⟩)
        · exact absurd ⟨before, n, hfirst⟩ hstarts.not_firstMisplaced
        · rfl

/-- A node of a kind that takes a row of its own. -/
def rowNode (row : Nat) (kind text : String) : SyntaxNode where
  kind
  named := true
  status := .sound
  start := ⟨text.toList, 0, row, 0⟩
  stop := ⟨[], text.length, row, text.length⟩

/-- A tree with an import after a function, and a comment between the two. -/
def lateImport : SyntaxTree :=
  .node (rowNode 0 "source_file" "package p")
    ([rowNode 0 "package_clause" "package p", rowNode 1 "function_declaration" "func f()", rowNode 2 "comment" "// g",
      rowNode 3 "import_declaration" "import g"].map fun n => .node n [])

/-- The import is the first node that is out of place, and it is said to come too late. -/
theorem checkTree_inOrder_late :
    (∀ n ∈ lateImport.preorder, n.status = .sound) ∧
    ∃ before n, FirstMisplaced (topLevel lateImport) before n ∧
      complaintAt n (misplacedMessage before n) = ⟨4, 1, "imports must appear before other declarations"⟩ := by
  have hsound : ∀ n ∈ lateImport.preorder, n.status = .sound := by
    simp [lateImport, SyntaxTree.preorder, SyntaxTree.preorderAll, rowNode]
  obtain ⟨-, herror⟩ := checkTree_inOrder lateImport hsound
  rcases (herror ⟨4, 1, "imports must appear before other declarations"⟩).1 rfl with
    ⟨before, n, hfirst, hcomplaint⟩ | ⟨-, -, heq⟩
  · exact ⟨hsound, before, n, hfirst, hcomplaint.symm⟩
  · exact absurd heq (by decide)

end GoSource
end ComponentAudit
