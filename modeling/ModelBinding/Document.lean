import ModelBinding.Node

/-!
# Documents

A document is a tree of nodes kept in one list, its arena: a node is named by its
position there, the root is first, and a node stands behind its parent. The nodes
that the author wrote come first; behind them stand the nodes that a build derived,
and `parsedLen` is where they begin. Walks go down only to later positions and up
only to earlier ones, so they end on every document, well formed or not.
-/

namespace ModelBinding

/-- One model file as a tree of nodes. -/
structure Document where
  /-- The number the workspace gave it. -/
  id : DocumentId
  /-- Where the file is. -/
  uri : String
  /-- The arena. -/
  nodes : List Node
  /-- How many nodes, from the front, the author wrote. -/
  parsedLen : Nat
  deriving DecidableEq

namespace Document

/-- The number of nodes. -/
def size (d : Document) : Nat := d.nodes.length

/-- Whether there is nothing but the root. -/
def isEmpty (d : Document) : Bool := d.size ≤ 1

/-- The node of this document as seen from the workspace. -/
def ptr (d : Document) (n : NodeId) : NodePtr := ⟨d.id, n⟩

/-- The node at a place of the arena. -/
def node? (d : Document) (n : NodeId) : Option Node := d.nodes[n.index]?

/-- The kind of a node. -/
def kind? (d : Document) (n : NodeId) : Option NodeKind := (d.node? n).map (·.kind)

/-- The container of a node. -/
def parent? (d : Document) (n : NodeId) : Option NodeId := (d.node? n).bind (·.parent)

/-- The nodes contained in a node, in order. -/
def children (d : Document) (n : NodeId) : List NodeId :=
  ((d.node? n).map (·.children)).getD []

/-- The children of one kind, in order. -/
def childrenOfKind (d : Document) (n : NodeId) (k : NodeKind) : List NodeId :=
  (d.children n).filter (d.kind? · = some k)

/-- The non-empty identifier of a node. -/
def ownId? (d : Document) (n : NodeId) : Option String := (d.node? n).bind (·.ownId?)

/-- The containers of a node, innermost first. -/
def ancestors (d : Document) (n : NodeId) : List NodeId :=
  match d.parent? n with
  | none => []
  | some p => if p.index < n.index then p :: d.ancestors p else []
termination_by n.index

/-- The innermost container of one kind. -/
def ancestorOfKind? (d : Document) (n : NodeId) (k : NodeKind) : Option NodeId :=
  (d.ancestors n).find? (d.kind? · = some k)

/-- A node and all that it contains, each node before its children and these in order. -/
def descendants (d : Document) (n : NodeId) : List NodeId :=
  match _h : d.node? n with
  | none => []
  | some node =>
    n :: node.children.flatMap fun c => if _hc : n.index < c.index then d.descendants c else []
termination_by d.nodes.length - n.index
decreasing_by
  have hlt : n.index < d.nodes.length := by
    obtain ⟨hlt, -⟩ := List.getElem?_eq_some_iff.1 ‹d.node? n = some node›
    exact hlt
  omega

/-- All nodes of the tree, each before its children and these in order. -/
def walk (d : Document) : List NodeId := d.descendants .root

/-- Whether a place of the arena is behind the nodes that the author wrote. -/
def isDerived (d : Document) (n : NodeId) : Bool := d.parsedLen ≤ n.index

/-- The place that the next node will take. -/
def nextNode (d : Document) : NodeId := ⟨d.nodes.length⟩

/-- Change the node at a place, if there is one. -/
def modifyNode (d : Document) (n : NodeId) (f : Node → Node) : Document :=
  { d with nodes := d.nodes.modify n.index f }

/-- Append a node as the last child of `parent`; it takes the place `d.nextNode`. -/
def push (d : Document) (parent : NodeId) (node : Node) : Document :=
  { d with
    nodes := (d.nodes ++ [{ node with parent := some parent }]).modify parent.index fun p =>
      { p with children := p.children ++ [d.nextNode] } }

/-- Remove the derived nodes, from the arena and from the lists of children. -/
def dropDerived (d : Document) : Document :=
  { d with
    nodes := (d.nodes.take d.parsedLen).map fun n =>
      { n with children := n.children.filter (·.index < d.parsedLen) } }

/-- Count all present nodes as written by the author. -/
def markParsed (d : Document) : Document := { d with parsedLen := d.nodes.length }

/-- Forget what the references were found to mean. -/
def resetReferences (d : Document) : Document :=
  { d with nodes := d.nodes.map (·.resetReferences) }

/-- A document with nothing but its root, of no workspace. -/
def blank (uri : String) : Document where
  id := .unassigned
  uri := uri
  nodes := [{ kind := .root }]
  parsedLen := 1

/-- The document with the given nodes, each under the parent beside it, in order. -/
def ofDrafts (uri : String) (drafts : List (NodeId × Draft)) : Document :=
  (drafts.foldl (fun d n => d.push n.1 n.2.toNode) (blank uri)).markParsed

/-- Every draft stands under the root or under a draft before it; the draft at position `i` becomes
the node `i + 1`. -/
def ParentsFirst (drafts : List (NodeId × Draft)) : Prop :=
  ∀ (i : Nat) (draft : NodeId × Draft), drafts[i]? = some draft → draft.1.index ≤ i

/-- A node is there exactly when its place is inside the arena. -/
theorem node?_isSome_iff (d : Document) (n : NodeId) : (d.node? n).isSome ↔ n.index < d.size := by
  simp [node?, size]

@[simp] theorem size_push (d : Document) (parent : NodeId) (node : Node) :
    (d.push parent node).size = d.size + 1 := by
  simp [push, size]

@[simp] theorem size_modifyNode (d : Document) (n : NodeId) (f : Node → Node) :
    (d.modifyNode n f).size = d.size := by
  simp [modifyNode, size]

@[simp] theorem size_resetReferences (d : Document) : d.resetReferences.size = d.size := by
  simp [resetReferences, size]

/-- Every ancestor stands before the node. -/
theorem index_lt_of_mem_ancestors {d : Document} {n a : NodeId} (h : a ∈ d.ancestors n) :
    a.index < n.index := by
  fun_induction ancestors d n with
  | case1 => simp at h
  | case2 n p _ hlt ih =>
    rcases List.mem_cons.1 h with rfl | h
    · exact hlt
    · exact Nat.lt_trans (ih h) hlt
  | case3 => simp at h

end Document

end ModelBinding
