import ModelBinding.Keyed
import ModelBinding.Kind
import ModelBinding.Reference

/-!
# Nodes

A node of a model document: its kind, the texts the author wrote, its references,
its place in the tree, and what the build adds to it. A node with an empty `id`
counts as a node without one. Documents are made of new nodes, which `Draft` describes;
a node taken over from another document, with the children, the remembered Global ID and
the attribute it shows there, is none of them.
-/

namespace ModelBinding

/-- A node of a document. -/
structure Node where
  /-- What sort of thing the node declares. -/
  kind : NodeKind
  /-- The identifier the author gave it. -/
  id : Option String := none
  /-- A name for readers. -/
  name : Option String := none
  /-- A description for readers. -/
  description : Option String := none
  /-- Free properties, in order. -/
  properties : Keyed String String := .empty
  /-- References, each under a property, in order; a property may occur several times. -/
  references : List (Property × Reference) := []
  /-- The node that contains this one. -/
  parent : Option NodeId := none
  /-- The nodes contained in this one, in order. -/
  children : List NodeId := []
  /-- The Global ID remembered by the last build. -/
  globalId : Option String := none
  /-- For a derived attribute, the attribute it shows. -/
  derivedFrom : Option NodePtr := none
  deriving DecidableEq

namespace Node

/-- The node's identifier, if it is there and not empty. -/
def ownId? (n : Node) : Option String := n.id.filter (· ≠ "")

/-- The references under one property, in order. -/
def referencesOf (n : Node) (p : Property) : List Reference :=
  (n.references.filter (·.1 = p)).map (·.2)

/-- The reference at a position among those of one property. -/
def referenceAt? (n : Node) (p : Property) (i : Nat) : Option Reference := (n.referencesOf p)[i]?

/-- The first reference of a property. -/
def reference? (n : Node) (p : Property) : Option Reference := n.referenceAt? p 0

/-- The value of a free property. -/
def property? (n : Node) (key : String) : Option String := n.properties.get? key

/-- The properties that hold references, each once, in order of first use. -/
def referenceProperties (n : Node) : List Property := (n.references.map (·.1)).eraseDups

/-- The node with all its references as if never looked up. -/
def resetReferences (n : Node) : Node :=
  { n with references := n.references.map fun r => (r.1, r.2.reset) }

/-- References as they are before any look-up. -/
def freshReferences (texts : List (Property × String)) : List (Property × Reference) :=
  texts.map fun t => (t.1, ⟨t.2, none⟩)

/-- The references with their positions among those of the same property, when those of `seen`
came before. -/
def numbered (seen : List Property) :
    List (Property × Reference) → List (Property × Nat × Reference)
  | [] => []
  | (p, r) :: rs => (p, seen.count p, r) :: numbered (p :: seen) rs

/-- The references in order, each with its position among those of the same property. -/
def numberedReferences (n : Node) : List (Property × Nat × Reference) := numbered [] n.references

/-- A copy that stands for the attribute `source` in a view: texts and free properties are
copied, references and place in the tree are not. -/
def derive (n : Node) (kind : NodeKind) (source : NodePtr) : Node where
  kind := kind
  id := n.id
  name := n.name
  description := n.description
  properties := n.properties
  derivedFrom := some source

/-- Change the reference at a position among those of one property. -/
def modifyReferenceAt (n : Node) (p : Property) (i : Nat) (f : Reference → Reference) : Node :=
  { n with references := go n.references i }
where
  /-- The list of references with the `i`-th of the property changed. -/
  go : List (Property × Reference) → Nat → List (Property × Reference)
    | [], _ => []
    | r :: rs, i =>
      if r.1 = p then
        match i with
        | 0 => (r.1, f r.2) :: rs
        | i + 1 => r :: go rs i
      else r :: go rs i

@[simp] theorem ownId?_resetReferences (n : Node) : n.resetReferences.ownId? = n.ownId? := rfl

@[simp] theorem ownId?_eq_some_iff (n : Node) (id : String) :
    n.ownId? = some id ↔ n.id = some id ∧ id ≠ "" := by
  simp [ownId?, Option.filter_eq_some_iff]

end Node

/-- What an author writes for a new node: everything but its place in the tree. A draft has no
children, remembers no Global ID and shows no attribute, so no node of another document is one. -/
structure Draft where
  /-- What sort of thing the node declares. -/
  kind : NodeKind
  /-- Its identifier. -/
  id : Option String := none
  /-- A name for readers. -/
  name : Option String := none
  /-- A description for readers. -/
  description : Option String := none
  /-- Free properties, in order; of several values for one key the last counts. -/
  properties : List (String × String) := []
  /-- References, each under a property, in order. -/
  references : List (Property × String) := []
  deriving DecidableEq

/-- The node that a draft describes, outside any tree. -/
def Draft.toNode (d : Draft) : Node where
  kind := d.kind
  id := d.id
  name := d.name
  description := d.description
  properties := .ofList d.properties
  references := Node.freshReferences d.references

end ModelBinding
