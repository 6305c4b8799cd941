import ModelBinding.Resolver.Resolve
import ModelBinding.Workspace

/-!
# Snapshots

A snapshot is a workspace with the index and the registry that belong to it. Sites are
resolved against a snapshot. For a site at the end of an imagined chain, the chain is
added to a copy of its document, and resolution sees the copy in place of the document;
the snapshot itself stays as it is.
-/

namespace ModelBinding

/-- Documents, what they declare, and the data models they belong to. -/
structure Snapshot where
  /-- The documents. -/
  workspace : Workspace := .empty
  /-- What they declare. -/
  index : Index := .empty
  /-- The data models. -/
  registry : Registry := {}
  deriving DecidableEq

namespace Snapshot

/-- The resolver that sees the documents of the snapshot. -/
def resolver (s : Snapshot) : Resolver := ⟨s.workspace.get?, s.index, s.registry⟩

/-- The node that an imagined node describes, outside any tree. -/
def nodeOfImagined (n : ImaginedNode) : Node :=
  { kind := n.kind, id := n.id, references := Node.freshReferences n.references }

/-- The document with a chain of nodes added inside `parent`, and the last node of the chain, which
is `parent` itself if there are none. -/
def hang (d : Document) (parent : NodeId) : List ImaginedNode → Document × NodeId
  | [] => (d, parent)
  | n :: ns => hang (d.push parent (nodeOfImagined n)) d.nextNode ns

/-- The node of a document, first in the walk, that remembers a Global ID. -/
def findAnchor? (d : Document) (globalId : String) : Option NodeId :=
  d.walk.find? fun n => (d.node? n).bind (·.globalId) = some globalId

/-- The document of a chain and the node in it that contains the chain, or what is missing. A chain
without anchor may be in an unsaved document that is not there. -/
def base (s : Snapshot) (c : ImaginedChain) : Except ScopeError (Document × NodeId) :=
  match s.workspace.at? c.uri with
  | some d =>
    match c.anchor with
    | none => .ok (d, .root)
    | some globalId =>
      match findAnchor? d globalId with
      | none => .error (.unknownAnchor globalId c.uri)
      | some n => .ok (d, n)
  | none =>
    if c.unsaved ∧ c.anchor = none then .ok (.blank c.uri, .root) else .error (.unknownUri c.uri)

/-- A copy of the chain's document with the chain in it, and the last node of the chain. -/
def materialize (s : Snapshot) (c : ImaginedChain) : Except ScopeError (Document × NodeId) :=
  (s.base c).map fun b => hang b.1 b.2 c.nodes

/-- The resolver for a site and the node the site belongs to. -/
def place (s : Snapshot) (site : Site) : Except ScopeError (Resolver × NodePtr) :=
  match site.container with
  | .node ptr => .ok (s.resolver, ptr)
  | .imagined c => (s.materialize c).map fun m => (s.resolver.overlay m.1, m.1.ptr m.2)

/-- The scope of a site, or why it has none. -/
def scope? (s : Snapshot) (site : Site) : Except ScopeError Scope :=
  match s.place site with
  | .error e => .error e
  | .ok (r, ptr) => r.scopeAt ptr site.property

/-- What the reference at a site means, or why the site has no scope. -/
def resolve? (s : Snapshot) (site : Site) : Except ScopeError (Option Description) :=
  match s.place site with
  | .error e => .error e
  | .ok (r, ptr) => r.resolveAt ptr site.property site.index

/-- The scope of a site; a site without scope sees nothing. -/
def scope (s : Snapshot) (site : Site) : Scope :=
  match s.scope? site with
  | .ok scope => scope
  | .error _ => .empty

/-- What the reference at a site means; nothing if the site has no scope. -/
def resolve (s : Snapshot) (site : Site) : Option Description :=
  match s.resolve? site with
  | .ok found => found
  | .error _ => none

/-- What a text would mean at a site. -/
def resolveText (s : Snapshot) (site : Site) (text : String) : Option Description :=
  (s.scope site).lookup text

/-- A chain without nodes leaves the document as it is. -/
@[simp] theorem hang_nil (d : Document) (parent : NodeId) : hang d parent [] = (d, parent) := rfl

/-- A chain adds its nodes and nothing else. -/
theorem size_hang (d : Document) (parent : NodeId) (nodes : List ImaginedNode) :
    (hang d parent nodes).1.size = d.size + nodes.length := by
  induction nodes generalizing d parent with
  | nil => rfl
  | cons n ns ih =>
    rw [hang, ih, Document.size_push, List.length_cons]
    omega

end Snapshot

end ModelBinding
