import ModelBinding.Snapshot

/-!
# Derived attributes

Diagram nodes, sources and targets view an entity: a build gives each of them copies of
the attributes of the entity it refers to. All copies for a document are planned first,
against documents and index as they stand, and the plan is then applied to the
document: copies are appended to the arena as children of the viewing node and described
in the container tables, qualified by the identifier of the viewing node in the table of
its container and, for a target, also under their own identifiers in the target's own
table.
-/

namespace ModelBinding

/-- The copies planned for one viewing node. -/
structure ViewPlan where
  /-- The viewing node. -/
  view : NodeId
  /-- The copies, in order. -/
  attributes : List Node
  deriving DecidableEq

/-- The copies planned for one document. -/
structure DerivationPlan where
  /-- The document. -/
  document : DocumentId
  /-- Its viewing nodes in the order of the walk, also those that get nothing. -/
  views : List ViewPlan
  deriving DecidableEq

/-- The number of copies that are planned. -/
def DerivationPlan.attributeCount (p : DerivationPlan) : Nat :=
  (p.views.flatMap (·.attributes)).length

namespace Resolver

/-- The attributes of an entity with their places; none if the node is no entity. -/
def entityAttributes (r : Resolver) (entity : NodePtr) : List (NodePtr × Node) :=
  match r.document? entity.document with
  | none => []
  | some d =>
    if d.kind? entity.node = some .logicalEntity then
      (d.childrenOfKind entity.node .logicalAttribute).filterMap fun a =>
        (d.node? a).map fun node => (d.ptr a, node)
    else []

/-- What a reference means; nothing if there is no scope for it. -/
def resolve (r : Resolver) (ptr : NodePtr) (p : Property) (i : Nat) : Option Description :=
  match r.resolveAt ptr p i with
  | .ok found => found
  | .error _ => none

/-- The copies for a viewing node: one for each attribute of the entity it refers to. -/
def viewAttributes (r : Resolver) (view : NodePtr) (kind : NodeKind) : List Node :=
  match r.resolve view .entity 0 with
  | none => []
  | some entity => (r.entityAttributes entity.node).map fun a => a.2.derive kind a.1

/-- The plan for a node of a document, if it is a viewing node. -/
def planView? (r : Resolver) (d : Document) (n : NodeId) : Option ViewPlan :=
  ((d.kind? n).bind (·.derivedAttributeKind?)).map fun kind =>
    ⟨n, r.viewAttributes (d.ptr n) kind⟩

/-- The plan for a document. -/
def plan (r : Resolver) (d : Document) : DerivationPlan := ⟨d.id, d.walk.filterMap (r.planView? d)⟩

end Resolver

/-- A document and its container tables while a plan is applied to them. -/
structure Derivation where
  /-- The document as far as it has grown. -/
  document : Document
  /-- Its container tables. -/
  tables : LocalTables
  /-- How many copies have been appended. -/
  created : Nat := 0
  deriving DecidableEq

namespace Derivation

/-- The document with a copy appended under a viewing node, with the Global ID it has there. -/
def attach (registry : Registry) (d : Document) (view : NodeId) (copy : Node) : Document :=
  let grown := d.push view copy
  grown.modifyNode d.nextNode fun n => { n with globalId := registry.globalId? grown d.nextNode }

/-- Under which names, and in whose tables, a copy of a viewing node is described. -/
def tableNames (d : Document) (view : NodeId) (viewKind : NodeKind) (attributeId : String) :
    List (NodeId × String) :=
  (match d.ownId? view, d.parent? view with
    | some viewId, some container => [(container, Name.qualify viewId attributeId)]
    | _, _ => []) ++
    if viewKind = .targetObject then [(view, attributeId)] else []

/-- Append one copy to a viewing node and describe it, if it has an identifier. -/
def addAttribute (registry : Registry) (view : NodeId) (viewKind : NodeKind) (s : Derivation)
    (copy : Node) : Derivation where
  document := attach registry s.document view copy
  tables :=
    match copy.ownId? with
    | none => s.tables
    | some attributeId =>
      s.tables.append <| (tableNames s.document view viewKind attributeId).map fun t =>
        (t.1, s.document.describe (registry.modelOf? s.document) s.document.nextNode
          copy.kind t.2 .localForm)
  created := s.created + 1

/-- Append the copies planned for one viewing node, if the node is there. -/
def addView (registry : Registry) (s : Derivation) (v : ViewPlan) : Derivation :=
  match s.document.kind? v.view with
  | none => s
  | some kind => v.attributes.foldl (addAttribute registry v.view kind) s

end Derivation

/-- Apply a plan to its document and the document's container tables. -/
def DerivationPlan.apply (p : DerivationPlan) (registry : Registry) (d : Document)
    (tables : LocalTables) : Derivation :=
  p.views.foldl (Derivation.addView registry) { document := d, tables }

/-- A copy that is appended takes one place of the arena. -/
@[simp] theorem Derivation.size_attach (registry : Registry) (d : Document) (view : NodeId)
    (copy : Node) : (attach registry d view copy).size = d.size + 1 := by
  simp [attach]

end ModelBinding
