import ModelBinding.Resolver.Basic
import ModelBinding.Resolver.SourceClosure

/-!
# Scopes that depend on the context

Some references see something other than the general scope:

- a dependency of a data model sees all data models but its own;
- a side of a relationship attribute sees the attributes of the entity on the same side
  of the relationship;
- the entity of a source may not be the entity of the mapping's target;
- a dependency of a source sees the other sources of the same mapping;
- a join condition sees the attributes of its source and of all sources in its closure.
-/

namespace ModelBinding.Resolver

/-- Descriptions of data models other than the one declared around the site, and other than the
one that owns the document. -/
def dataModelDependencyScope (r : Resolver) (d : Document) (n : NodeId) : Scope :=
  let around := (d.ancestorOfKind? n .dataModel).map d.ptr
  .single <| (r.index.globalScope .dataModel).filter fun e =>
    some e.node ≠ around && (r.registry.modelOf? d = none || e.dataModel ≠ r.registry.modelOf? d)

/-- Whether a description is named inside the entity's name and describes a child of the entity. -/
def isMember (r : Resolver) (entity e : Description) : Bool :=
  Name.isInside entity.name e.name && e.node.document = entity.node.document &&
    (r.document? entity.node.document).bind (·.parent? e.node.node) = some entity.node.node

/-- The general scope narrowed to the members of the entity that the relationship around the site
has on the same side; empty if that is not resolved. -/
def relationshipAttributeScope (r : Resolver) (d : Document) (n : NodeId) (side : Property)
    (target : NodeKind) : Scope :=
  match d.ancestorOfKind? n .relationship with
  | none => .empty
  | some relationship =>
    match r.bind d relationship side .logicalEntity with
    | none => .empty
    | some entity => (r.generalScope d n target).filter (r.isMember entity)

/-- The entity of the first target of the mapping around a node. -/
def targetEntity? (r : Resolver) (d : Document) (n : NodeId) : Option NodePtr :=
  (((d.ancestorOfKind? n .mapping).bind fun m => (d.childrenOfKind m .targetObject).head?).bind
    fun t => r.bind d t .entity .logicalEntity).map (·.node)

/-- The general scope without the entity of the mapping's target. -/
def sourceEntityScope (r : Resolver) (d : Document) (n : NodeId) (target : NodeKind) : Scope :=
  match r.targetEntity? d n with
  | none => r.generalScope d n target
  | some excluded => (r.generalScope d n target).filter (·.node ≠ excluded)

/-- The other sources of the mapping, under their own identifiers. -/
def sourceDependencyScope (r : Resolver) (d : Document) (n : NodeId) : Scope :=
  match d.ancestorOfKind? n .sourceObject with
  | none => .empty
  | some owner =>
    match d.parent? owner with
    | none => .empty
    | some mapping =>
      .single <| ((d.namedSources mapping).filter (·.2 ≠ owner)).map fun s =>
        d.describe (r.registry.modelOf? d) s.2 .sourceObject s.1 .localForm

/-- The attributes of a source, qualified by its identifier; none if it has no identifier. -/
def sourceAttributes (r : Resolver) (d : Document) (source : NodeId) : List Description :=
  match d.ownId? source with
  | none => []
  | some sourceId =>
    (d.childrenOfKind source .sourceObjectAttribute).filterMap fun a =>
      (d.ownId? a).map fun attributeId =>
        d.describe (r.registry.modelOf? d) a .sourceObjectAttribute
          (Name.qualify sourceId attributeId) .localForm

/-- The attributes of the source around the site and of all sources it depends on. -/
def joinAttributeScope (r : Resolver) (d : Document) (n : NodeId) : Scope :=
  match d.ancestorOfKind? n .sourceObject with
  | none => .empty
  | some owner => .single ((d.sourceClosure owner).flatMap (r.sourceAttributes d))

end ModelBinding.Resolver
