import ModelBinding.Resolver.Contextual

/-!
# Resolution of references

The kind of a node and the property decide which scope a reference sees. The binding
expression of an attribute mapping sees nothing: it is not a name. A reference means
what its text means in its scope; a reference that is not there means nothing, whatever
the scope would be.
-/

namespace ModelBinding.Resolver

/-- The scope of references to `target` under a property of a node. -/
def scopeOf (r : Resolver) (d : Document) (n : NodeId) (kind : NodeKind) (p : Property)
    (target : NodeKind) : Scope :=
  match kind, p with
  | .attributeMapping, .expression => .empty
  | .dataModelDependency, _ => r.dataModelDependencyScope d n
  | .sourceObjectDependency, _ => r.sourceDependencyScope d n
  | .sourceObjectAttributeReference, _ => r.joinAttributeScope d n
  | .relationshipAttribute, .parent => r.relationshipAttributeScope d n .parent target
  | .relationshipAttribute, .child => r.relationshipAttributeScope d n .child target
  | .sourceObject, .entity => r.sourceEntityScope d n target
  | _, _ => r.generalScope d n target

/-- The scope of references under a property of a node, or why there is none. -/
def scopeAt (r : Resolver) (ptr : NodePtr) (p : Property) : Except ScopeError Scope :=
  match r.locate ptr with
  | .error e => .error e
  | .ok (d, node) =>
    match node.kind.referenceTarget? p with
    | none => .error (.invalidProperty node.kind p)
    | some target => .ok (r.scopeOf d ptr.node node.kind p target)

/-- What the reference at a position of a property of a node means, or why it has no scope. -/
def resolveAt (r : Resolver) (ptr : NodePtr) (p : Property) (i : Nat) :
    Except ScopeError (Option Description) :=
  match r.locate ptr with
  | .error e => .error e
  | .ok (_, node) =>
    match node.referenceAt? p i with
    | none => .ok none
    | some ref => (r.scopeAt ptr p).map (·.lookup ref.text)

end ModelBinding.Resolver
