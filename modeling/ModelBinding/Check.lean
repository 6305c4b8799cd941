import ModelBinding.Derivation
import ModelBinding.Diagnostic

/-!
# Checks

Two checks of a document. Every written reference should mean something; one that does
not is reported as invisible if a data model that cannot be seen declares a node of the
right kind under that name, and as unresolved otherwise. Binding expressions are no
names and are not checked. And no two nodes of a data model should have one Global ID;
all but the first in the order of the index are reported.
-/

namespace ModelBinding

namespace Resolver

/-- Whether a description would be what a reference `text` from a document means if its data model
were visible. -/
def isHidden (r : Resolver) (d : Document) (text : String) (e : Description) : Bool :=
  e.isGlobal && e.name = text &&
    e.dataModel.any fun m =>
      match r.registry.modelOf? d with
      | none => true
      | some source => m ≠ source && !r.registry.isVisible source m true

/-- The declaration that a reference `text` to a kind would mean if it were visible, and the data
model it belongs to. -/
def hidden? (r : Resolver) (d : Document) (target : NodeKind) (text : String) :
    Option (NodePtr × DataModelId) :=
  ((r.index.globalScope target).find? (r.isHidden d text)).bind fun e =>
    e.dataModel.map fun m => (e.node, m)

/-- The finding for a reference that means nothing. -/
def explain (r : Resolver) (d : Document) (n : NodeId) (kind : NodeKind) (p : Property)
    (text : String) : Diagnostic :=
  match (kind.referenceTarget? p).bind fun target => r.hidden? d target text with
  | some (target, owner) => .invisible (d.ptr n) p text target owner
  | none => .unresolved (d.ptr n) kind p text

/-- The finding for one reference of a node, if there is one. -/
def checkReference (r : Resolver) (d : Document) (n : NodeId) (kind : NodeKind) (p : Property)
    (i : Nat) (text : String) : Option Diagnostic :=
  if kind = .attributeMapping ∧ p = .expression then none
  else if (r.resolve (d.ptr n) p i).isSome then none
  else some (r.explain d n kind p text)

/-- The findings for the references of a node. -/
def checkNode (r : Resolver) (d : Document) (n : NodeId) : List Diagnostic :=
  match d.node? n with
  | none => []
  | some node =>
    node.numberedReferences.filterMap fun ref =>
      r.checkReference d n node.kind ref.1 ref.2.1 ref.2.2.text

/-- The findings for the references that the author of a document wrote. -/
def checkReferences (r : Resolver) (d : Document) : List Diagnostic :=
  (d.walk.filter fun n => !d.isDerived n).flatMap (r.checkNode d)

end Resolver

namespace Index

/-- The first description in Global form with the name and the data model of another. -/
def firstDeclared? (i : Index) (e : Description) : Option Description :=
  i.all.find? fun f => f.isGlobal && f.name = e.name && f.dataModel = e.dataModel

/-- The finding for an export whose name an earlier node has. -/
def checkDuplicate (i : Index) (e : Description) : Option Diagnostic :=
  (i.firstDeclared? e).bind fun first =>
    if first.node = e.node then none else some (.duplicate e.node e.name first.node)

/-- The findings for the exports of a document whose names are taken. -/
def checkDuplicates (i : Index) (id : DocumentId) : List Diagnostic :=
  ((i.exportsOf id).filter (·.isGlobal)).filterMap i.checkDuplicate

end Index

end ModelBinding
