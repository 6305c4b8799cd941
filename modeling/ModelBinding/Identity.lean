import ModelBinding.Document
import ModelBinding.Name
import ModelBinding.Registry

/-!
# Identities of nodes

A node has up to three names. Its own identifier is what the author wrote, if that is
not empty. Its Local ID qualifies that by the identifiers of its containers. Its
Global ID qualifies the Local ID by the reference name of the data model that owns the
document; the Global ID of a data model node is the reference name itself. A node is
referred to by its Local ID inside its own data model and by its Global ID from
elsewhere, where it is visible.
-/

namespace ModelBinding

namespace Document

/-- The identifiers of the containers of a node that have one, outermost first. -/
def containerIds (d : Document) (n : NodeId) : List String :=
  ((d.ancestors n).filterMap d.ownId?).reverse

/-- The identifier of a node behind those of its containers. -/
def localId? (d : Document) (n : NodeId) : Option String :=
  (d.ownId? n).map fun own => Name.join (d.containerIds n ++ [own])

/-- The Global ID of a node under a given reference name. -/
def qualifiedId? (d : Document) (n : NodeId) (referenceName : String) : Option String :=
  (d.kind? n).bind fun k =>
    if k = .dataModel then some referenceName
    else (d.localId? n).map (Name.qualify referenceName)

/-- An identifier that no node of the kind has in the subtree of `container`. -/
def freshId (d : Document) (k : NodeKind) (proposal : String) (container : NodeId) : String :=
  Name.fresh proposal
    (((d.descendants container).filter fun n => (d.kind? n).any (·.isSubtypeOf k)).filterMap
      d.ownId?)

/-- A node without identifier has no Local ID. -/
theorem localId?_eq_none_iff (d : Document) (n : NodeId) :
    d.localId? n = none ↔ d.ownId? n = none := by
  simp [localId?]

end Document

namespace Registry

/-- The data model that a document belongs to. -/
def modelOf? (r : Registry) (d : Document) : Option DataModelId := r.owner? d.uri

/-- The Global ID of a node, under the name `given` instead of its data model's reference name if
there is one. -/
def globalId? (r : Registry) (d : Document) (n : NodeId) (given : Option String := none) :
    Option String :=
  (given.or ((r.modelOf? d).bind r.referenceName?)).bind (d.qualifiedId? n)

/-- The name by which a node of the document `target` is referred to from the document `source`.
Across data models the target's must be visible; documents of no data model only refer to
themselves. -/
def referenceId? (r : Registry) (target : Document) (n : NodeId) (source : Document)
    (forReference : Bool) : Option String :=
  match r.modelOf? source, r.modelOf? target with
  | some viewer, some owner =>
    if r.isVisible viewer owner forReference then
      if viewer = owner then target.localId? n else r.globalId? target n
    else none
  | none, none => if source.id = target.id then target.localId? n else none
  | _, _ => none

/-- Outside all data models a node has no Global ID. -/
theorem globalId?_eq_none_of_modelOf?_eq_none {r : Registry} {d : Document}
    (h : r.modelOf? d = none) (n : NodeId) : r.globalId? d n = none := by
  simp [globalId?, h]

end Registry

end ModelBinding
