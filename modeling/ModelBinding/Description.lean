import ModelBinding.Handle
import ModelBinding.Kind

/-!
# Descriptions

A description is a name bound to a node, with what is known about that node where its
document is not at hand. A node may be described under its Local ID and under its
Global ID; the two descriptions differ in name and form only.
-/

namespace ModelBinding

/-- Which identity of the node a description uses as its name. -/
inductive NameForm where
  /-- The Local ID, qualified inside the data model. -/
  | localForm
  /-- The Global ID, qualified by the data model's reference name. -/
  | globalForm
  deriving DecidableEq

/-- How a form is shown. -/
def NameForm.name : NameForm → String
  | .localForm => "Local"
  | .globalForm => "Global"

/-- A name bound to a node. -/
structure Description where
  /-- The name. -/
  name : String
  /-- The kind of the node. -/
  kind : NodeKind
  /-- The node. -/
  node : NodePtr
  /-- The address of the node's document. -/
  uri : String
  /-- The data model that owned the document when the description was made. -/
  dataModel : Option DataModelId
  /-- Which identity the name is. -/
  form : NameForm
  deriving DecidableEq

namespace Description

/-- Whether the name is a Local ID. -/
def isLocal (d : Description) : Bool := d.form = .localForm

/-- Whether the name is a Global ID. -/
def isGlobal (d : Description) : Bool := d.form = .globalForm

/-- The descriptions of nodes that may stand where a kind is asked for. -/
def ofKind (k : NodeKind) (ds : List Description) : List Description :=
  ds.filter (·.kind.isSubtypeOf k)

@[simp] theorem mem_ofKind {k : NodeKind} {ds : List Description} {d : Description} :
    d ∈ ofKind k ds ↔ d ∈ ds ∧ d.kind.isSubtypeOf k = true := by
  simp [ofKind]

theorem ofKind_append (k : NodeKind) (ds es : List Description) :
    ofKind k (ds ++ es) = ofKind k ds ++ ofKind k es :=
  List.filter_append ..

theorem ofKind_flatMap {α : Type} (k : NodeKind) (f : α → List Description) (l : List α) :
    ofKind k (l.flatMap f) = l.flatMap fun a => ofKind k (f a) :=
  List.filter_flatMap

end Description

end ModelBinding
