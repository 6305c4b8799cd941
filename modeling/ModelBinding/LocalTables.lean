import ModelBinding.Description
import ModelBinding.Identity

/-!
# Container tables

Each node of a document has a table of what is declared directly inside it. A
reference looks through the tables of its containers, so these names are known inside
the document without being exported. Tables are filled from the nodes the author
wrote; derived attributes are added to them afterwards.
-/

namespace ModelBinding

/-- The tables of all nodes of a document. -/
structure LocalTables where
  /-- Descriptions, each with the node in whose table it stands, in order of insertion. -/
  entries : List (NodeId × Description) := []
  deriving DecidableEq

namespace LocalTables

/-- Tables without entries. -/
def empty : LocalTables := {}

/-- The table of a node, in order of insertion. -/
def table (t : LocalTables) (container : NodeId) : List Description :=
  (t.entries.filter (·.1 = container)).map (·.2)

/-- The tables with one description more, at the end of the table of `container`. -/
def add (t : LocalTables) (container : NodeId) (d : Description) : LocalTables :=
  ⟨t.entries ++ [(container, d)]⟩

/-- The tables with more descriptions, each at the end of its table. -/
def append (t : LocalTables) (more : List (NodeId × Description)) : LocalTables :=
  ⟨t.entries ++ more⟩

/-- The number of descriptions. -/
def size (t : LocalTables) : Nat := t.entries.length

/-- The nodes whose tables are not empty, each once. -/
def containers (t : LocalTables) : List NodeId := (t.entries.map (·.1)).eraseDups

@[simp] theorem table_append (t : LocalTables) (more : List (NodeId × Description)) (c : NodeId) :
    (t.append more).table c = t.table c ++ (LocalTables.mk more).table c := by
  simp [table, append]

/-- Adding to one table appends to it and leaves the others alone. -/
theorem table_add (t : LocalTables) (container c : NodeId) (d : Description) :
    (t.add container d).table c = t.table c ++ if container = c then [d] else [] := by
  by_cases h : container = c <;> simp [table, add, h]

end LocalTables

namespace Document

/-- The description of a node under a name. -/
def describe (d : Document) (model : Option DataModelId) (n : NodeId) (kind : NodeKind)
    (name : String) (form : NameForm) : Description where
  name := name
  kind := kind
  node := d.ptr n
  uri := d.uri
  dataModel := model
  form := form

/-- What a written node contributes to the table of its container: its Local ID, and its Global ID
if the build gave it one. The root contributes nothing. -/
def tableEntries (d : Document) (model : Option DataModelId) (n : NodeId) :
    List (NodeId × Description) :=
  match d.node? n, d.parent? n, d.localId? n with
  | some node, some container, some name =>
    (container, d.describe model n node.kind name .localForm) ::
      (node.globalId.map fun g =>
        (container, d.describe model n node.kind g .globalForm)).toList
  | _, _, _ => []

/-- The tables of the nodes that the author wrote. Global IDs are those remembered by the nodes. -/
def localTables (d : Document) (r : Registry) : LocalTables :=
  ⟨(d.walk.filter fun n => !d.isDerived n).flatMap (d.tableEntries (r.modelOf? d))⟩

end Document

end ModelBinding
