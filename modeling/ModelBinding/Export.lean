import ModelBinding.LocalTables

/-!
# Exports

What a document declares for the rest of the workspace. Before exporting, the derived
nodes of the last build are dropped and the Global IDs of the identified nodes are
computed anew. Every node that has a Global ID and an identifier is then described
twice, under its Local ID and under its Global ID, in the order of the walk.
-/

namespace ModelBinding.Document

/-- Give every node of an identified kind its current Global ID to remember. -/
def rememberGlobalIds (d : Document) (r : Registry) : Document :=
  { d with
    nodes := d.nodes.mapIdx fun i n =>
      if n.kind.isIdentified then { n with globalId := r.globalId? d ⟨i⟩ } else n }

/-- The document as it stands when it is exported: without derived nodes, and with the Global IDs
of the current registry. -/
def prepare (d : Document) (r : Registry) : Document := d.dropDerived.rememberGlobalIds r

/-- The two descriptions of a node with a remembered Global ID and a Local ID. -/
def exportEntries (d : Document) (model : Option DataModelId) (n : NodeId) : List Description :=
  match d.node? n with
  | none => []
  | some node =>
    match node.globalId, d.localId? n with
    | some g, some l =>
      [d.describe model n node.kind l .localForm, d.describe model n node.kind g .globalForm]
    | _, _ => []

/-- The exports of a document that has been prepared. -/
def exports (d : Document) (r : Registry) : List Description :=
  d.walk.flatMap (d.exportEntries (r.modelOf? d))

@[simp] theorem size_rememberGlobalIds (d : Document) (r : Registry) :
    (d.rememberGlobalIds r).size = d.size := by
  simp [rememberGlobalIds, size]

@[simp] theorem id_prepare (d : Document) (r : Registry) : (d.prepare r).id = d.id := rfl

@[simp] theorem uri_prepare (d : Document) (r : Registry) : (d.prepare r).uri = d.uri := rfl

/-- Every export describes a node of its own document. -/
theorem node_document_of_mem_exports {d : Document} {r : Registry} {e : Description}
    (h : e ∈ d.exports r) : e.node.document = d.id := by
  obtain ⟨n, -, hn⟩ := List.mem_flatMap.1 h
  unfold exportEntries at hn
  split at hn
  · simp at hn
  · split at hn
    · simp only [List.mem_cons, List.not_mem_nil, or_false] at hn
      rcases hn with rfl | rfl <;> rfl
    · simp at hn

end ModelBinding.Document
