import ModelBinding.Index
import ModelBinding.Scope
import ModelBinding.Site

/-!
# The general scope

A resolver is all that name resolution may look at: documents by number, the index, and
the registry. For most references it builds the general scope, in which the first match
counts:

1. the tables of the site's node and of its containers, innermost first;
2. the package: every description owned by the site's own data model, in either form;
3. the dependencies: descriptions in Global form of the other data models that are
   visible from it for references.

Outside all data models the package is what no data model owns, and there are no
dependencies. Main statement: what the outer two layers offer is either of the site's
own data model or in Global form of a visible one (`mem_packageScope`,
`mem_dependencyScope`).
-/

namespace ModelBinding

/-- What name resolution may look at. -/
structure Resolver where
  /-- The documents, by number. -/
  document? : DocumentId → Option Document
  /-- What they declare. -/
  index : Index
  /-- The data models. -/
  registry : Registry

namespace Resolver

/-- The resolver that sees `d` as the document of its number. -/
def overlay (r : Resolver) (d : Document) : Resolver :=
  { r with document? := fun id => if id = d.id then some d else r.document? id }

/-- The document and the node at a place, or what is missing. -/
def locate (r : Resolver) (ptr : NodePtr) : Except ScopeError (Document × Node) :=
  match r.document? ptr.document with
  | none => .error (.unknownDocument ptr.document)
  | some d =>
    match d.node? ptr.node with
    | none => .error (.unknownNode ptr)
    | some node => .ok (d, node)

/-- The tables of a node and of its containers, restricted to a kind, without the empty ones. -/
def containerLayers (r : Resolver) (d : Document) (n : NodeId) (target : NodeKind) :
    List (List Description) :=
  match r.index.locals? d.id with
  | none => []
  | some tables =>
    ((n :: d.ancestors n).map fun c => Description.ofKind target (tables.table c)).filter
      (!·.isEmpty)

/-- What the data model of a document declares of a kind. -/
def packageScope (r : Resolver) (d : Document) (target : NodeKind) : List Description :=
  (r.index.globalScope target).filter (·.dataModel = r.registry.modelOf? d)

/-- Whether a description is one in Global form of another data model that is visible from
`source` for references. -/
def isDependency (r : Resolver) (source : DataModelId) (e : Description) : Bool :=
  e.isGlobal && e.dataModel.any fun m => m ≠ source && r.registry.isVisible source m true

/-- What other data models declare of a kind and the data model of a document may refer to. -/
def dependencyScope (r : Resolver) (d : Document) (target : NodeKind) : List Description :=
  match r.registry.modelOf? d with
  | none => []
  | some source => (r.index.globalScope target).filter (r.isDependency source)

/-- The scope of a node for references to a kind, where no other rule applies. -/
def generalScope (r : Resolver) (d : Document) (n : NodeId) (target : NodeKind) : Scope :=
  (r.containerLayers d n target).foldr Scope.push
    ⟨r.packageScope d target, [r.dependencyScope d target]⟩

/-- What a reference of a node means in the general scope. -/
def bind (r : Resolver) (d : Document) (n : NodeId) (p : Property) (target : NodeKind) :
    Option Description :=
  ((d.node? n).bind (·.reference? p)).bind fun ref => (r.generalScope d n target).lookup ref.text

@[simp] theorem overlay_document?_self (r : Resolver) (d : Document) :
    (r.overlay d).document? d.id = some d := by
  simp [overlay]

/-- The layers of the general scope: the container tables, the package, the dependencies. -/
theorem layers_generalScope (r : Resolver) (d : Document) (n : NodeId) (target : NodeKind) :
    (r.generalScope d n target).layers =
      r.containerLayers d n target ++ [r.packageScope d target, r.dependencyScope d target] := by
  unfold generalScope
  induction r.containerLayers d n target with
  | nil => rfl
  | cons layer layers ih => simp [ih]

/-- All that the general scope shows, innermost first. -/
theorem elements_generalScope (r : Resolver) (d : Document) (n : NodeId) (target : NodeKind) :
    (r.generalScope d n target).elements =
      (r.containerLayers d n target).flatten ++
        (r.packageScope d target ++ r.dependencyScope d target) := by
  simp [Scope.elements, layers_generalScope]

/-- The general scope shows what stands in the tables around the site, in the package and among the
dependencies. -/
theorem mem_generalScope {r : Resolver} {d : Document} {n : NodeId} {target : NodeKind}
    {e : Description} :
    e ∈ (r.generalScope d n target).elements ↔
      (∃ layer ∈ r.containerLayers d n target, e ∈ layer) ∨ e ∈ r.packageScope d target ∨
        e ∈ r.dependencyScope d target := by
  rw [elements_generalScope, List.mem_append, List.mem_append, List.mem_flatten]

/-- What is shown of container tables is an entry of those of the document. -/
theorem exists_entry_of_mem_containerLayers {r : Resolver} {d : Document} {n : NodeId}
    {target : NodeKind} {layer : List Description} (hlayer : layer ∈ r.containerLayers d n target)
    {e : Description} (he : e ∈ layer) :
    ∃ tables, r.index.locals? d.id = some tables ∧ ∃ entry ∈ tables.entries, entry.2 = e := by
  unfold containerLayers at hlayer
  cases htables : r.index.locals? d.id with
  | none =>
    rw [htables] at hlayer
    cases hlayer
  | some tables =>
    rw [htables] at hlayer
    obtain ⟨c, -, rfl⟩ := List.mem_map.1 (List.mem_filter.1 hlayer).1
    obtain ⟨entry, hentry, heq⟩ := List.mem_map.1 (Description.mem_ofKind.1 he).1
    exact ⟨tables, rfl, entry, (List.mem_filter.1 hentry).1, heq⟩

/-- The package holds what the document's own data model owns. -/
theorem mem_packageScope {r : Resolver} {d : Document} {target : NodeKind} {e : Description} :
    e ∈ r.packageScope d target ↔
      e ∈ r.index.globalScope target ∧ e.dataModel = r.registry.modelOf? d := by
  simp [packageScope]

/-- A dependency is in Global form and of another data model, visible for references. -/
theorem mem_dependencyScope {r : Resolver} {d : Document} {target : NodeKind} {e : Description} :
    e ∈ r.dependencyScope d target ↔
      e ∈ r.index.globalScope target ∧ e.form = .globalForm ∧
        ∃ source m, r.registry.modelOf? d = some source ∧ e.dataModel = some m ∧ m ≠ source ∧
          r.registry.isVisible source m true = true := by
  unfold dependencyScope
  cases hd : r.registry.modelOf? d with
  | none => simp
  | some source =>
    cases he : e.dataModel with
    | none => simp [isDependency, he]
    | some m => simp [isDependency, he, Description.isGlobal]

end Resolver

end ModelBinding
