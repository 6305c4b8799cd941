import ModelBinding.Proofs.Moved
import ModelBinding.Proofs.Renumber.Document

/-!
# Resolution under other numbers

Other numbers are a move of nodes that leaves their places alone. So if two resolvers show
the same to two documents but for numbers, then the scopes of these documents differ only
in numbers (`Resolver.AlikeFor.scopeOf`). They do so to all alike documents if they see
alike documents, and indexes that differ only in numbers; then every answer differs only
in numbers too (`Resolver.Alike.scopeOf`, `Resolver.Alike.resolve`). With the numbers left
alone this says that no answer depends on what references remember.
-/

namespace ModelBinding

variable {f : DocumentId → DocumentId}

/-- The scope of the renumbered descriptions. -/
def Scope.renumber (f : DocumentId → DocumentId) (s : Scope) : Scope :=
  ⟨s.inner.map (·.renumber f), s.outer.map (·.map (·.renumber f))⟩

namespace Scope

@[simp] theorem renumber_single (elements : List Description) :
    (single elements).renumber f = single (elements.map (·.renumber f)) := rfl

/-- Names mean the same under other numbers. -/
theorem lookup_renumber (s : Scope) (name : String) :
    (s.renumber f).lookup name = (s.lookup name).map (·.renumber f) := s.lookup_moved name

end Scope

namespace Resolver

/-- What two resolvers show to a document of the one and a document of the other is the same up to
numbers, but for dependencies of data models. -/
structure AlikeFor (f : DocumentId → DocumentId) (r t : Resolver) (d e : Document) : Prop where
  /-- Different documents have different numbers. -/
  injective : Function.Injective f
  /-- The data models are the same. -/
  registry : t.registry = r.registry
  /-- The documents are alike. -/
  document : Document.Alike f d e
  /-- Their container tables are the same. -/
  locals : t.index.locals? e.id = (r.index.locals? d.id).map (·.renumber f)
  /-- Their data models declare the same, in the same order. -/
  packageScope : ∀ k, t.packageScope e k = (r.packageScope d k).map (·.renumber f)
  /-- Those that are visible from them declare the same, in the same order. -/
  dependencyScope : ∀ k, t.dependencyScope e k = (r.dependencyScope d k).map (·.renumber f)
  /-- In the documents that the scopes show nodes have the same parents. -/
  parents : ∀ n k, ∀ x ∈ (r.generalScope d n k).elements, ∀ m,
    (t.document? (f x.node.document)).bind (·.parent? m) =
      (r.document? x.node.document).bind (·.parent? m)

namespace AlikeFor

variable {r t : Resolver} {d e : Document} (h : AlikeFor f r t d e)
include h

theorem tableOf (n : NodeId) : t.tableOf e n = (r.tableOf d n).map (·.renumber f) := by
  rw [Resolver.tableOf, Resolver.tableOf, Index.localsOf, Index.localsOf, h.locals]
  cases r.index.locals? d.id with
  | none => rfl
  | some tables => exact LocalTables.table_renumber ..

theorem isMember {n : NodeId} {target : NodeKind} {entity : Description}
    (hentity : entity ∈ (r.generalScope d n target).elements) (member : Description) :
    t.isMember (entity.renumber f) (member.renumber f) = r.isMember entity member := by
  have hparent := h.parents n target entity hentity member.node.node
  simp only [Resolver.isMember, Description.name_renumber, Description.node_renumber,
    NodePtr.renumber, hparent, h.injective.eq_iff]

/-- What is shown to one document is shown to the other where it is found under its number. -/
theorem matchesAll : MatchesAll (·.renumber f) (fun n => n) r t d e where
  injective := NodePtr.renumber_injective h.injective
  registry := h.registry
  modelOf? := h.document.modelOf? r.registry
  above _ _ _ _ := trivial
  ancestors n _ := by rw [h.document.ancestors, List.map_id']
  kind? n _ := h.document.kind? n
  text? n _ := h.document.text? n
  below _ _ _ _ := trivial
  targets n _ := by rw [h.document.childrenOfKind, List.map_id']
  table n _ k _ := by
    rw [h.tableOf]
    exact Description.ofKind_map_renumber ..
  packageScope k _ := h.packageScope k
  dependencyScope k _ := h.dependencyScope k
  place_injective _ _ heq := heq
  parent? n := by rw [h.document.parent?, Option.map_id']
  ownId? := h.document.ownId?
  sources n := by rw [h.document.childrenOfKind, List.map_id']
  dependencies n := by rw [h.document.childrenOfKind, List.map_id']
  attributes n _ _ := by simp only [h.document.childrenOfKind, h.document.ownId?, List.map_id']
  describe n _ _ model k name form := h.document.describe model n k name form
  isMember _ _ _ hx y := h.isMember hx y

/-- Whatever the kind and the property, the scopes differ in numbers only, but for dependencies of
data models. -/
theorem scopeOf {kind : NodeKind} (hkind : kind ≠ .dataModelDependency) (n : NodeId) (p : Property)
    (target : NodeKind) :
    t.scopeOf e n kind p target = (r.scopeOf d n kind p target).renumber f :=
  h.matchesAll.scopeOf hkind n p target

end AlikeFor

/-- Two resolvers whose documents are alike and whose indexes differ in numbers only. -/
structure Alike (f : DocumentId → DocumentId) (r t : Resolver) : Prop where
  /-- Different documents have different numbers. -/
  injective : Function.Injective f
  /-- The data models are the same. -/
  registry : t.registry = r.registry
  /-- The same is exported, in the same order. -/
  globalScope : ∀ k, t.index.globalScope k = (r.index.globalScope k).map (·.renumber f)
  /-- The tables are the same. -/
  locals : ∀ id, t.index.locals? (f id) = (r.index.locals? id).map (·.renumber f)
  /-- The documents are alike. -/
  documents : ∀ id, Option.Rel (Document.Alike f) (r.document? id) (t.document? (f id))

namespace Alike

variable {r t : Resolver} {d e : Document} (H : Alike f r t) (h : Document.Alike f d e)
include H

/-- Where one resolver finds a document, the other finds one that is alike. -/
theorem document_some {id : DocumentId} {d : Document} (hd : r.document? id = some d) :
    ∃ e, t.document? (f id) = some e ∧ Document.Alike f d e := by
  have hrel := H.documents id
  rw [hd] at hrel
  cases he : t.document? (f id) with
  | none =>
    rw [he] at hrel
    cases hrel
  | some e =>
    rw [he] at hrel
    cases hrel with
    | some h => exact ⟨e, rfl, h⟩

/-- Where one resolver finds nothing, neither does the other. -/
theorem document_none {id : DocumentId} (hd : r.document? id = none) :
    t.document? (f id) = none := by
  have hrel := H.documents id
  rw [hd] at hrel
  cases he : t.document? (f id) with
  | none => rfl
  | some e =>
    rw [he] at hrel
    cases hrel

/-- In documents under corresponding numbers nodes have the same parents. -/
theorem bind_parent? (id : DocumentId) (m : NodeId) :
    (t.document? (f id)).bind (·.parent? m) = (r.document? id).bind (·.parent? m) := by
  cases hd : r.document? id with
  | none => rw [H.document_none hd]
  | some d =>
    obtain ⟨e, he, hde⟩ := H.document_some hd
    rw [he]
    exact hde.parent? m

include h

theorem packageScope (target : NodeKind) :
    t.packageScope e target = (r.packageScope d target).map (·.renumber f) := by
  simp only [Resolver.packageScope, H.globalScope, H.registry, h.modelOf?, List.filter_map]
  rfl

theorem dependencyScope (target : NodeKind) :
    t.dependencyScope e target = (r.dependencyScope d target).map (·.renumber f) := by
  unfold Resolver.dependencyScope
  rw [H.registry, h.modelOf?]
  cases r.registry.modelOf? d with
  | none => rfl
  | some source =>
    have hdep : (t.isDependency source ·) ∘ (·.renumber f) = (r.isDependency source ·) := by
      funext e
      simp [isDependency, H.registry]
    simp only [H.globalScope, List.filter_map]
    exact congrArg (fun keep => ((r.index.globalScope target).filter keep).map (·.renumber f)) hdep

/-- To alike documents the resolvers show the same up to numbers. -/
theorem alikeFor : AlikeFor f r t d e where
  injective := H.injective
  registry := H.registry
  document := h
  locals := by rw [h.id, H.locals]
  packageScope := H.packageScope h
  dependencyScope := H.dependencyScope h
  parents := fun _ _ x _ m => H.bind_parent? x.node.document m

theorem dataModelDependencyScope (n : NodeId) :
    t.dataModelDependencyScope e n = (r.dataModelDependencyScope d n).renumber f := by
  have haround : (e.ancestorOfKind? n .dataModel).map e.ptr =
      ((d.ancestorOfKind? n .dataModel).map d.ptr).map (·.renumber f) := by
    rw [h.ancestorOfKind?, Option.map_map]
    exact congrArg (Option.map · _) (funext h.ptr)
  have hptr : ∀ p : NodePtr, some (p.renumber f) ≠
      ((d.ancestorOfKind? n .dataModel).map d.ptr).map (·.renumber f) ↔
        some p ≠ (d.ancestorOfKind? n .dataModel).map d.ptr := by
    intro p
    have hinj := Option.map_injective (NodePtr.renumber_injective H.injective)
    exact not_congr (hinj.eq_iff (a := some p))
  simp only [Resolver.dataModelDependencyScope, haround, H.globalScope, H.registry, h.modelOf?,
    Scope.renumber_single, List.filter_map]
  refine congrArg Scope.single (congrArg (List.map _) (List.filter_congr fun x _ => ?_))
  exact congrArg (· && _) (decide_eq_decide.2 (hptr x.node))

/-- Whatever the kind and the property, the scopes differ in numbers only. -/
theorem scopeOf (n : NodeId) (kind : NodeKind) (p : Property) (target : NodeKind) :
    t.scopeOf e n kind p target = (r.scopeOf d n kind p target).renumber f := by
  by_cases hkind : kind = .dataModelDependency
  · subst hkind
    exact H.dataModelDependencyScope h n
  · exact (H.alikeFor h).scopeOf hkind n p target

omit h

/-- What a reference means differs in numbers only. -/
theorem resolve (ptr : NodePtr) (p : Property) (i : Nat) :
    t.resolve (ptr.renumber f) p i = (r.resolve ptr p i).map (·.renumber f) := by
  unfold Resolver.resolve resolveAt scopeAt locate
  cases hd : r.document? ptr.document with
  | none => simp [NodePtr.renumber, H.document_none hd]
  | some d =>
    obtain ⟨e, he, h⟩ := H.document_some hd
    have htext := h.text? ptr.node p i
    cases hnode : d.node? ptr.node with
    | none => simp [NodePtr.renumber, he, hnode, h.node?_none hnode]
    | some node =>
      obtain ⟨node', hnode', heq⟩ := h.node?_some hnode
      have hkind : node'.kind = node.kind := congrArg (·.kind) heq
      simp only [hnode, hnode', Option.bind_some] at htext
      simp only [NodePtr.renumber, he, hnode, hnode', hkind]
      cases href : node.referenceAt? p i with
      | none =>
        have href' : node'.referenceAt? p i = none := by simpa [href] using htext
        simp [href']
      | some ref =>
        obtain ⟨ref', href', heq⟩ : ∃ ref', node'.referenceAt? p i = some ref' ∧
            ref'.text = ref.text := by simpa [href] using htext
        simp only [href', heq]
        cases node.kind.referenceTarget? p with
        | none => rfl
        | some target =>
          simp only [Except.map, H.scopeOf h, Scope.lookup_renumber]

/-- The attributes of an entity differ in numbers only. -/
theorem entityAttributes (entity : NodePtr) (kind : NodeKind) :
    (t.entityAttributes (entity.renumber f)).map (fun a => a.2.derive kind a.1) =
      (r.entityAttributes entity).map fun a => (a.2.derive kind a.1).renumber f := by
  unfold Resolver.entityAttributes
  cases hd : r.document? entity.document with
  | none => simp [NodePtr.renumber, H.document_none hd]
  | some d =>
    obtain ⟨e, he, h⟩ := H.document_some hd
    simp only [NodePtr.renumber, he, h.kind?]
    by_cases hentity : d.kind? entity.node = some .logicalEntity
    · simp only [hentity, if_true, h.childrenOfKind, List.map_filterMap, Option.map_map]
      refine List.filterMap_congr fun a _ => ?_
      have hnode := h.map_node? (fun n => n.derive kind ((d.ptr a).renumber f)) (fun _ => rfl)
        (fun _ => rfl) a
      simp only [Function.comp_def, h.ptr]
      exact hnode
    · simp [hentity]

/-- The copies for a viewing node differ in numbers only. -/
theorem viewAttributes (view : NodePtr) (kind : NodeKind) :
    t.viewAttributes (view.renumber f) kind =
      (r.viewAttributes view kind).map (·.renumber f) := by
  unfold Resolver.viewAttributes
  rw [H.resolve]
  cases r.resolve view .entity 0 with
  | none => rfl
  | some entity =>
    simp only [Option.map_some, Description.node_renumber, H.entityAttributes entity.node kind,
      List.map_map, Function.comp_def]

include h

/-- Plans differ in numbers only. -/
theorem views_plan : (t.plan e).views =
    (r.plan d).views.map fun v => ⟨v.view, v.attributes.map (·.renumber f)⟩ := by
  simp only [plan, h.walk, List.map_filterMap]
  refine List.filterMap_congr fun n _ => ?_
  simp only [planView?, h.kind?, Option.map_map, h.ptr]
  congr 1
  funext kind
  simp only [Function.comp_def, H.viewAttributes]

end Alike

end Resolver

end ModelBinding
