import ModelBinding.Derivation
import ModelBinding.Proofs.Tree

/-!
# Scopes under a move of nodes

A build may put the nodes of a document at other places, and a workspace may give it
another number. If what two resolvers show to two documents is the same but for such a
move, around some nodes and of some kinds, then references of these nodes to such kinds
mean the same but for the move (`Resolver.Matches`). If it is so around all nodes and of
all kinds, every scope but that of a dependency of a data model is the moved one
(`Resolver.MatchesAll.scopeOf`).
-/

namespace ModelBinding

variable {σ : NodePtr → NodePtr} {ρ : NodeId → NodeId}

/-- Move the nodes of one document. -/
def NodePtr.movedIn (id : DocumentId) (ρ : NodeId → NodeId) (p : NodePtr) : NodePtr :=
  if p.document = id then ⟨id, ρ p.node⟩ else p

namespace NodePtr

@[simp] theorem movedIn_mk (id : DocumentId) (ρ : NodeId → NodeId) (n : NodeId) :
    (⟨id, n⟩ : NodePtr).movedIn id ρ = ⟨id, ρ n⟩ := if_pos rfl

/-- Nodes of other documents stay. -/
theorem movedIn_of_ne {id : DocumentId} {p : NodePtr} (h : p.document ≠ id) (ρ : NodeId → NodeId) :
    p.movedIn id ρ = p := if_neg h

@[simp] theorem document_movedIn (id : DocumentId) (ρ : NodeId → NodeId) (p : NodePtr) :
    (p.movedIn id ρ).document = p.document := by
  unfold movedIn
  split
  · exact (‹p.document = id›).symm
  · rfl

/-- Different nodes stay different if those of the document do. -/
theorem injective_movedIn (id : DocumentId) (hρ : Function.Injective ρ) :
    Function.Injective fun p : NodePtr => p.movedIn id ρ := by
  rintro ⟨i, n⟩ ⟨j, m⟩ h
  obtain rfl : i = j := by simpa using congrArg NodePtr.document h
  by_cases hi : i = id
  · subst hi
    simpa [hρ.eq_iff] using h
  · simpa [movedIn, hi] using h

end NodePtr

/-- The description of the node where it has moved to. -/
def Description.moved (σ : NodePtr → NodePtr) (x : Description) : Description :=
  { x with node := σ x.node }

/-- The scope of the moved descriptions. -/
def Scope.moved (σ : NodePtr → NodePtr) (s : Scope) : Scope :=
  ⟨s.inner.map (·.moved σ), s.outer.map (·.map (·.moved σ))⟩

/-- What is asked of a kind is asked of the moved descriptions. -/
theorem Description.ofKind_map_moved (k : NodeKind) (xs : List Description) :
    ofKind k (xs.map (·.moved σ)) = (ofKind k xs).map (·.moved σ) := by
  simp only [ofKind, List.filter_map]
  rfl

/-- A description of a node that stays is left as it is. -/
theorem Description.moved_of_eq {x : Description} (h : σ x.node = x.node) : x.moved σ = x := by
  rw [moved, h]

/-- A node is described where it has moved to. -/
theorem Document.describe_moved {d e : Document} (hid : e.id = d.id) (huri : e.uri = d.uri)
    (ρ : NodeId → NodeId) (model : Option DataModelId) (n : NodeId) (k : NodeKind) (name : String)
    (form : NameForm) : e.describe model (ρ n) k name form =
      (d.describe model n k name form).moved (·.movedIn d.id ρ) := by
  simp only [describe, ptr, Description.moved, NodePtr.movedIn_mk, hid, huri]

namespace Scope

@[simp] theorem moved_single (elements : List Description) :
    (single elements).moved σ = single (elements.map (·.moved σ)) := rfl

@[simp] theorem elements_moved (s : Scope) :
    (s.moved σ).elements = s.elements.map (·.moved σ) := by
  simp [elements, layers, moved, List.map_flatten]

/-- Names mean the same after a move. -/
theorem lookup_moved (s : Scope) (name : String) :
    (s.moved σ).lookup name = (s.lookup name).map (·.moved σ) := by
  rw [lookup_eq_find?, lookup_eq_find?, elements_moved, List.find?_map]
  rfl

/-- Filtering commutes with a move, for conditions that do. -/
theorem filter_moved (s : Scope) {keep keep' : Description → Bool}
    (h : ∀ x, keep' (x.moved σ) = keep x) : (s.moved σ).filter keep' = (s.filter keep).moved σ := by
  simp [filter, moved, List.filter_map, Function.comp_def, h]

end Scope

namespace Resolver

/-- The container table of a node of a document. -/
def tableOf (r : Resolver) (d : Document) (n : NodeId) : List Description :=
  (r.index.localsOf d.id).table n

/-- The tables around a node, restricted to a kind, without the empty ones. -/
theorem containerLayers_eq (r : Resolver) (d : Document) (n : NodeId) (target : NodeKind) :
    r.containerLayers d n target =
      ((n :: d.ancestors n).map fun c => Description.ofKind target (r.tableOf d c)).filter
        (!·.isEmpty) := by
  unfold containerLayers tableOf Index.localsOf
  cases r.index.locals? d.id with
  | none =>
    refine (List.filter_eq_nil_iff.2 fun layer hlayer => ?_).symm
    obtain ⟨c, -, rfl⟩ := List.mem_map.1 hlayer
    simp [LocalTables.table, LocalTables.empty, Description.ofKind]
  | some tables => rfl

section Global

variable {r t : Resolver} {d e : Document} (hregistry : t.registry = r.registry)
  (hmodel : r.registry.modelOf? e = r.registry.modelOf? d)
  (hglobal : ∀ k, t.index.globalScope k = r.index.globalScope k)
include hregistry hmodel hglobal

/-- What a data model declares follows from the exports. -/
theorem packageScope_congr (target : NodeKind) :
    t.packageScope e target = r.packageScope d target := by
  simp only [packageScope, hglobal, hregistry, hmodel]

/-- So does what is declared by those that are visible from it. -/
theorem dependencyScope_congr (target : NodeKind) :
    t.dependencyScope e target = r.dependencyScope d target := by
  have hdependency : t.isDependency = r.isDependency := by
    funext source x
    rw [isDependency, isDependency, hregistry]
  simp only [dependencyScope, hglobal, hregistry, hmodel, hdependency]

end Global

/-- What a reference means in the general scope is in that scope. -/
theorem mem_elements_of_bind {r : Resolver} {d : Document} {n : NodeId} {p : Property}
    {target : NodeKind} {x : Description} (h : r.bind d n p target = some x) :
    x ∈ (r.generalScope d n target).elements := by
  obtain ⟨ref, -, hlookup⟩ := Option.bind_eq_some_iff.1 h
  rw [Scope.lookup_eq_find?] at hlookup
  exact List.mem_of_find?_eq_some hlookup

/-- What one resolver shows to a document, around some nodes and of some kinds, another shows to a
second document after a move. -/
structure Matches (σ : NodePtr → NodePtr) (ρ : NodeId → NodeId) (near : NodeId → Prop)
    (asked : NodeKind → Prop) (r t : Resolver) (d e : Document) : Prop where
  /-- Different nodes of a workspace stay different. -/
  injective : Function.Injective σ
  /-- The data models are the same. -/
  registry : t.registry = r.registry
  /-- The documents belong to the same one. -/
  modelOf? : r.registry.modelOf? e = r.registry.modelOf? d
  /-- What contains the nodes belongs to them. -/
  above : ∀ n, near n → ∀ a ∈ d.ancestors n, near a
  /-- What contains the nodes moves with them. -/
  ancestors : ∀ n, near n → e.ancestors (ρ n) = (d.ancestors n).map ρ
  /-- The nodes keep their kinds. -/
  kind? : ∀ n, near n → e.kind? (ρ n) = d.kind? n
  /-- Their references keep their texts. -/
  text? : ∀ n, near n → ∀ p i, ((e.node? (ρ n)).bind (·.referenceAt? p i)).map (·.text) =
    ((d.node? n).bind (·.referenceAt? p i)).map (·.text)
  /-- The targets of mappings belong to the nodes. -/
  below : ∀ n, near n → ∀ c ∈ d.childrenOfKind n .targetObject, near c
  /-- The targets move with the mappings. -/
  targets : ∀ n, near n →
    e.childrenOfKind (ρ n) .targetObject = (d.childrenOfKind n .targetObject).map ρ
  /-- The tables of the nodes show the same of the kinds. -/
  table : ∀ n, near n → ∀ k, asked k → Description.ofKind k (t.tableOf e (ρ n)) =
    (Description.ofKind k (r.tableOf d n)).map (·.moved σ)
  /-- The data models of the documents declare the same of the kinds, in the same order. -/
  packageScope : ∀ k, asked k → t.packageScope e k = (r.packageScope d k).map (·.moved σ)
  /-- Those that are visible from them declare the same, in the same order. -/
  dependencyScope : ∀ k, asked k → t.dependencyScope e k = (r.dependencyScope d k).map (·.moved σ)

namespace Matches

variable {near : NodeId → Prop} {asked : NodeKind → Prop} {r t : Resolver} {d e : Document}
  (h : Matches σ ρ near asked r t d e) {n : NodeId} (hn : near n)
include h hn

/-- The innermost container of a kind moves with the node. -/
theorem ancestorOfKind? (k : NodeKind) :
    e.ancestorOfKind? (ρ n) k = (d.ancestorOfKind? n k).map ρ := by
  rw [Document.ancestorOfKind?, Document.ancestorOfKind?, h.ancestors n hn, List.find?_map,
    ← List.head?_filter, ← List.head?_filter]
  refine congrArg (fun l : List NodeId => l.head?.map ρ) (List.filter_congr fun a ha => ?_)
  simp only [Function.comp_apply, h.kind? a (h.above n hn a ha)]

/-- That container belongs to the nodes. -/
theorem near_ancestorOfKind? {k : NodeKind} {a : NodeId} (ha : d.ancestorOfKind? n k = some a) :
    near a :=
  h.above n hn a (List.mem_of_find?_eq_some ha)

variable {target : NodeKind} (htarget : asked target)
include htarget

theorem containerLayers : t.containerLayers e (ρ n) target =
    (r.containerLayers d n target).map (·.map (·.moved σ)) := by
  have hnear : ∀ c ∈ n :: d.ancestors n, near c := by
    intro c hc
    rcases List.mem_cons.1 hc with rfl | hc
    · exact hn
    · exact h.above n hn c hc
  have htables : ((ρ n :: e.ancestors (ρ n)).map fun c => Description.ofKind target
      (t.tableOf e c)) = ((n :: d.ancestors n).map fun c => Description.ofKind target
        (r.tableOf d c)).map (·.map (·.moved σ)) := by
    rw [h.ancestors n hn, ← List.map_cons, List.map_map, List.map_map]
    exact List.map_congr_left fun c hc => h.table c (hnear c hc) target htarget
  rw [containerLayers_eq, containerLayers_eq, htables, List.filter_map]
  refine congrArg (List.map _) (List.filter_congr fun layer _ => ?_)
  simp

theorem generalScope :
    t.generalScope e (ρ n) target = (r.generalScope d n target).moved σ := by
  unfold Resolver.generalScope
  rw [h.containerLayers hn htarget, h.packageScope target htarget, h.dependencyScope target htarget]
  induction r.containerLayers d n target with
  | nil => rfl
  | cons layer layers ih =>
    rw [List.map_cons, List.foldr_cons, ih]
    rfl

/-- A reference of one of the nodes means the same. -/
theorem bind (p : Property) :
    t.bind e (ρ n) p target = (r.bind d n p target).map (·.moved σ) := by
  have htext := congrArg (fun o : Option String => o.bind fun text =>
    ((r.generalScope d n target).lookup text).map (·.moved σ)) (h.text? n hn p 0)
  simp only [Option.bind_map, Function.comp_def] at htext
  simp only [Resolver.bind, Node.reference?, h.generalScope hn htarget, Scope.lookup_moved, htext,
    Option.map_bind]
  rfl

omit htarget

/-- The target of the mapping around one of the nodes has the same entity. -/
theorem targetEntity? (hentity : asked .logicalEntity) :
    t.targetEntity? e (ρ n) = (r.targetEntity? d n).map σ := by
  simp only [Resolver.targetEntity?, h.ancestorOfKind? hn]
  cases hmapping : d.ancestorOfKind? n .mapping with
  | none => rfl
  | some mapping =>
    have hnear := h.near_ancestorOfKind? hn hmapping
    simp only [Option.map_some, Option.bind_some, h.targets mapping hnear, List.head?_map]
    cases hhead : (d.childrenOfKind mapping .targetObject).head? with
    | none => rfl
    | some object =>
      have hobject := h.below mapping hnear object (List.mem_of_mem_head? hhead)
      simp only [Option.map_some, Option.bind_some, h.bind hobject hentity, Option.map_map]
      rfl

include htarget

theorem sourceEntityScope (hentity : asked .logicalEntity) :
    t.sourceEntityScope e (ρ n) target = (r.sourceEntityScope d n target).moved σ := by
  unfold Resolver.sourceEntityScope
  rw [h.targetEntity? hn hentity, h.generalScope hn htarget]
  cases r.targetEntity? d n with
  | none => rfl
  | some excluded =>
    refine Scope.filter_moved _ fun entity => ?_
    simp [Description.moved, h.injective.eq_iff]

end Matches

/-- What one resolver shows to a document another shows to a second document after a move, but for
dependencies of data models. -/
structure MatchesAll (σ : NodePtr → NodePtr) (ρ : NodeId → NodeId) (r t : Resolver)
    (d e : Document) : Prop
    extends Matches σ ρ (fun _ => True) (fun _ => True) r t d e where
  /-- Different nodes of the document stay different. -/
  place_injective : Function.Injective ρ
  /-- What contains a node directly moves with it. -/
  parent? : ∀ n, e.parent? (ρ n) = (d.parent? n).map ρ
  /-- The nodes keep their identifiers. -/
  ownId? : ∀ n, e.ownId? (ρ n) = d.ownId? n
  /-- The sources of a mapping move with it. -/
  sources : ∀ n, e.childrenOfKind (ρ n) .sourceObject = (d.childrenOfKind n .sourceObject).map ρ
  /-- The dependencies of a source move with it. -/
  dependencies : ∀ n, e.childrenOfKind (ρ n) .sourceObjectDependency =
    (d.childrenOfKind n .sourceObjectDependency).map ρ
  /-- The attributes of a source with an identifier move with it, as far as they have one. -/
  attributes : ∀ n own, d.ownId? n = some own →
    (e.childrenOfKind (ρ n) .sourceObjectAttribute).filter (e.ownId? · |>.isSome) =
      ((d.childrenOfKind n .sourceObjectAttribute).filter (d.ownId? · |>.isSome)).map ρ
  /-- A node with an identifier is described where it has moved to. -/
  describe : ∀ n own, d.ownId? n = some own → ∀ model k name form,
    e.describe model (ρ n) k name form = (d.describe model n k name form).moved σ
  /-- The members of an entity that is shown stay its members. -/
  isMember : ∀ n k, ∀ x ∈ (r.generalScope d n k).elements, ∀ y,
    t.isMember (x.moved σ) (y.moved σ) = r.isMember x y

namespace MatchesAll

variable {r t : Resolver} {d e : Document} (h : MatchesAll σ ρ r t d e)
include h

theorem relationshipAttributeScope (n : NodeId) (side : Property) (target : NodeKind) :
    t.relationshipAttributeScope e (ρ n) side target =
      (r.relationshipAttributeScope d n side target).moved σ := by
  unfold Resolver.relationshipAttributeScope
  rw [h.ancestorOfKind? trivial]
  cases d.ancestorOfKind? n .relationship with
  | none => rfl
  | some relationship =>
    simp only [Option.map_some, h.bind trivial trivial]
    cases hentity : r.bind d relationship side .logicalEntity with
    | none => rfl
    | some entity =>
      simp only [Option.map_some]
      rw [h.generalScope trivial trivial,
        Scope.filter_moved _ (h.isMember _ _ _ (mem_elements_of_bind hentity))]

theorem namedSources (mapping : NodeId) :
    e.namedSources (ρ mapping) = (d.namedSources mapping).map fun s => (s.1, ρ s.2) := by
  simp only [Document.namedSources, h.sources, List.filterMap_map, List.map_filterMap,
    Function.comp_def, h.ownId?, Option.map_map]

theorem sourceDependencyScope (n : NodeId) :
    t.sourceDependencyScope e (ρ n) = (r.sourceDependencyScope d n).moved σ := by
  unfold Resolver.sourceDependencyScope
  rw [h.ancestorOfKind? trivial]
  cases d.ancestorOfKind? n .sourceObject with
  | none => rfl
  | some owner =>
    simp only [Option.map_some, h.parent?]
    cases d.parent? owner with
    | none => rfl
    | some mapping =>
      have hkeep : ∀ s ∈ d.namedSources mapping,
          ((fun s : String × NodeId => decide (s.2 ≠ ρ owner)) ∘
            fun s : String × NodeId => (s.1, ρ s.2)) s = decide (s.2 ≠ owner) := fun s _ =>
        decide_eq_decide.2 (not_congr h.place_injective.eq_iff)
      simp only [Option.map_some, h.namedSources, Scope.moved_single, List.filter_map,
        List.filter_congr hkeep, List.map_map]
      refine congrArg Scope.single (List.map_congr_left fun s hs => ?_)
      obtain ⟨-, hown⟩ := Document.mem_namedSources.1 (List.mem_filter.1 hs).1
      rw [Function.comp_apply, Function.comp_apply, h.registry, h.modelOf?,
        h.describe s.2 s.1 hown]

theorem sourceAttributes (source : NodeId) :
    t.sourceAttributes e (ρ source) = (r.sourceAttributes d source).map (·.moved σ) := by
  unfold Resolver.sourceAttributes
  rw [h.ownId?]
  cases hsource : d.ownId? source with
  | none => rfl
  | some sourceId =>
    -- Attributes without identifier are not shown.
    have hnamed : ∀ (d : Document) (l : List NodeId) (f : NodeId → String → Description),
        (l.filterMap fun a => (d.ownId? a).map (f a)) =
          (l.filter (d.ownId? · |>.isSome)).filterMap fun a => (d.ownId? a).map (f a) := by
      intro d l f
      rw [List.filterMap_filter]
      refine List.filterMap_congr fun a _ => ?_
      cases d.ownId? a <;> rfl
    simp only
    rw [hnamed e, hnamed d, h.attributes source sourceId hsource, List.filterMap_map,
      List.map_filterMap]
    refine List.filterMap_congr fun a _ => ?_
    rw [Function.comp_apply, h.ownId?, Option.map_map]
    cases hown : d.ownId? a with
    | none => rfl
    | some own =>
      simp only [Option.map_some, Function.comp_apply, h.registry, h.modelOf?,
        h.describe a own hown]

/-- A dependency of a source names the source that it named, where that has moved to. -/
theorem dependencyTarget? (sources : List (String × NodeId)) (n : NodeId) :
    e.dependencyTarget? (sources.map fun s => (s.1, ρ s.2)) (ρ n) =
      (d.dependencyTarget? sources n).map ρ := by
  have hfind : ∀ text, ((sources.map fun s => (s.1, ρ s.2)).find? (·.1 = text)).map (·.2) =
      ((sources.find? (·.1 = text)).map (·.2)).map ρ := by
    intro text
    rw [List.find?_map, Option.map_map, Option.map_map]
    rfl
  have htext := congrArg (fun o : Option String => o.bind fun text =>
    ((sources.find? (·.1 = text)).map (·.2)).map ρ) (h.text? n trivial .source 0)
  simp only [Option.bind_map, Function.comp_def] at htext
  simp only [Document.dependencyTarget?, Node.reference?, hfind, htext, Option.map_bind]
  rfl

theorem directDependencies (sources : List (String × NodeId)) (s : NodeId) :
    e.directDependencies (sources.map fun s => (s.1, ρ s.2)) (ρ s) =
      (d.directDependencies sources s).map ρ := by
  simp only [Document.directDependencies, h.dependencies, List.filterMap_map, List.map_filterMap,
    Function.comp_def, h.dependencyTarget?]

theorem visitSources (sources : List (String × NodeId)) (pool stack : List NodeId) :
    e.visitSources (sources.map fun s => (s.1, ρ s.2)) (pool.map ρ) (stack.map ρ) =
      (d.visitSources sources pool stack).map ρ := by
  have hwithout : ∀ s pool, Pool.without (ρ s) (pool.map ρ) = (Pool.without s pool).map ρ := by
    intro s pool
    simp [Pool.without, List.filter_map, Function.comp_def, h.place_injective.eq_iff]
  fun_induction Document.visitSources d sources pool stack with
  | case1 => rw [List.map_nil, Document.visitSources]
  | case2 pool s stack hmem ih =>
    rw [List.map_cons, Document.visitSources, if_pos (List.mem_map_of_mem hmem),
      h.directDependencies, ← List.map_append, hwithout, ih, List.map_cons]
  | case3 pool s stack hmem ih =>
    rw [List.map_cons, Document.visitSources, if_neg, ih]
    rwa [List.mem_map_of_injective h.place_injective]

theorem sourceClosure (owner : NodeId) :
    e.sourceClosure (ρ owner) = (d.sourceClosure owner).map ρ := by
  unfold Document.sourceClosure
  rw [h.parent?]
  cases d.parent? owner with
  | none => rfl
  | some mapping =>
    have hpool : ρ owner :: (e.namedSources (ρ mapping)).map (·.2) =
        (owner :: (d.namedSources mapping).map (·.2)).map ρ := by
      rw [h.namedSources, List.map_cons, List.map_map, List.map_map]
      rfl
    simp only [Option.map_some]
    rw [hpool, h.namedSources, ← h.visitSources]
    rfl

theorem joinAttributeScope (n : NodeId) :
    t.joinAttributeScope e (ρ n) = (r.joinAttributeScope d n).moved σ := by
  unfold Resolver.joinAttributeScope
  rw [h.ancestorOfKind? trivial]
  cases d.ancestorOfKind? n .sourceObject with
  | none => rfl
  | some owner =>
    have hattributes := funext h.sourceAttributes
    simp only [Option.map_some, h.sourceClosure, Scope.moved_single, List.flatMap_map,
      List.map_flatMap, hattributes]

/-- Whatever the kind and the property, the scope is the moved one, but for dependencies of data
models. -/
theorem scopeOf {kind : NodeKind} (hkind : kind ≠ .dataModelDependency) (n : NodeId) (p : Property)
    (target : NodeKind) :
    t.scopeOf e (ρ n) kind p target = (r.scopeOf d n kind p target).moved σ := by
  unfold Resolver.scopeOf
  split
  · rfl
  · exact absurd rfl hkind
  · exact h.sourceDependencyScope n
  · exact h.joinAttributeScope n
  · exact h.relationshipAttributeScope n _ target
  · exact h.relationshipAttributeScope n _ target
  · exact h.sourceEntityScope trivial trivial trivial
  · exact h.generalScope trivial trivial

end MatchesAll

end Resolver

end ModelBinding
