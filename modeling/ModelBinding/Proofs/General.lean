import ModelBinding.Proofs.Built

/-!
# The general case

Most references see the general scope of their node (`scope_ofNode`), and what the others
see is taken out of it, or is a node of their own document, but for data models
(`cases_of_mem_scopeOf`). They all refer to nodes of identified kinds, and an exported
node of such a kind is exported under the names that it has now
(`Snapshot.Current.mem_all_of_exported`).
-/

namespace ModelBinding

namespace NodeKind

/-- Whether references of a kind under a property see the general scope. -/
def seesGeneralScope : NodeKind → Property → Bool
  | attributeMapping, .expression => false
  | dataModelDependency, _ | sourceObjectDependency, _ | sourceObjectAttributeReference, _ => false
  | relationshipAttribute, .parent | relationshipAttribute, .child => false
  | sourceObject, .entity => false
  | _, _ => true

/-- References are to nodes of identified kinds. -/
theorem isIdentified_of_referenceTarget? {k target : NodeKind} {p : Property}
    (h : k.referenceTarget? p = some target) : target.isIdentified = true := by
  unfold referenceTarget? at h
  split at h <;> cases h <;> rfl

/-- Derived attributes have no references. -/
theorem isDerivedAttribute_eq_false_of_referenceTarget? {k target : NodeKind} {p : Property}
    (h : k.referenceTarget? p = some target) : k.isDerivedAttribute = false := by
  unfold referenceTarget? at h
  split at h <;> first | rfl | cases h

/-- Kinds that may stand for an identified kind are identified. -/
theorem isIdentified_of_isSubtypeOf {k target : NodeKind} (h : k.isSubtypeOf target = true)
    (htarget : target.isIdentified = true) : k.isIdentified = true := by
  by_cases heq : k = target
  · rw [heq]
    exact htarget
  · have hderived : k.isDerivedAttribute = true := by
      simp only [isSubtypeOf, Bool.or_eq_true, beq_iff_eq, heq, Bool.and_eq_true, false_or] at h
      exact h.2
    cases k <;> simp_all [isDerivedAttribute, isIdentified]

/-- A derived attribute may only stand where an attribute is asked for. -/
theorem isSubtypeOf_eq_false_of_isDerivedAttribute {k target : NodeKind}
    (hk : k.isDerivedAttribute = true) (htarget : target.isSubtypeOf .logicalAttribute = false) :
    k.isSubtypeOf target = false := by
  have hne : target ≠ .logicalAttribute := by
    rintro rfl
    simp at htarget
  by_contra hnot
  have heq : k = target := (isSubtypeOf_iff_eq hne).1 (by simpa using hnot)
  subst heq
  simp [isSubtypeOf, hk] at htarget

end NodeKind

namespace Resolver

/-- In the general case the scope is the general one. -/
theorem scopeOf_of_seesGeneralScope (r : Resolver) (d : Document) (n : NodeId) {kind : NodeKind}
    {p : Property} (h : kind.seesGeneralScope p = true) (target : NodeKind) :
    r.scopeOf d n kind p target = r.generalScope d n target := by
  unfold scopeOf
  split <;> simp_all [NodeKind.seesGeneralScope]

section Shown

variable {r : Resolver} {d : Document} {n : NodeId} {target : NodeKind} {x : Description}

/-- Members of an entity are shown out of the general scope. -/
theorem mem_generalScope_of_mem_relationshipAttributeScope {side : Property}
    (hx : x ∈ (r.relationshipAttributeScope d n side target).elements) :
    x ∈ (r.generalScope d n target).elements := by
  unfold relationshipAttributeScope at hx
  split at hx
  · cases hx
  · split at hx
    · cases hx
    · rw [Scope.elements_filter] at hx
      exact (List.mem_filter.1 hx).1

/-- The entities for a source are shown out of the general scope. -/
theorem mem_generalScope_of_mem_sourceEntityScope
    (hx : x ∈ (r.sourceEntityScope d n target).elements) :
    x ∈ (r.generalScope d n target).elements := by
  unfold sourceEntityScope at hx
  split at hx
  · exact hx
  · rw [Scope.elements_filter] at hx
    exact (List.mem_filter.1 hx).1

/-- The other sources of a mapping are shown under names of their own. -/
theorem eq_describe_of_mem_sourceDependencyScope
    (hx : x ∈ (r.sourceDependencyScope d n).elements) :
    ∃ m k name, d.kind? m = some k ∧ (d.ownId? m).isSome ∧
      x = d.describe (r.registry.modelOf? d) m k name .localForm := by
  unfold sourceDependencyScope at hx
  split at hx
  · cases hx
  · split at hx
    · cases hx
    · rw [Scope.elements_single] at hx
      obtain ⟨⟨name, m⟩, hsource, rfl⟩ := List.mem_map.1 hx
      obtain ⟨hmem, hown⟩ := Document.mem_namedSources.1 (List.mem_filter.1 hsource).1
      exact ⟨m, _, name, by simpa using (List.mem_filter.1 hmem).2, by simp [hown], rfl⟩

/-- The attributes of a source that has an identifier are shown behind it. -/
theorem mem_sourceAttributes_iff {source : NodeId} : x ∈ r.sourceAttributes d source ↔
    ∃ a ∈ d.children source, d.kind? a = some .sourceObjectAttribute ∧ ∃ sourceId own,
      d.ownId? source = some sourceId ∧ d.ownId? a = some own ∧
        x = d.describe (r.registry.modelOf? d) a .sourceObjectAttribute
          (Name.qualify sourceId own) .localForm := by
  unfold sourceAttributes
  cases hsource : d.ownId? source with
  | none => simp
  | some sourceId =>
    constructor
    · intro hx
      obtain ⟨a, ha, hname⟩ := List.mem_filterMap.1 hx
      obtain ⟨own, hown, rfl⟩ := Option.map_eq_some_iff.1 hname
      obtain ⟨hchild, hkind⟩ := List.mem_filter.1 ha
      exact ⟨a, hchild, by simpa using hkind, sourceId, own, rfl, hown, rfl⟩
    · rintro ⟨a, hchild, hkind, _, own, ⟨⟩, hown, rfl⟩
      exact List.mem_filterMap.2 ⟨a, List.mem_filter.2 ⟨hchild, by simpa using hkind⟩,
        Option.map_eq_some_iff.2 ⟨own, hown, rfl⟩⟩

/-- The attributes of sources are shown under names of their own. -/
theorem eq_describe_of_mem_joinAttributeScope (hx : x ∈ (r.joinAttributeScope d n).elements) :
    ∃ m k name, d.kind? m = some k ∧ (d.ownId? m).isSome ∧
      x = d.describe (r.registry.modelOf? d) m k name .localForm := by
  unfold joinAttributeScope at hx
  split at hx
  · cases hx
  · rw [Scope.elements_single] at hx
    obtain ⟨source, -, hx⟩ := List.mem_flatMap.1 hx
    obtain ⟨m, -, hkind, _, _, -, hown, rfl⟩ := mem_sourceAttributes_iff.1 hx
    exact ⟨m, _, _, hkind, by simp [hown], rfl⟩

/-- Whatever the kind and the property, a scope shows what the general scope shows, or data models
that are exported, to a dependency of one, or nodes of the document that have identifiers, under
names of their own. -/
theorem cases_of_mem_scopeOf {kind : NodeKind} {p : Property}
    (hx : x ∈ (r.scopeOf d n kind p target).elements) :
    x ∈ (r.generalScope d n target).elements ∨
      (kind = .dataModelDependency ∧ x ∈ r.index.globalScope .dataModel) ∨
        ∃ m k name, d.kind? m = some k ∧ (d.ownId? m).isSome ∧
          x = d.describe (r.registry.modelOf? d) m k name .localForm := by
  unfold scopeOf at hx
  split at hx
  · cases hx
  · rw [dataModelDependencyScope, Scope.elements_single] at hx
    exact Or.inr (Or.inl ⟨rfl, (List.mem_filter.1 hx).1⟩)
  · exact Or.inr (Or.inr (eq_describe_of_mem_sourceDependencyScope hx))
  · exact Or.inr (Or.inr (eq_describe_of_mem_joinAttributeScope hx))
  · exact Or.inl (mem_generalScope_of_mem_relationshipAttributeScope hx)
  · exact Or.inl (mem_generalScope_of_mem_relationshipAttributeScope hx)
  · exact Or.inl (mem_generalScope_of_mem_sourceEntityScope hx)
  · exact Or.inl hx

end Shown

end Resolver

namespace Snapshot

/-- A scope of an existing node shows something only if the node has the property. -/
theorem of_mem_scope_ofNode {s : Snapshot} {ptr : NodePtr} {p : Property} {i : Nat}
    {x : Description} (hx : x ∈ (s.scope (.ofNode ptr p i)).elements) :
    ∃ d node target, s.workspace.get? ptr.document = some d ∧ d.node? ptr.node = some node ∧
      node.kind.referenceTarget? p = some target ∧
      x ∈ (s.resolver.scopeOf d ptr.node node.kind p target).elements := by
  have hscope : s.scope? (.ofNode ptr p i) = s.resolver.scopeAt ptr p := rfl
  rw [scope, hscope] at hx
  cases hd : s.workspace.get? ptr.document with
  | none =>
    simp only [Resolver.scopeAt, Resolver.locate, resolver, hd] at hx
    cases hx
  | some d =>
    cases hnode : d.node? ptr.node with
    | none =>
      simp only [Resolver.scopeAt, Resolver.locate, resolver, hd, hnode] at hx
      cases hx
    | some node =>
      cases htarget : node.kind.referenceTarget? p with
      | none =>
        simp only [Resolver.scopeAt, Resolver.locate, resolver, hd, hnode, htarget] at hx
        cases hx
      | some target =>
        refine ⟨d, node, target, rfl, hnode, htarget, ?_⟩
        simpa only [Resolver.scopeAt, Resolver.locate, resolver, hd, hnode, htarget] using hx

/-- The scope of a site at an existing node is the one for its kind and the property. -/
theorem scope_ofNode_eq_scopeOf {s : Snapshot} {ptr : NodePtr} {d : Document} {node : Node}
    (hd : s.workspace.get? ptr.document = some d) (hnode : d.node? ptr.node = some node)
    {p : Property} {target : NodeKind} (htarget : node.kind.referenceTarget? p = some target)
    (i : Nat) :
    s.scope (.ofNode ptr p i) = s.resolver.scopeOf d ptr.node node.kind p target := by
  have hlocate : s.resolver.locate ptr = .ok (d, node) := by
    simp [Resolver.locate, resolver, hd, hnode]
  have hscopeAt : s.resolver.scopeAt ptr p =
      .ok (s.resolver.scopeOf d ptr.node node.kind p target) := by
    simp only [Resolver.scopeAt, hlocate, htarget]
  have hscope : s.scope? (.ofNode ptr p i) = s.resolver.scopeAt ptr p := rfl
  rw [scope, hscope, hscopeAt]

/-- A join condition is shown the attributes of all sources in the closure of its own. -/
theorem elements_scope_sourceObjectAttributeReference {s : Snapshot} {ptr : NodePtr} {d : Document}
    (hd : s.workspace.get? ptr.document = some d)
    (hkind : d.kind? ptr.node = some .sourceObjectAttributeReference) {source : NodeId}
    (haround : d.ancestorOfKind? ptr.node .sourceObject = some source) (i : Nat) :
    (s.scope (.ofNode ptr .value i)).elements =
      (d.sourceClosure source).flatMap (s.resolver.sourceAttributes d) := by
  obtain ⟨node, hnode, hkind⟩ := Option.map_eq_some_iff.1 hkind
  have htarget : node.kind.referenceTarget? .value = some .sourceObjectAttribute := by
    rw [hkind]
    rfl
  rw [scope_ofNode_eq_scopeOf hd hnode htarget, hkind]
  show (s.resolver.joinAttributeScope d ptr.node).elements = _
  rw [Resolver.joinAttributeScope, haround]
  exact Scope.elements_single _

/-- What a reference of an existing node means is what its text means in the scope for the kind of
the node and the property. -/
theorem resolve_ofNode_eq_lookup {s : Snapshot} {ptr : NodePtr} {d : Document} {node : Node}
    (hd : s.workspace.get? ptr.document = some d) (hnode : d.node? ptr.node = some node)
    {p : Property} {target : NodeKind} (htarget : node.kind.referenceTarget? p = some target)
    (i : Nat) :
    s.resolve (.ofNode ptr p i) = (node.referenceAt? p i).bind fun ref =>
      (s.resolver.scopeOf d ptr.node node.kind p target).lookup ref.text := by
  have hlocate : s.resolver.locate ptr = .ok (d, node) := by
    simp [Resolver.locate, resolver, hd, hnode]
  have hscopeAt : s.resolver.scopeAt ptr p =
      .ok (s.resolver.scopeOf d ptr.node node.kind p target) := by
    simp only [Resolver.scopeAt, hlocate, htarget]
  have hresolve : s.resolve? (.ofNode ptr p i) = s.resolver.resolveAt ptr p i := rfl
  simp only [resolve, hresolve, Resolver.resolveAt, hlocate, hscopeAt]
  cases node.referenceAt? p i with
  | none => rfl
  | some ref => rfl

/-- In the general case the scope of a site at an existing node is the general one. -/
theorem scope_ofNode {s : Snapshot} {ptr : NodePtr} {d : Document} {node : Node}
    (hd : s.workspace.get? ptr.document = some d) (hnode : d.node? ptr.node = some node)
    {p : Property} (hgeneral : node.kind.seesGeneralScope p = true) {target : NodeKind}
    (htarget : node.kind.referenceTarget? p = some target) (i : Nat) :
    s.scope (.ofNode ptr p i) = s.resolver.generalScope d ptr.node target := by
  rw [scope_ofNode_eq_scopeOf hd hnode htarget, Resolver.scopeOf_of_seesGeneralScope _ _ _ hgeneral]

end Snapshot

/-- A prepared document remembers the current Global IDs of nodes of identified kinds. -/
theorem Document.globalId_of_node?_prepare {d : Document} {r : Registry} {n : NodeId} {node : Node}
    (hn : (d.prepare r).node? n = some node) (hkind : node.kind.isIdentified = true) :
    node.globalId = r.globalId? (d.prepare r) n := by
  rw [prepare, node?_rememberGlobalIds] at hn
  obtain ⟨old, -, rfl⟩ := Option.map_eq_some_iff.1 hn
  have hold : old.kind.isIdentified = true := by
    by_contra hnot
    rw [if_neg hnot] at hkind
    exact hnot hkind
  rw [if_pos hold, prepare, globalId?_rememberGlobalIds]

/-- In a prepared document only nodes of identified kinds remember a Global ID: a node of another
kind remembers what the author wrote, which is nothing. -/
theorem Document.isIdentified_of_remembered {d : Document} {r : Registry} (hd : d.asWritten.Plain)
    {n : NodeId} {node : Node} (hn : (d.prepare r).node? n = some node) {g : String}
    (hg : node.globalId = some g) : node.kind.isIdentified = true := by
  by_contra hkind
  have hwritten : (d.prepare r).asWritten.node? n = some node.bare := by
    rw [asWritten, dropDerived_prepare, node?_bare, hn, Option.map_some]
  rw [asWritten_prepare] at hwritten
  have hnone := (hd.nodes n node.bare hwritten).globalId_eq
  rw [Node.bare, if_neg hkind] at hnone
  exact absurd (hnone.symm.trans hg) (by simp)

/-- What a prepared document remembers as a Global ID is the one that the node has now. -/
theorem Document.globalId?_of_remembered {d : Document} {r : Registry} (hd : d.asWritten.Plain)
    {n : NodeId} {node : Node} (hn : (d.prepare r).node? n = some node) {g : String}
    (hg : node.globalId = some g) : r.globalId? (d.prepare r) n = some g := by
  rw [← globalId_of_node?_prepare hn (isIdentified_of_remembered hd hn hg), hg]

/-- An exported node of an identified kind is exported under its Local ID and under its Global ID of
now. -/
theorem Snapshot.Current.mem_all_of_exported {ok : Document → Prop} {s : Snapshot}
    (h : s.Current ok) {x : Description} (hx : x ∈ s.index.all) {t : Document}
    (ht : s.workspace.get? x.node.document = some t) {k : NodeKind}
    (hk : t.kind? x.node.node = some k) (hidentified : k.isIdentified = true) :
    ∃ l g, t.localId? x.node.node = some l ∧ s.registry.globalId? t x.node.node = some g ∧
      t.describe (s.registry.modelOf? t) x.node.node k l .localForm ∈ s.index.all ∧
      t.describe (s.registry.modelOf? t) x.node.node k g .globalForm ∈ s.index.all := by
  obtain ⟨e, -, hid, hgrown, hexports⟩ := h.grownTo_of_get? ht
  have hmem : ∀ y, y ∈ (e.prepare s.registry).exports s.registry → y ∈ s.index.all := by
    intro y hy
    rw [h.all_eq]
    exact List.mem_flatMap.2 ⟨_, Workspace.mem_ids_of_get? ht, hexports ▸ hy⟩
  obtain ⟨_, -, hown, -⟩ := h.of_mem_all hx
  rw [hexports] at hown
  obtain ⟨n, hwalk, node, g, l, hnode, hg, hl, hx'⟩ := Document.mem_exports_iff.1 hown
  have hn : n = x.node.node := by
    rcases hx' with rfl | rfl <;> rfl
  have hlt : n.index < (e.prepare s.registry).size :=
    (Document.node?_isSome_iff _ n).1 (by simp [hnode])
  have hkind : node.kind = k := by
    have hsame := hgrown.kind? hlt
    rw [hn, hk, ← hn, Document.kind?, hnode] at hsame
    exact (Option.some.inj hsame).symm
  have hdescribe : ∀ name form, t.describe (s.registry.modelOf? t) n k name form =
      (e.prepare s.registry).describe (s.registry.modelOf? (e.prepare s.registry)) n node.kind name
        form := by
    intro name form
    rw [hgrown.modelOf?, hkind]
    simp only [Document.describe, Document.ptr, hgrown.id_eq, hgrown.uri_eq]
  have hglobal := Document.globalId_of_node?_prepare hnode (hkind ▸ hidentified)
  rw [← hn]
  refine ⟨l, g, (hgrown.localId? hlt).trans hl, ?_, ?_, ?_⟩
  · rw [hgrown.globalId? _ hlt, ← hglobal, hg]
  · rw [hdescribe]
    exact hmem _ (Document.mem_exports_iff.2 ⟨n, hwalk, node, g, l, hnode, hg, hl, Or.inl rfl⟩)
  · rw [hdescribe]
    exact hmem _ (Document.mem_exports_iff.2 ⟨n, hwalk, node, g, l, hnode, hg, hl, Or.inr rfl⟩)

end ModelBinding
