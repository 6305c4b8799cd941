import ModelBinding.Analysis
import ModelBinding.Proofs.General
import ModelBinding.Proofs.Visibility

/-!
# References by the names that are given

The name by which a node is referred to from another one is chosen without looking at
any scope: the Local ID inside the data model, the Global ID from elsewhere. It is the
right one all the same. There is such a name exactly if the data model is the same or
visible, and where nothing else bears it, it means the node (`resolveText_referenceId`).
-/

namespace ModelBinding

/-- Where everything of a name in a scope is one node, and it is there, the name means the node. -/
theorem Scope.lookup_eq_of_forall {s : Scope} {x : Description} (hx : x ∈ s.elements)
    (h : ∀ y ∈ s.elements, y.name = x.name → y.node = x.node) :
    (s.lookup x.name).map (·.node) = some x.node := by
  rw [lookup_eq_find?]
  cases hfind : s.elements.find? (·.name = x.name) with
  | none =>
    have hnone := List.find?_eq_none.1 hfind x hx
    simp at hnone
  | some y =>
    have hname : y.name = x.name := by simpa using List.find?_some hfind
    exact congrArg some (h y (List.mem_of_find?_eq_some hfind) hname)

namespace Resolver

variable {r : Resolver} {d : Document} {target : NodeKind} {x : Description}

/-- What is exported of the kind is in the general scope of documents of its data model. -/
theorem mem_generalScope_of_package (hindex : r.index.Faithful) (hx : x ∈ r.index.all)
    (hkind : x.kind.isSubtypeOf target = true) (hmodel : x.dataModel = r.registry.modelOf? d)
    (n : NodeId) : x ∈ (r.generalScope d n target).elements := by
  have hmem : x ∈ r.packageScope d target := by
    rw [mem_packageScope, hindex.mem_globalScope_iff]
    exact ⟨⟨hx, hkind⟩, hmodel⟩
  exact mem_generalScope.2 (Or.inr (Or.inl hmem))

/-- What is exported of the kind in Global form is in the general scope of documents from whose data
model its own is visible. -/
theorem mem_generalScope_of_dependency (hindex : r.index.Faithful) (hx : x ∈ r.index.all)
    (hkind : x.kind.isSubtypeOf target = true) (hform : x.form = .globalForm)
    {viewer owner : DataModelId} (hviewer : r.registry.modelOf? d = some viewer)
    (howner : x.dataModel = some owner) (hne : owner ≠ viewer)
    (hvisible : r.registry.isVisible viewer owner true = true) (n : NodeId) :
    x ∈ (r.generalScope d n target).elements := by
  have hmem : x ∈ r.dependencyScope d target := by
    rw [mem_dependencyScope, hindex.mem_globalScope_iff]
    exact ⟨⟨hx, hkind⟩, hform, viewer, owner, hviewer, howner, hne, hvisible⟩
  exact mem_generalScope.2 (Or.inr (Or.inr hmem))

end Resolver

/-- From a document of one data model a node of another is referred to by its Global ID, if it is
visible, and a node of the same by its Local ID. -/
theorem Registry.referenceId?_of_owned {r : Registry} {t d : Document} {viewer owner : DataModelId}
    (hd : r.modelOf? d = some viewer) (ht : r.modelOf? t = some owner) (n : NodeId) :
    r.referenceId? t n d true =
      if owner = viewer then t.localId? n
      else if r.isVisible viewer owner true then r.globalId? t n else none := by
  simp only [referenceId?, hd, ht]
  by_cases heq : owner = viewer
  · simp [heq]
  · simp [heq, Ne.symm heq]

namespace Session

/-- After any actions and a rebuild, from a reference in the general case an exported node of a kind
that it may refer to has a name exactly if its data model is the same or visible for references; and
where the scope shows no other node under that name, the name means the node. -/
theorem resolveText_referenceId (registry : Registry) (actions : List Action) {s : Snapshot}
    (hs : s = ((start registry).run actions).host.rebuild.toSnapshot) {source target : NodePtr}
    {d t : Document} (hd : s.workspace.get? source.document = some d)
    (ht : s.workspace.get? target.document = some t) {viewer owner : DataModelId}
    (hviewer : s.registry.modelOf? d = some viewer) (howner : s.registry.modelOf? t = some owner)
    {node : Node} (hnode : d.node? source.node = some node) {p : Property}
    (hgeneral : node.kind.seesGeneralScope p = true) {wanted kind : NodeKind}
    (hwanted : node.kind.referenceTarget? p = some wanted)
    (hexported : ∃ x ∈ s.index.all, x.node = target) (hkind : t.kind? target.node = some kind)
    (hsubtype : kind.isSubtypeOf wanted = true) (i : Nat) :
    ((s.referenceId? target source).isSome ↔
        owner = viewer ∨ s.registry.isVisible viewer owner true = true) ∧
      ∀ name, s.referenceId? target source = some name →
        (∀ x ∈ (s.scope (.ofNode source p i)).elements, x.name = name → x.node = target) →
        (s.resolveText (.ofNode source p i) name).map (·.node) = some target := by
  have hcurrent : s.Current fun _ => True := hs ▸ current_rebuild_of_run registry actions
  obtain ⟨x, hx, rfl⟩ := hexported
  have hidentified := NodeKind.isIdentified_of_isSubtypeOf hsubtype
    (NodeKind.isIdentified_of_referenceTarget? hwanted)
  obtain ⟨l, g, hlocal, hglobal, hlocalMem, hglobalMem⟩ :=
    hcurrent.mem_all_of_exported hx ht hkind hidentified
  have hptr : t.ptr x.node.node = x.node := by
    rw [Document.ptr, hcurrent.workspace.id_eq _ t ht]
  have hreference : s.referenceId? x.node source =
      if owner = viewer then some l
      else if s.registry.isVisible viewer owner true then some g else none := by
    simp only [Snapshot.referenceId?, hd, ht, Option.bind_some,
      Registry.referenceId?_of_owned hviewer howner, hlocal, hglobal]
  have hscope := Snapshot.scope_ofNode hd hnode hgeneral hwanted i
  rw [hreference]
  refine ⟨?_, fun name hname hunique => ?_⟩
  · by_cases heq : owner = viewer <;> simp [heq]
  · rw [hscope] at hunique
    rw [Snapshot.resolveText, hscope]
    -- One of the two exports of the node is shown under the name, which by `hunique` is enough.
    suffices hmem : ∃ y, y ∈ (s.resolver.generalScope d source.node wanted).elements ∧
        y.name = name ∧ y.node = x.node by
      obtain ⟨y, hy, rfl, hnode⟩ := hmem
      rw [← hnode] at hunique ⊢
      exact Scope.lookup_eq_of_forall hy hunique
    by_cases heq : owner = viewer
    · rw [if_pos heq] at hname
      have hmodel : s.registry.modelOf? t = s.registry.modelOf? d := by
        rw [howner, hviewer, heq]
      exact ⟨_, Resolver.mem_generalScope_of_package hcurrent.index hlocalMem hsubtype hmodel _,
        Option.some.inj hname, hptr⟩
    · rw [if_neg heq] at hname
      obtain ⟨hvisible, hname⟩ := Option.ite_none_right_eq_some.1 hname
      exact ⟨_, Resolver.mem_generalScope_of_dependency hcurrent.index hglobalMem hsubtype rfl
        hviewer howner heq hvisible _, Option.some.inj hname, hptr⟩

/-- From the relationship of the dependent data model the entity of the other one is referred to by
its Global ID, which means the entity there. -/
theorem resolveText_referenceId_dependent :
    dependent.host.rebuild.referenceId? ⟨⟨0⟩, ⟨1⟩⟩ ⟨⟨1⟩, ⟨1⟩⟩ = some "core.Party" ∧
      (dependent.host.rebuild.resolveText (.ofNode ⟨⟨1⟩, ⟨1⟩⟩ .parent) "core.Party").map (·.node) =
        some ⟨⟨0⟩, ⟨1⟩⟩ := by
  have hname : dependent.host.rebuild.referenceId? ⟨⟨0⟩, ⟨1⟩⟩ ⟨⟨1⟩, ⟨1⟩⟩ = some "core.Party" := by
    decide +kernel
  obtain ⟨d, hd, hviewer⟩ := Option.bind_eq_some_iff.1
    (show (dependent.host.rebuild.workspace.get? ⟨1⟩).bind
        dependent.host.rebuild.registry.modelOf? = some ⟨"shop"⟩ by decide +kernel)
  obtain ⟨t, ht, howner⟩ := Option.bind_eq_some_iff.1
    (show (dependent.host.rebuild.workspace.get? ⟨0⟩).bind
        dependent.host.rebuild.registry.modelOf? = some ⟨"core"⟩ by decide +kernel)
  have hsource : (dependent.host.rebuild.workspace.get? ⟨1⟩).bind (·.kind? ⟨1⟩) =
      some .relationship := by
    decide +kernel
  have htarget : (dependent.host.rebuild.workspace.get? ⟨0⟩).bind (·.kind? ⟨1⟩) =
      some .logicalEntity := by
    decide +kernel
  rw [hd, Option.bind_some] at hsource
  rw [ht, Option.bind_some] at htarget
  obtain ⟨node, hnode, hkind⟩ := Option.map_eq_some_iff.1 hsource
  have hbinds := @resolveText_referenceId _ _ _ rfl ⟨⟨1⟩, ⟨1⟩⟩ ⟨⟨0⟩, ⟨1⟩⟩ d t hd ht _ _
    hviewer howner node hnode .parent (by rw [hkind]; rfl) _ _ (by rw [hkind]; rfl)
    (by decide +kernel) htarget (by decide) 0
  exact ⟨hname, hbinds.2 _ hname (by decide +kernel)⟩

end Session

end ModelBinding
