import ModelBinding.Proofs.Ambiguity

/-!
# The entity of the target

The entity that the target of a mapping has is taken out of all layers that its sources
see. A name that means something else is not affected. A name that means this entity
means the next thing of that name to the sources, if there is one, also one further out
(`resolveText_sourceObject_entity`, `exists_meant_behind_targetEntity`). Only if the data
model exports another entity under the name is it sure to mean something of the data model.
-/

namespace ModelBinding

namespace Resolver

/-- Among the entities for a source a name means the first of the general scope that bears it and
is not the entity of the target. -/
theorem lookup_sourceEntityScope (r : Resolver) (d : Document) (n : NodeId) (target : NodeKind)
    (name : String) :
    (r.sourceEntityScope d n target).lookup name =
      (r.generalScope d n target).elements.find? fun x =>
        decide (r.targetEntity? d n ≠ some x.node) && decide (x.name = name) := by
  unfold sourceEntityScope
  cases r.targetEntity? d n with
  | none => simp [Scope.lookup_eq_find?]
  | some excluded => simp [Scope.lookup_filter, eq_comm]

end Resolver

namespace Snapshot

/-- What a name means to a source is what it means among the entities for the source. -/
theorem resolveText_sourceObject {s : Snapshot} {ptr : NodePtr} {d : Document}
    (hd : s.workspace.get? ptr.document = some d) (hkind : d.kind? ptr.node = some .sourceObject)
    (i : Nat) (name : String) :
    s.resolveText (.ofNode ptr .entity i) name =
      (s.resolver.generalScope d ptr.node .logicalEntity).elements.find? fun x =>
        decide (s.resolver.targetEntity? d ptr.node ≠ some x.node) && decide (x.name = name) := by
  obtain ⟨node, hnode, hkind⟩ := Option.map_eq_some_iff.1 hkind
  have htarget : node.kind.referenceTarget? .entity = some .logicalEntity := by
    rw [hkind]
    rfl
  rw [resolveText, scope_ofNode_eq_scopeOf hd hnode htarget, hkind]
  exact s.resolver.lookup_sourceEntityScope d ptr.node .logicalEntity name

/-- What the tables around a node and the package show is about nodes of the data model of the
document. -/
theorem Current.exists_document_of_mem_own {s : Snapshot}
    (h : s.Current fun d => d.asWritten.Plain) {d : Document} (hd : s.workspace.get? d.id = some d)
    {n : NodeId} {target : NodeKind} {x : Description}
    (hx : x ∈ (s.resolver.containerLayers d n target).flatten ++ s.resolver.packageScope d target) :
    ∃ t, s.workspace.get? x.node.document = some t ∧
      s.registry.modelOf? t = s.registry.modelOf? d := by
  rcases List.mem_append.1 hx with hlayers | hpackage
  · obtain ⟨layer, hlayer, hx⟩ := List.mem_flatten.1 hlayers
    obtain ⟨hfits, -⟩ := h.fits_of_mem_containerLayers hd hlayer hx
    exact ⟨d, hfits.document_eq ▸ hd, rfl⟩
  · obtain ⟨hglobal, hmodel⟩ := Resolver.mem_packageScope.1 hpackage
    obtain ⟨t, ht, -, howner⟩ := h.of_mem_all (h.index.mem_globalScope_iff.1 hglobal).1
    exact ⟨t, ht, howner.symm.trans hmodel⟩

end Snapshot

namespace Session

/-- After any sound actions and a rebuild, take a name and a source, and the entity that the target
of its mapping has. Where the name means nothing in the general scope, it means nothing to the
source. Where it means something else than the entity, it means the same to the source. Where it
means the entity, it means to the source what comes next under the name and is not the entity, if
there is such a thing. And if the data model of the source exports another entity under the name,
the name means to the source something of the same data model. -/
theorem resolveText_sourceObject_entity {s : Session} (hs : s.Reachable) {ptr : NodePtr}
    {d : Document} (hd : s.host.rebuild.workspace.get? ptr.document = some d)
    (hkind : d.kind? ptr.node = some .sourceObject) (i : Nat) (name : String) :
    ((s.host.rebuild.resolver.generalScope d ptr.node .logicalEntity).lookup name = none →
      s.host.rebuild.resolveText (.ofNode ptr .entity i) name = none) ∧
    (∀ found,
      (s.host.rebuild.resolver.generalScope d ptr.node .logicalEntity).lookup name = some found →
      (s.host.rebuild.resolver.targetEntity? d ptr.node ≠ some found.node →
        s.host.rebuild.resolveText (.ofNode ptr .entity i) name = some found) ∧
      (s.host.rebuild.resolver.targetEntity? d ptr.node = some found.node →
        s.host.rebuild.resolveText (.ofNode ptr .entity i) name =
          (s.host.rebuild.resolver.generalScope d ptr.node .logicalEntity).elements.find? fun x =>
            decide (x.node ≠ found.node) && decide (x.name = name))) ∧
    ∀ owner, s.host.rebuild.registry.modelOf? d = some owner →
      ∀ y ∈ s.host.rebuild.exportedBy owner, y.kind = .logicalEntity → y.name = name →
        s.host.rebuild.resolver.targetEntity? d ptr.node ≠ some y.node →
          ∃ x t, s.host.rebuild.resolveText (.ofNode ptr .entity i) name = some x ∧
            s.host.rebuild.workspace.get? x.node.document = some t ∧
            s.host.rebuild.registry.modelOf? t = some owner := by
  have hplain := hs.current_plain
  have hown := hplain.get?_id hd
  rw [Scope.lookup_eq_find?, Snapshot.resolveText_sourceObject hd hkind]
  refine ⟨fun hnone => ?_, fun found hfound => ⟨fun hother => ?_, fun hexcluded => ?_⟩,
    fun owner howner y hy hykind hyname hother => ?_⟩
  · rw [List.find?_eq_none] at hnone ⊢
    intro x hx hmeant
    exact hnone x hx (Bool.and_eq_true_iff.1 hmeant).2
  · have hname : found.name = name := by simpa using List.find?_some hfound
    exact find?_eq_some_of_imp hfound (by simp [hother, hname]) fun x _ hmeant =>
      (Bool.and_eq_true_iff.1 hmeant).2
  · simp only [hexcluded, ne_eq, Option.some.injEq, eq_comm]
  · obtain ⟨hall, hmodel⟩ := hplain.mem_exportedBy.1 hy
    have hpackage : y ∈ s.host.rebuild.resolver.packageScope d .logicalEntity :=
      Resolver.mem_packageScope.2 ⟨hplain.index.mem_globalScope_iff.2 ⟨hall, by simp [hykind]⟩,
        hmodel.trans howner.symm⟩
    -- The entity stands before all that other data models show.
    have hsome : (((s.host.rebuild.resolver.containerLayers d ptr.node .logicalEntity).flatten ++
        s.host.rebuild.resolver.packageScope d .logicalEntity).find? fun x =>
          decide (s.host.rebuild.resolver.targetEntity? d ptr.node ≠ some x.node) &&
            decide (x.name = name)).isSome :=
      List.find?_isSome.2 ⟨y, List.mem_append_right _ hpackage, by simp [hother, hyname]⟩
    obtain ⟨x, hx⟩ := Option.isSome_iff_exists.1 hsome
    obtain ⟨t, ht, htowner⟩ := hplain.exists_document_of_mem_own hown (List.mem_of_find?_eq_some hx)
    refine ⟨x, t, ?_, ht, htowner.trans howner⟩
    rw [Resolver.elements_generalScope, ← List.append_assoc, List.find?_append, hx, Option.some_or]

/-- A session in which the target of one mapping has an entity whose Local ID is the Global ID of
one in a dependency, and that of the other mapping the first of two entities with one identifier. -/
def homonyms : Session :=
  (start
    { models := [
        { id := ⟨"lib"⟩, referenceName := "lib", root := "file:///lib" },
        { id := ⟨"core"⟩, referenceName := "core", root := "file:///core"
          dependencies := [⟨⟨"lib"⟩, .any⟩] }] }).run
    [.set (.ofDrafts "file:///lib/a.cm" [(.root, { kind := .logicalEntity, id := some "Party" })]),
      .set (.ofDrafts "file:///core/b.cm"
        [(.root, { kind := .logicalEntity, id := some "lib.Party" }),
          (.root, { kind := .logicalEntity, id := some "Party" }),
          (.root, { kind := .logicalEntity, id := some "Party" }),
          (.root, { kind := .mapping, id := some "Load" }),
          (⟨4⟩, { kind := .targetObject, references := [(.entity, "lib.Party")] }),
          (⟨4⟩, { kind := .sourceObject, id := some "A" }),
          (.root, { kind := .mapping, id := some "Merge" }),
          (⟨7⟩, { kind := .targetObject, references := [(.entity, "Party")] }),
          (⟨7⟩, { kind := .sourceObject, id := some "B" })])]

/-- It is reachable. -/
theorem reachable_homonyms : homonyms.Reachable := by
  refine ⟨_, _, fun a ha => ?_, rfl⟩
  simp only [List.mem_cons, List.not_mem_nil, or_false] at ha
  rcases ha with rfl | rfl
  · exact drafted_ofDrafts (by decide)
  · exact drafted_ofDrafts (by decide)

/-- To the source of the first mapping a name that is not that of the target's entity means what it
means elsewhere, something of its own data model. -/
theorem resolveText_sourceObject_entity_homonyms :
    (homonyms.host.rebuild.resolveText (.ofNode ⟨⟨1⟩, ⟨6⟩⟩ .entity) "Party").map (·.node) =
        some ⟨⟨1⟩, ⟨2⟩⟩ ∧
      ∃ x t, homonyms.host.rebuild.resolveText (.ofNode ⟨⟨1⟩, ⟨6⟩⟩ .entity) "Party" = some x ∧
        homonyms.host.rebuild.workspace.get? x.node.document = some t ∧
        homonyms.host.rebuild.registry.modelOf? t = some ⟨"core"⟩ := by
  obtain ⟨d, hd⟩ := Option.isSome_iff_exists.1
    (show (homonyms.host.rebuild.workspace.get? ⟨1⟩).isSome by decide +kernel)
  have hfacts : (homonyms.host.rebuild.workspace.get? ⟨1⟩).map (fun d =>
      (d.kind? ⟨6⟩, homonyms.host.rebuild.registry.modelOf? d,
        homonyms.host.rebuild.resolver.targetEntity? d ⟨6⟩,
        ((homonyms.host.rebuild.resolver.generalScope d ⟨6⟩ .logicalEntity).lookup "Party").map
          (·.node))) =
        some (some .sourceObject, some ⟨"core"⟩, some ⟨⟨1⟩, ⟨1⟩⟩, some ⟨⟨1⟩, ⟨2⟩⟩) := by
    decide +kernel
  simp only [hd, Option.map_some, Option.some.injEq, Prod.mk.injEq] at hfacts
  obtain ⟨hkind, howner, hexcluded, hmeant⟩ := hfacts
  obtain ⟨found, hfound, hnode⟩ := Option.map_eq_some_iff.1 hmeant
  obtain ⟨y, hy, hykind, hyname, hynode⟩ : ∃ y ∈ homonyms.host.rebuild.exportedBy ⟨"core"⟩,
      y.kind = .logicalEntity ∧ y.name = "Party" ∧ y.node = ⟨⟨1⟩, ⟨2⟩⟩ := by
    decide +kernel
  obtain ⟨-, hsame, hsecure⟩ := @resolveText_sourceObject_entity _ reachable_homonyms
    ⟨⟨1⟩, ⟨6⟩⟩ d hd hkind 0 "Party"
  refine ⟨?_, hsecure _ howner y hy hykind hyname (by rw [hexcluded, hynode]; decide)⟩
  rw [(hsame found hfound).1 (by rw [hexcluded, hnode]; decide), Option.map_some, hnode]

/-- A name under which the data model of a source exports an entity may mean to the source an entity
of another data model, and what a name means to a source may differ from what it means elsewhere, if
it means the entity of the target there. -/
theorem exists_meant_behind_targetEntity :
    homonyms.Reachable ∧ ∃ d, homonyms.host.rebuild.workspace.get? ⟨1⟩ = some d ∧
      homonyms.host.rebuild.registry.modelOf? d = some ⟨"core"⟩ ∧
      d.kind? ⟨6⟩ = some .sourceObject ∧ d.kind? ⟨9⟩ = some .sourceObject ∧
      (∃ y ∈ homonyms.host.rebuild.exportedBy ⟨"core"⟩,
        y.kind = .logicalEntity ∧ y.name = "lib.Party") ∧
      (∃ x t, homonyms.host.rebuild.resolveText (.ofNode ⟨⟨1⟩, ⟨6⟩⟩ .entity) "lib.Party" = some x ∧
        homonyms.host.rebuild.workspace.get? x.node.document = some t ∧
        homonyms.host.rebuild.registry.modelOf? t = some ⟨"lib"⟩) ∧
      ∃ found x,
        (homonyms.host.rebuild.resolver.generalScope d ⟨9⟩ .logicalEntity).lookup "Party" =
          some found ∧
        homonyms.host.rebuild.resolveText (.ofNode ⟨⟨1⟩, ⟨9⟩⟩ .entity) "Party" = some x ∧
        x.node ≠ found.node := by
  obtain ⟨d, hd⟩ := Option.isSome_iff_exists.1
    (show (homonyms.host.rebuild.workspace.get? ⟨1⟩).isSome by decide +kernel)
  have hfacts : (homonyms.host.rebuild.workspace.get? ⟨1⟩).map (fun d =>
      (homonyms.host.rebuild.registry.modelOf? d, d.kind? ⟨6⟩, d.kind? ⟨9⟩,
        ((homonyms.host.rebuild.resolver.generalScope d ⟨9⟩ .logicalEntity).lookup "Party").map
          (·.node))) =
        some (some ⟨"core"⟩, some .sourceObject, some .sourceObject, some ⟨⟨1⟩, ⟨2⟩⟩) := by
    decide +kernel
  simp only [hd, Option.map_some, Option.some.injEq, Prod.mk.injEq] at hfacts
  obtain ⟨howner, hkind, hkind', hmeant⟩ := hfacts
  obtain ⟨found, hfound, hnode⟩ := Option.map_eq_some_iff.1 hmeant
  obtain ⟨x, hx, hxnode⟩ : ∃ x,
      homonyms.host.rebuild.resolveText (.ofNode ⟨⟨1⟩, ⟨6⟩⟩ .entity) "lib.Party" = some x ∧
        x.node = ⟨⟨0⟩, ⟨1⟩⟩ := by
    decide +kernel
  obtain ⟨x', hx', hxnode'⟩ : ∃ x,
      homonyms.host.rebuild.resolveText (.ofNode ⟨⟨1⟩, ⟨9⟩⟩ .entity) "Party" = some x ∧
        x.node = ⟨⟨1⟩, ⟨3⟩⟩ := by
    decide +kernel
  obtain ⟨t, ht, htowner⟩ := Option.bind_eq_some_iff.1
    (show (homonyms.host.rebuild.workspace.get? ⟨0⟩).bind homonyms.host.rebuild.registry.modelOf? =
      some ⟨"lib"⟩ by decide +kernel)
  refine ⟨reachable_homonyms, d, hd, howner, hkind, hkind', by decide +kernel,
    ⟨x, t, hx, by rw [hxnode, ht], htowner⟩, found, x', hfound, hx', ?_⟩
  rw [hnode, hxnode']
  decide

end Session

end ModelBinding
