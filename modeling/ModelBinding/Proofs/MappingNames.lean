import ModelBinding.Proofs.MappingScopes

/-!
# Names inside mappings

The name by which a node is referred to should mean the node at every site that offers
it. The scopes of a mapping show sources and derived attributes without the identifiers
of what contains the source or target, but the name is a Local ID, which begins with
them. So the name reaches the node exactly where none of these containers has an
identifier; elsewhere it misses the node, which only the shown name reaches
(`exists_name_of_mem_mappingScope`). In either case the name that is looked up has to be
that of one node: joined identifiers may read the same although they are distinct below
each node (`not_resolveText_of_distinctIds`).
-/

namespace ModelBinding

namespace Session

/-- After any sound actions and a rebuild, a document that a data model owns is given a name for
every node that a site in one of its mappings offers. If the site leaves no identifiers out, the
name means the node, unless the site also offers another node under it. If it leaves some out, the
name misses the node, being the offered one behind these identifiers; the offered one means it,
unless the site also offers another node under that. That no other node is offered under a name
follows at two kinds of site from identifiers that are distinct below each node. -/
theorem exists_name_of_mem_mappingScope {s : Session} (hs : s.Reachable) {ptr : NodePtr}
    {d : Document} (hd : s.host.rebuild.workspace.get? ptr.document = some d) {viewer : DataModelId}
    (hviewer : s.host.rebuild.registry.modelOf? d = some viewer) {node : Node}
    (hnode : d.node? ptr.node = some node) {p : Property}
    (hsite : node.kind.mappingProperty? = some p) (i : Nat) {x : Description}
    (hx : x ∈ (s.host.rebuild.scope (.ofNode ptr p i)).elements) :
    ∃ t name, s.host.rebuild.workspace.get? x.node.document = some t ∧
      s.host.rebuild.referenceId? x.node ptr = some name ∧
      (t.omittedIds node.kind x.node.node = [] →
        d.NamesApart node.kind ∨ (∀ y ∈ (s.host.rebuild.scope (.ofNode ptr p i)).elements,
          y.name = name → y.node = x.node) →
        (s.host.rebuild.resolveText (.ofNode ptr p i) name).map (·.node) = some x.node) ∧
      (t.omittedIds node.kind x.node.node ≠ [] →
        (∃ outer, name = Name.qualify outer x.name) ∧
        (s.host.rebuild.resolveText (.ofNode ptr p i) name).map (·.node) ≠ some x.node ∧
        (d.NamesApart node.kind ∨ (∀ y ∈ (s.host.rebuild.scope (.ofNode ptr p i)).elements,
          y.name = x.name → y.node = x.node) →
        (s.host.rebuild.resolveText (.ofNode ptr p i) x.name).map (·.node) = some x.node)) := by
  have hcurrent := hs.current
  have hroot := hs.kind?_root hd
  obtain ⟨target, htarget⟩ := NodeKind.exists_referenceTarget?_of_mappingProperty? hsite
  obtain ⟨t, name, ht, hname, hshows⟩ :=
    Snapshot.exists_shows hcurrent hs.current_plain hd hroot hviewer hnode hsite hx
  have hscope := Snapshot.scope_ofNode_eq_scopeOf hd hnode htarget i
  -- Either condition says that the scope shows one node under the name of one it shows.
  have hmeans : ∀ y ∈ (s.host.rebuild.scope (.ofNode ptr p i)).elements,
      (d.NamesApart node.kind ∨ ∀ z ∈ (s.host.rebuild.scope (.ofNode ptr p i)).elements,
        z.name = y.name → z.node = y.node) →
      (s.host.rebuild.resolveText (.ofNode ptr p i) y.name).map (·.node) = some y.node := by
    intro y hy hunique
    refine Scope.lookup_eq_of_forall hy fun z hz hsame => ?_
    rcases hunique with happart | hunique
    · rw [hscope] at hy hz
      exact Resolver.node_eq_of_namesApart (hcurrent.isTree hd) hroot happart hy hz hsame
    · exact hunique z hz hsame
  refine ⟨t, name, ht, hname, fun hempty hunique => ?_, fun hne =>
    ⟨hshows.qualified hne, fun hfound => ?_, fun hunique => hmeans x hx hunique⟩⟩
  · obtain ⟨y, hy, rfl, hsame⟩ := hshows.shown hempty
    rw [← hsame] at hunique ⊢
    exact hmeans y hy hunique
  · obtain ⟨y, hfound, hsame⟩ := Option.map_eq_some_iff.1 hfound
    rw [Snapshot.resolveText, Scope.lookup_eq_find?] at hfound
    exact hshows.hidden hne y (List.mem_of_find?_eq_some hfound) hsame
      (by simpa using List.find?_some hfound)

/-- A session in which two mappings, one of them with an identifier, have a source that shows an
attribute. -/
def loading : Session :=
  (start { models := [{ id := ⟨"core"⟩, referenceName := "core", root := "file:///core" }] }).run
    [.set (.ofDrafts "file:///core/a.cm"
      [(.root, { kind := .logicalEntity, id := some "Party" }),
        (⟨1⟩, { kind := .logicalAttribute, id := some "Name" }),
        (.root, { kind := .mapping, id := some "Load" }),
        (⟨3⟩, { kind := .sourceObject, id := some "A", references := [(.entity, "Party")] }),
        (⟨3⟩, { kind := .attributeMapping }),
        (⟨5⟩, { kind := .attributeMappingSource }),
        (.root, { kind := .mapping }),
        (⟨7⟩, { kind := .sourceObject, id := some "S", references := [(.entity, "Party")] }),
        (⟨7⟩, { kind := .attributeMapping }),
        (⟨9⟩, { kind := .attributeMappingSource })])]

/-- It is reachable. -/
theorem reachable_loading : loading.Reachable := by
  refine ⟨_, _, fun a ha => ?_, rfl⟩
  rw [List.mem_singleton.1 ha]
  exact drafted_ofDrafts (by decide)

/-- The attribute that the source of the mapping without identifier shows is referred to by the name
that it is offered under; that of the other mapping is not. -/
theorem exists_name_of_mem_mappingScope_loading :
    loading.host.rebuild.referenceId? ⟨⟨0⟩, ⟨12⟩⟩ ⟨⟨0⟩, ⟨10⟩⟩ = some "S.Name" ∧
      (loading.host.rebuild.resolveText (.ofNode ⟨⟨0⟩, ⟨10⟩⟩ .value) "S.Name").map (·.node) =
        some ⟨⟨0⟩, ⟨12⟩⟩ ∧
      loading.host.rebuild.referenceId? ⟨⟨0⟩, ⟨11⟩⟩ ⟨⟨0⟩, ⟨6⟩⟩ = some "Load.A.Name" ∧
      (loading.host.rebuild.resolveText (.ofNode ⟨⟨0⟩, ⟨6⟩⟩ .value) "Load.A.Name").map (·.node) ≠
        some ⟨⟨0⟩, ⟨11⟩⟩ ∧
      (loading.host.rebuild.resolveText (.ofNode ⟨⟨0⟩, ⟨6⟩⟩ .value) "A.Name").map (·.node) =
        some ⟨⟨0⟩, ⟨11⟩⟩ := by
  obtain ⟨d, hd, hviewer⟩ := Option.bind_eq_some_iff.1
    (show (loading.host.rebuild.workspace.get? ⟨0⟩).bind loading.host.rebuild.registry.modelOf? =
      some ⟨"core"⟩ by decide +kernel)
  have hkinds : (loading.host.rebuild.workspace.get? ⟨0⟩).map (fun d =>
      (d.kind? ⟨10⟩, d.kind? ⟨6⟩)) =
        some (some .attributeMappingSource, some .attributeMappingSource) := by
    decide +kernel
  have homitted : (loading.host.rebuild.workspace.get? ⟨0⟩).map (fun d =>
      (d.omittedIds .attributeMappingSource ⟨12⟩, d.omittedIds .attributeMappingSource ⟨11⟩)) =
        some ([], ["Load"]) := by
    decide +kernel
  simp only [hd, Option.map_some, Option.some.injEq, Prod.mk.injEq] at hkinds homitted
  obtain ⟨plain, hplain, hplainKind⟩ := Option.map_eq_some_iff.1 hkinds.1
  obtain ⟨named, hnamed, hnamedKind⟩ := Option.map_eq_some_iff.1 hkinds.2
  obtain ⟨x, hx, hxnode⟩ :
      ∃ x ∈ (loading.host.rebuild.scope (.ofNode ⟨⟨0⟩, ⟨10⟩⟩ .value)).elements,
        x.node = ⟨⟨0⟩, ⟨12⟩⟩ := by
    decide +kernel
  obtain ⟨y, hy, hynode, hyname⟩ :
      ∃ y ∈ (loading.host.rebuild.scope (.ofNode ⟨⟨0⟩, ⟨6⟩⟩ .value)).elements,
        y.node = ⟨⟨0⟩, ⟨11⟩⟩ ∧ y.name = "A.Name" := by
    decide +kernel
  have hxid : loading.host.rebuild.referenceId? ⟨⟨0⟩, ⟨12⟩⟩ ⟨⟨0⟩, ⟨10⟩⟩ = some "S.Name" := by
    decide +kernel
  have hyid : loading.host.rebuild.referenceId? ⟨⟨0⟩, ⟨11⟩⟩ ⟨⟨0⟩, ⟨6⟩⟩ = some "Load.A.Name" := by
    decide +kernel
  obtain ⟨t, name, ht, hname, hmeans, -⟩ := @exists_name_of_mem_mappingScope _ reachable_loading
    ⟨⟨0⟩, ⟨10⟩⟩ d hd _ hviewer plain hplain .value (by rw [hplainKind]; rfl) 0 x hx
  obtain ⟨t', name', ht', hname', -, hlonger⟩ := @exists_name_of_mem_mappingScope _
    reachable_loading ⟨⟨0⟩, ⟨6⟩⟩ d hd _ hviewer named hnamed .value (by rw [hnamedKind]; rfl) 0 y hy
  rw [hxnode] at ht hname hmeans
  rw [hynode] at ht' hname' hlonger
  cases hd.symm.trans ht
  cases hd.symm.trans ht'
  cases hxid.symm.trans hname
  cases hyid.symm.trans hname'
  rw [hplainKind] at hmeans
  rw [hnamedKind, hyname] at hlonger
  obtain ⟨-, hnever, hoffered⟩ := hlonger (by simp [homitted.2])
  exact ⟨hxid, hmeans homitted.1 (Or.inr (by decide +kernel)), hyid, hnever,
    hoffered (Or.inr (by decide +kernel))⟩

/-- A session in which identifiers are distinct below every node, and two documents have mappings
without identifiers, in which sources and attributes have identifiers that read the same when they
are joined. -/
def entangled : Session :=
  (start { models := [{ id := ⟨"core"⟩, referenceName := "core", root := "file:///core" }] }).run
    [.set (.ofDrafts "file:///core/a.cm"
        [(.root, { kind := .mapping, id := some "Load" }),
          (⟨1⟩, { kind := .sourceObject, id := some "A" }),
          (⟨1⟩, { kind := .sourceObject, id := some "B" }),
          (⟨3⟩, { kind := .sourceObjectDependency }),
          (.root, { kind := .mapping }),
          (⟨5⟩, { kind := .sourceObject, id := some "S" }),
          (⟨6⟩, { kind := .sourceObjectAttribute, id := some "b.c" }),
          (⟨6⟩, { kind := .sourceObjectDependency, references := [(.source, "S.b")] }),
          (⟨6⟩, { kind := .joinCondition }),
          (⟨9⟩, { kind := .sourceObjectAttributeReference }),
          (⟨5⟩, { kind := .sourceObject, id := some "S.b" }),
          (⟨11⟩, { kind := .sourceObjectAttribute, id := some "c" }),
          (⟨5⟩, { kind := .attributeMapping }),
          (⟨13⟩, { kind := .attributeMappingSource })]),
      .set (.ofDrafts "file:///core/b.cm"
        [(.root, { kind := .mapping }),
          (⟨1⟩, { kind := .sourceObject, id := some "S" }),
          (⟨2⟩, { kind := .sourceObjectAttribute, id := some "b.c" })])]

/-- It is reachable. -/
theorem reachable_entangled : entangled.Reachable := by
  refine ⟨_, _, fun a ha => ?_, rfl⟩
  simp only [List.mem_cons, List.not_mem_nil, or_false] at ha
  rcases ha with rfl | rfl
  · exact drafted_ofDrafts (by decide)
  · exact drafted_ofDrafts (by decide)

/-- The join condition is offered an attribute of each of two sources, under one name. -/
theorem elements_scope_entangled :
    (entangled.host.rebuild.scope (.ofNode ⟨⟨0⟩, ⟨10⟩⟩ .value)).elements =
      [⟨"S.b.c", .sourceObjectAttribute, ⟨⟨0⟩, ⟨7⟩⟩, "file:///core/a.cm", some ⟨"core"⟩,
          .localForm⟩,
        ⟨"S.b.c", .sourceObjectAttribute, ⟨⟨0⟩, ⟨12⟩⟩, "file:///core/a.cm", some ⟨"core"⟩,
          .localForm⟩] := by
  obtain ⟨d, hd⟩ := Option.isSome_iff_exists.1
    (show (entangled.host.rebuild.workspace.get? ⟨0⟩).isSome by decide +kernel)
  have htree : (entangled.host.rebuild.workspace.get? ⟨0⟩).map (fun d =>
      (d.kind? ⟨10⟩, d.ancestorOfKind? ⟨10⟩ .sourceObject, d.parent? ⟨6⟩, d.namedSources ⟨5⟩)) =
        some (some .sourceObjectAttributeReference, some ⟨6⟩, some ⟨5⟩,
          [("S", ⟨6⟩), ("S.b", ⟨11⟩)]) := by
    decide +kernel
  have hdependencies : (entangled.host.rebuild.workspace.get? ⟨0⟩).map (fun d =>
      (d.directDependencies [("S", ⟨6⟩), ("S.b", ⟨11⟩)] ⟨6⟩,
        d.directDependencies [("S", ⟨6⟩), ("S.b", ⟨11⟩)] ⟨11⟩)) = some ([⟨11⟩], []) := by
    decide +kernel
  have hattributes : (entangled.host.rebuild.workspace.get? ⟨0⟩).map (fun d =>
      (entangled.host.rebuild.resolver.sourceAttributes d ⟨6⟩,
        entangled.host.rebuild.resolver.sourceAttributes d ⟨11⟩)) =
          some ([⟨"S.b.c", .sourceObjectAttribute, ⟨⟨0⟩, ⟨7⟩⟩, "file:///core/a.cm",
              some ⟨"core"⟩, .localForm⟩],
            [⟨"S.b.c", .sourceObjectAttribute, ⟨⟨0⟩, ⟨12⟩⟩, "file:///core/a.cm",
              some ⟨"core"⟩, .localForm⟩]) := by
    decide +kernel
  simp only [hd, Option.map_some, Option.some.injEq, Prod.mk.injEq]
    at htree hdependencies hattributes
  obtain ⟨hkind, howner, hmapping, hsources⟩ := htree
  have hclosure : d.sourceClosure ⟨6⟩ = [⟨6⟩, ⟨11⟩] := by
    simp [Document.sourceClosure, hmapping, hsources, Document.visitSources, hdependencies,
      Pool.without]
  rw [@Snapshot.elements_scope_sourceObjectAttributeReference _ ⟨⟨0⟩, ⟨10⟩⟩ d hd hkind _ howner]
  simp [hclosure, hattributes]

/-- The names that are given for offered nodes do not always mean them, although identifiers are
distinct below every node: that of a source of a mapping with an identifier means nothing where
sources are offered, and that of an attribute may mean one of another source, in a join condition as
well as where the other document is seen. -/
theorem not_resolveText_of_distinctIds :
    entangled.Reachable ∧
      (∃ d, entangled.host.rebuild.workspace.get? ⟨0⟩ = some d ∧ d.DistinctIds ∧
        entangled.host.rebuild.registry.modelOf? d = some ⟨"core"⟩ ∧
        d.kind? ⟨4⟩ = some .sourceObjectDependency ∧
        d.kind? ⟨10⟩ = some .sourceObjectAttributeReference ∧
        d.kind? ⟨14⟩ = some .attributeMappingSource) ∧
      (∃ e, entangled.host.rebuild.workspace.get? ⟨1⟩ = some e ∧ e.DistinctIds) ∧
      (∃ x ∈ (entangled.host.rebuild.scope (.ofNode ⟨⟨0⟩, ⟨4⟩⟩ .source)).elements,
        x.node = ⟨⟨0⟩, ⟨2⟩⟩ ∧
        entangled.host.rebuild.referenceId? ⟨⟨0⟩, ⟨2⟩⟩ ⟨⟨0⟩, ⟨4⟩⟩ = some "Load.A" ∧
        entangled.host.rebuild.resolveText (.ofNode ⟨⟨0⟩, ⟨4⟩⟩ .source) "Load.A" = none) ∧
      (∃ x ∈ (entangled.host.rebuild.scope (.ofNode ⟨⟨0⟩, ⟨10⟩⟩ .value)).elements,
        x.node = ⟨⟨0⟩, ⟨12⟩⟩ ∧
        entangled.host.rebuild.referenceId? ⟨⟨0⟩, ⟨12⟩⟩ ⟨⟨0⟩, ⟨10⟩⟩ = some "S.b.c" ∧
        (entangled.host.rebuild.resolveText (.ofNode ⟨⟨0⟩, ⟨10⟩⟩ .value) "S.b.c").map (·.node) =
          some ⟨⟨0⟩, ⟨7⟩⟩) ∧
      ∃ x ∈ (entangled.host.rebuild.scope (.ofNode ⟨⟨0⟩, ⟨14⟩⟩ .value)).elements,
        x.node = ⟨⟨1⟩, ⟨3⟩⟩ ∧
        entangled.host.rebuild.referenceId? ⟨⟨1⟩, ⟨3⟩⟩ ⟨⟨0⟩, ⟨14⟩⟩ = some "S.b.c" ∧
        (entangled.host.rebuild.resolveText (.ofNode ⟨⟨0⟩, ⟨14⟩⟩ .value) "S.b.c").map (·.node) =
          some ⟨⟨0⟩, ⟨7⟩⟩ := by
  have hdistinct : (entangled.host.rebuild.workspace.get? ⟨0⟩).map (fun d =>
      (decide d.DistinctIds, entangled.host.rebuild.registry.modelOf? d, d.kind? ⟨4⟩, d.kind? ⟨10⟩,
        d.kind? ⟨14⟩)) = some (true, some ⟨"core"⟩, some .sourceObjectDependency,
          some .sourceObjectAttributeReference, some .attributeMappingSource) := by
    decide +kernel
  have hdistinct' : (entangled.host.rebuild.workspace.get? ⟨1⟩).map (decide ·.DistinctIds) =
      some true := by
    decide +kernel
  refine ⟨reachable_entangled, ?_, ?_, by decide +kernel, ?_, by decide +kernel⟩
  · obtain ⟨d, hd, hfacts⟩ := Option.map_eq_some_iff.1 hdistinct
    simp only [Prod.mk.injEq, decide_eq_true_eq] at hfacts
    exact ⟨d, hd, hfacts⟩
  · obtain ⟨e, he, hfacts⟩ := Option.map_eq_some_iff.1 hdistinct'
    exact ⟨e, he, of_decide_eq_true hfacts⟩
  · rw [Snapshot.resolveText, Scope.lookup_eq_find?, elements_scope_entangled]
    decide +kernel

end Session

end ModelBinding
