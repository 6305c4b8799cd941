import ModelBinding.Proofs.MappingScopes
import ModelBinding.Proofs.Sources

/-!
# Join conditions

The identifier in a dependency of a source is looked up twice: among all sources of the
mapping when the closure of the source is searched, and among the others when the
reference is resolved. Both find the same, unless the first source that has the identifier
is the dependent source itself; then the search gains nothing by it, and the reference
means nothing, or a later source that shares the identifier, which is reported as a
duplicate in a document that a data model owns. So a join condition is shown the
attributes of the sources that first references lead to, step by step, where no step leads
to such a later source (`mem_scope_sourceObjectAttributeReference_iff`,
`exists_meant_notMem_scope`). In a mapping without repeated identifiers there is none
(`Snapshot.bindsSource_iff_of_nodup`).
-/

namespace ModelBinding

namespace Document.IsTree

variable {d : Document} (h : d.IsTree)
include h

/-- Of the containers of a node its parent is the innermost of the parent's kind. -/
theorem ancestorOfKind?_of_mem_childrenOfKind {n c : NodeId} {k kind : NodeKind}
    (hc : c ∈ d.childrenOfKind n k) (hkind : d.kind? n = some kind) :
    d.ancestorOfKind? c kind = some n := by
  have hparent := h.parent?_of_mem n c (List.mem_filter.1 hc).1
  rw [ancestorOfKind?, h.ancestors_eq hparent, List.find?_cons_of_pos (by simpa using hkind)]

end Document.IsTree

/-- Among the other sources of a mapping an identifier means the first of them that has it. -/
theorem Resolver.lookup_sourceDependencyScope (r : Resolver) {d : Document}
    {n source mapping : NodeId} (haround : d.ancestorOfKind? n .sourceObject = some source)
    (hmapping : d.parent? source = some mapping) (own : String) :
    (r.sourceDependencyScope d n).lookup own =
      ((d.childrenOfKind mapping .sourceObject).find? fun t =>
        t ≠ source && d.ownId? t = some own).map fun t =>
          d.describe (r.registry.modelOf? d) t .sourceObject own .localForm := by
  have hscope : r.sourceDependencyScope d n =
      .single (((d.namedSources mapping).filter (·.2 ≠ source)).map fun named =>
        d.describe (r.registry.modelOf? d) named.2 .sourceObject named.1 .localForm) := by
    simp only [sourceDependencyScope, haround, hmapping]
  rw [hscope, Scope.lookup_eq_find?, Scope.elements_single, List.find?_map, List.find?_filter]
  simp only [Bool.decide_and, Bool.decide_eq_true]
  exact (congrArg (Option.map _) (d.find?_namedSources mapping (· ≠ source) own)).trans
    (Option.map_map ..)

namespace Snapshot

/-- A source binds another one if a dependency of it means the other one by its first reference, and
if the other one is the first source of the mapping that has the identifier, the source itself
included. The last condition tells something only where several sources of the mapping have that
identifier (`bindsSource_iff_of_nodup`). -/
def BindsSource (s : Snapshot) (d : Document) (source target : NodeId) : Prop :=
  ∃ dependency ∈ d.childrenOfKind source .sourceObjectDependency, ∃ found mapping,
    s.resolve (.ofNode (d.ptr dependency) .source) = some found ∧ found.node = d.ptr target ∧
      d.parent? source = some mapping ∧ d.sourceNamed? mapping found.name = some target

/-- What a dependency of a source means is what its text means among the other sources. -/
theorem resolve_sourceObjectDependency {s : Snapshot} {d : Document}
    (hd : s.workspace.get? d.id = some d) (htree : d.IsTree) {source mapping dependency : NodeId}
    (hkind : d.kind? source = some .sourceObject) (hmapping : d.parent? source = some mapping)
    (hdependency : dependency ∈ d.childrenOfKind source .sourceObjectDependency) :
    s.resolve (.ofNode (d.ptr dependency) .source) =
      ((d.node? dependency).bind (·.reference? .source)).bind fun ref =>
        ((d.childrenOfKind mapping .sourceObject).find? fun t =>
          t ≠ source && d.ownId? t = some ref.text).map fun t =>
            d.describe (s.registry.modelOf? d) t .sourceObject ref.text .localForm := by
  have haround := htree.ancestorOfKind?_of_mem_childrenOfKind hdependency hkind
  obtain ⟨node, hnode, hkind'⟩ := Option.map_eq_some_iff.1
    (show d.kind? dependency = some .sourceObjectDependency by
      simpa using (List.mem_filter.1 hdependency).2)
  have htarget : node.kind.referenceTarget? .source = some .sourceObject := by
    rw [hkind']
    rfl
  rw [@resolve_ofNode_eq_lookup _ (d.ptr dependency) _ _ hd hnode _ _ htarget, hkind', hnode]
  exact congrArg (Option.bind (node.reference? .source)) <| funext fun ref =>
    s.resolver.lookup_sourceDependencyScope haround hmapping ref.text

/-- Apart from itself, a source binds those that it depends on directly. -/
theorem bindsSource_iff {s : Snapshot} {d : Document} (hd : s.workspace.get? d.id = some d)
    (htree : d.IsTree) {source mapping target : NodeId}
    (hkind : d.kind? source = some .sourceObject) (hmapping : d.parent? source = some mapping)
    (hne : target ≠ source) :
    s.BindsSource d source target ↔
      target ∈ d.directDependencies (d.namedSources mapping) source := by
  rw [Document.mem_directDependencies_iff]
  constructor
  · rintro ⟨dependency, hdependency, found, mapping', hfound, -, hmapping', hnamed⟩
    cases hmapping.symm.trans hmapping'
    rw [resolve_sourceObjectDependency hd htree hkind hmapping hdependency] at hfound
    obtain ⟨ref, href, hother⟩ := Option.bind_eq_some_iff.1 hfound
    obtain ⟨other, -, rfl⟩ := Option.map_eq_some_iff.1 hother
    exact ⟨dependency, hdependency, ref, href, hnamed⟩
  · rintro ⟨dependency, hdependency, ref, href, hnamed⟩
    -- The first source that has the identifier is not this one, so it is the first of the others.
    have hother : ((d.childrenOfKind mapping .sourceObject).find? fun t =>
        t ≠ source && d.ownId? t = some ref.text) = some target :=
      find?_eq_some_of_imp hnamed
        (by simpa [hne] using (Document.mem_of_sourceNamed? hnamed).2) (by simp)
    refine ⟨dependency, hdependency,
      d.describe (s.registry.modelOf? d) target .sourceObject ref.text .localForm, mapping, ?_, rfl,
      hmapping, hnamed⟩
    rw [resolve_sourceObjectDependency hd htree hkind hmapping hdependency, href,
      Option.bind_some, hother, Option.map_some]

/-- In a mapping whose sources have distinct identifiers, a source binds whatever a dependency of it
means by its first reference. -/
theorem bindsSource_iff_of_nodup {s : Snapshot} {d : Document}
    (hd : s.workspace.get? d.id = some d) (htree : d.IsTree) {source mapping target : NodeId}
    (hkind : d.kind? source = some .sourceObject) (hmapping : d.parent? source = some mapping)
    (hdistinct : ((d.childrenOfKind mapping .sourceObject).filterMap d.ownId?).Nodup) :
    s.BindsSource d source target ↔
      ∃ dependency ∈ d.childrenOfKind source .sourceObjectDependency,
        (s.resolve (.ofNode (d.ptr dependency) .source)).map (·.node) = some (d.ptr target) := by
  constructor
  · rintro ⟨dependency, hdependency, found, -, hfound, hnode, -⟩
    exact ⟨dependency, hdependency, by rw [hfound, Option.map_some, hnode]⟩
  · rintro ⟨dependency, hdependency, hmeant⟩
    obtain ⟨found, hfound, hnode⟩ := Option.map_eq_some_iff.1 hmeant
    refine ⟨dependency, hdependency, found, mapping, hfound, hnode, hmapping, ?_⟩
    rw [resolve_sourceObjectDependency hd htree hkind hmapping hdependency] at hfound
    obtain ⟨ref, -, hdescribed⟩ := Option.bind_eq_some_iff.1 hfound
    obtain ⟨other, hother, rfl⟩ := Option.map_eq_some_iff.1 hdescribed
    cases hnode
    have hfits := List.find?_some hother
    simp only [Bool.and_eq_true, decide_eq_true_eq] at hfits
    exact Document.sourceNamed?_eq_some_of_nodup hdistinct (List.mem_of_find?_eq_some hother) hfits.2

/-- The closure of a source holds exactly what chains lead to in which every source binds the next
one. -/
theorem mem_sourceClosure_iff_bindsSource {s : Snapshot} {d : Document}
    (hd : s.workspace.get? d.id = some d) (htree : d.IsTree) {source mapping : NodeId}
    (hkind : d.kind? source = some .sourceObject) (hmapping : d.parent? source = some mapping)
    {t : NodeId} :
    t ∈ d.sourceClosure source ↔ Relation.ReflTransGen (s.BindsSource d) source t := by
  rw [Document.mem_sourceClosure_iff hmapping]
  -- Dependencies lead to sources of the same mapping only.
  have hsources : ∀ {t}, Relation.ReflTransGen
      (fun a b => b ∈ d.directDependencies (d.namedSources mapping) a) source t →
        d.kind? t = some .sourceObject ∧ d.parent? t = some mapping := fun hchain => by
    cases hchain with
    | refl => exact ⟨hkind, hmapping⟩
    | tail _ hstep =>
      obtain ⟨_, -, ref, -, hnamed⟩ := Document.mem_directDependencies_iff.1 hstep
      obtain ⟨hchild, hkind⟩ := List.mem_filter.1 (Document.mem_of_sourceNamed? hnamed).1
      exact ⟨by simpa using hkind, htree.parent?_of_mem _ _ hchild⟩
  constructor
  · intro hchain
    induction hchain with
    | refl => exact .refl
    | @tail a b hchain hstep ih =>
      obtain ⟨hkind, hmapping⟩ := hsources hchain
      by_cases heq : b = a
      · exact heq ▸ ih
      · exact ih.tail ((bindsSource_iff hd htree hkind hmapping heq).2 hstep)
  · intro hchain
    induction hchain with
    | refl => exact .refl
    | @tail a b _ hstep ih =>
      obtain ⟨hkind, hmapping⟩ := hsources ih
      by_cases heq : b = a
      · exact heq ▸ ih
      · exact ih.tail ((bindsSource_iff hd htree hkind hmapping heq).1 hstep)

end Snapshot

namespace Session

/-- After any sound actions and a rebuild, a join condition of a source is shown exactly the
attributes, with identifiers, of the sources with identifiers that chains lead to from that source
in which every source binds the next one; each of them behind the identifier of its source. Unless
sources of the mapping share an identifier, a source binds just what its dependencies mean by their
first references (`Snapshot.bindsSource_iff_of_nodup`). -/
theorem mem_scope_sourceObjectAttributeReference_iff {s : Session} (hs : s.Reachable)
    {ptr : NodePtr} {d : Document} (hd : s.host.rebuild.workspace.get? ptr.document = some d)
    (hkind : d.kind? ptr.node = some .sourceObjectAttributeReference) {source : NodeId}
    (haround : d.ancestorOfKind? ptr.node .sourceObject = some source) (i : Nat)
    (x : Description) :
    x ∈ (s.host.rebuild.scope (.ofNode ptr .value i)).elements ↔
      ∃ t, Relation.ReflTransGen (s.host.rebuild.BindsSource d) source t ∧
        ∃ a ∈ d.childrenOfKind t .sourceObjectAttribute, ∃ sourceId own,
          d.ownId? t = some sourceId ∧ d.ownId? a = some own ∧
            x = d.describe (s.host.rebuild.registry.modelOf? d) a .sourceObjectAttribute
              (Name.qualify sourceId own) .localForm := by
  have hcurrent := hs.current
  have htree := hcurrent.isTree hd
  have hown := hcurrent.get?_id hd
  have hsource : d.kind? source = some .sourceObject := by simpa using List.find?_some haround
  obtain ⟨mapping, hmapping⟩ :=
    htree.exists_parent_of_kind? (hs.kind?_root hd) hsource (by decide)
  rw [Snapshot.elements_scope_sourceObjectAttributeReference hd hkind haround, List.mem_flatMap]
  refine exists_congr fun t => and_congr
    (Snapshot.mem_sourceClosure_iff_bindsSource hown htree hsource hmapping) ?_
  rw [Resolver.mem_sourceAttributes_iff]
  refine exists_congr fun a => ?_
  rw [Document.childrenOfKind, List.mem_filter, decide_eq_true_iff, and_assoc]
  rfl

/-- A session in which a mapping has a source with two references in one dependency, sources that
depend on each other, and one that shares its identifier with a later source and depends on it. -/
def forked : Session :=
  (start { models := [{ id := ⟨"core"⟩, referenceName := "core", root := "file:///core" }] }).run
    [.set (.ofDrafts "file:///core/a.cm"
      [(.root, { kind := .mapping, id := some "Load" }),
        (⟨1⟩, { kind := .sourceObject, id := some "A" }),
        (⟨2⟩,
          { kind := .sourceObjectDependency
            references := [(.source, "B"), (.source, "C")] }),
        (⟨2⟩, { kind := .joinCondition }),
        (⟨4⟩, { kind := .sourceObjectAttributeReference }),
        (⟨1⟩, { kind := .sourceObject, id := some "B" }),
        (⟨6⟩, { kind := .sourceObjectDependency, references := [(.source, "D")] }),
        (⟨1⟩, { kind := .sourceObject, id := some "C" }),
        (⟨8⟩, { kind := .sourceObjectAttribute, id := some "x" }),
        (⟨1⟩, { kind := .sourceObject, id := some "D" }),
        (⟨10⟩, { kind := .sourceObjectAttribute, id := some "x" }),
        (⟨10⟩, { kind := .sourceObjectDependency, references := [(.source, "A")] }),
        (.root, { kind := .mapping, id := some "Merge" }),
        (⟨13⟩, { kind := .sourceObject, id := some "A" }),
        (⟨14⟩, { kind := .sourceObjectDependency, references := [(.source, "A")] }),
        (⟨14⟩, { kind := .joinCondition }),
        (⟨16⟩, { kind := .sourceObjectAttributeReference }),
        (⟨13⟩, { kind := .sourceObject, id := some "A" }),
        (⟨18⟩, { kind := .sourceObjectAttribute, id := some "x" })])]

/-- It is reachable. -/
theorem reachable_forked : forked.Reachable := by
  refine ⟨_, _, fun a ha => ?_, rfl⟩
  rw [List.mem_singleton.1 ha]
  exact drafted_ofDrafts (by decide)

/-- The join condition of the first source is offered the attribute of the last one, which the
source depends on through another. -/
theorem mem_scope_sourceObjectAttributeReference_iff_forked :
    ∃ x ∈ (forked.host.rebuild.scope (.ofNode ⟨⟨0⟩, ⟨5⟩⟩ .value)).elements,
      x.name = Name.qualify "D" "x" ∧ x.node = ⟨⟨0⟩, ⟨11⟩⟩ := by
  obtain ⟨d, hd⟩ := Option.isSome_iff_exists.1
    (show (forked.host.rebuild.workspace.get? ⟨0⟩).isSome by decide +kernel)
  have hsite : (forked.host.rebuild.workspace.get? ⟨0⟩).map (fun d =>
      (d.id, d.kind? ⟨5⟩, d.ancestorOfKind? ⟨5⟩ .sourceObject)) =
        some (⟨0⟩, some .sourceObjectAttributeReference, some ⟨2⟩) := by
    decide +kernel
  have hmapping : (forked.host.rebuild.workspace.get? ⟨0⟩).map (fun d =>
      (d.parent? ⟨2⟩, d.parent? ⟨6⟩, (d.childrenOfKind ⟨1⟩ .sourceObject).filterMap d.ownId?)) =
        some (some ⟨1⟩, some ⟨1⟩, ["A", "B", "C", "D"]) := by
    decide +kernel
  have hdependencies : (forked.host.rebuild.workspace.get? ⟨0⟩).map (fun d =>
      (d.kind? ⟨2⟩, d.kind? ⟨6⟩, d.childrenOfKind ⟨2⟩ .sourceObjectDependency,
        d.childrenOfKind ⟨6⟩ .sourceObjectDependency)) =
        some (some .sourceObject, some .sourceObject, [⟨3⟩], [⟨7⟩]) := by
    decide +kernel
  have hlast : (forked.host.rebuild.workspace.get? ⟨0⟩).map (fun d =>
      (d.childrenOfKind ⟨10⟩ .sourceObjectAttribute, d.ownId? ⟨10⟩, d.ownId? ⟨11⟩)) =
        some ([⟨11⟩], some "D", some "x") := by
    decide +kernel
  simp only [hd, Option.map_some, Option.some.injEq, Prod.mk.injEq]
    at hsite hmapping hdependencies hlast
  obtain ⟨hid, hkind, haround⟩ := hsite
  obtain ⟨hparent, hparent', hids⟩ := hmapping
  obtain ⟨hsource, hsource', hchildren, hchildren'⟩ := hdependencies
  obtain ⟨hattributes, hown, hown'⟩ := hlast
  have hptr : ∀ n, d.ptr n = ⟨⟨0⟩, n⟩ := fun n => by rw [Document.ptr, hid]
  have hdocument := reachable_forked.current.get?_id hd
  have htree := reachable_forked.current.isTree hd
  have hdistinct : ((d.childrenOfKind ⟨1⟩ .sourceObject).filterMap d.ownId?).Nodup := by
    rw [hids]
    decide
  have hstep : forked.host.rebuild.BindsSource d ⟨2⟩ ⟨6⟩ :=
    (Snapshot.bindsSource_iff_of_nodup hdocument htree hsource hparent hdistinct).2
      ⟨⟨3⟩, by simp [hchildren], by rw [hptr, hptr]; decide +kernel⟩
  have hstep' : forked.host.rebuild.BindsSource d ⟨6⟩ ⟨10⟩ :=
    (Snapshot.bindsSource_iff_of_nodup hdocument htree hsource' hparent' hdistinct).2
      ⟨⟨7⟩, by simp [hchildren'], by rw [hptr, hptr]; decide +kernel⟩
  have hmem := (@mem_scope_sourceObjectAttributeReference_iff _ reachable_forked ⟨⟨0⟩, ⟨5⟩⟩ d hd
    hkind _ haround 0 _).2 ⟨⟨10⟩, .tail (.single hstep) hstep', ⟨11⟩, by simp [hattributes], "D",
      "x", hown, hown', rfl⟩
  exact ⟨_, hmem, rfl, hptr ⟨11⟩⟩

/-- The join conditions are offered the attribute of the last source and nothing. -/
theorem elements_scope_forked :
    (forked.host.rebuild.scope (.ofNode ⟨⟨0⟩, ⟨5⟩⟩ .value)).elements.map (·.node) =
        [⟨⟨0⟩, ⟨11⟩⟩] ∧
      (forked.host.rebuild.scope (.ofNode ⟨⟨0⟩, ⟨17⟩⟩ .value)).elements = [] := by
  obtain ⟨d, hd⟩ := Option.isSome_iff_exists.1
    (show (forked.host.rebuild.workspace.get? ⟨0⟩).isSome by decide +kernel)
  have hsites : (forked.host.rebuild.workspace.get? ⟨0⟩).map (fun d =>
      (d.kind? ⟨5⟩, d.ancestorOfKind? ⟨5⟩ .sourceObject, d.kind? ⟨17⟩,
        d.ancestorOfKind? ⟨17⟩ .sourceObject)) =
        some (some .sourceObjectAttributeReference, some ⟨2⟩, some .sourceObjectAttributeReference,
          some ⟨14⟩) := by
    decide +kernel
  have hmappings : (forked.host.rebuild.workspace.get? ⟨0⟩).map (fun d =>
      (d.parent? ⟨2⟩, d.parent? ⟨14⟩, d.namedSources ⟨1⟩, d.namedSources ⟨13⟩)) =
        some (some ⟨1⟩, some ⟨13⟩, [("A", ⟨2⟩), ("B", ⟨6⟩), ("C", ⟨8⟩), ("D", ⟨10⟩)],
          [("A", ⟨14⟩), ("A", ⟨18⟩)]) := by
    decide +kernel
  have hdependencies : (forked.host.rebuild.workspace.get? ⟨0⟩).map (fun d =>
      ([⟨2⟩, ⟨6⟩, ⟨10⟩].map (d.directDependencies (d.namedSources ⟨1⟩)),
        d.directDependencies (d.namedSources ⟨13⟩) ⟨14⟩)) =
          some ([[⟨6⟩], [⟨10⟩], [⟨2⟩]], [⟨14⟩]) := by
    decide +kernel
  have hattributes : (forked.host.rebuild.workspace.get? ⟨0⟩).map (fun d =>
      ([⟨2⟩, ⟨6⟩, ⟨10⟩].flatMap (forked.host.rebuild.resolver.sourceAttributes d) |>.map (·.node),
        forked.host.rebuild.resolver.sourceAttributes d ⟨14⟩)) =
          some ([⟨⟨0⟩, ⟨11⟩⟩], []) := by
    decide +kernel
  simp only [hd, Option.map_some, Option.some.injEq, Prod.mk.injEq, List.map_cons, List.map_nil,
    List.cons.injEq, and_true] at hsites hmappings hdependencies hattributes
  obtain ⟨hkind, haround, hkind', haround'⟩ := hsites
  obtain ⟨hmapping, hmapping', hsources, hsources'⟩ := hmappings
  rw [hsources, hsources'] at hdependencies
  have hclosure : d.sourceClosure ⟨2⟩ = [⟨2⟩, ⟨6⟩, ⟨10⟩] := by
    simp [Document.sourceClosure, hmapping, hsources, Document.visitSources, hdependencies,
      Pool.without]
  have hclosure' : d.sourceClosure ⟨14⟩ = [⟨14⟩] := by
    simp [Document.sourceClosure, hmapping', hsources', Document.visitSources, hdependencies,
      Pool.without]
  rw [@Snapshot.elements_scope_sourceObjectAttributeReference _ ⟨⟨0⟩, ⟨5⟩⟩ d hd hkind _ haround,
    @Snapshot.elements_scope_sourceObjectAttributeReference _ ⟨⟨0⟩, ⟨17⟩⟩ d hd hkind' _ haround',
    hclosure, hclosure', List.flatMap_singleton]
  exact hattributes

/-- A source is not offered the attributes of all sources that references of its dependencies mean:
the second reference of a dependency is not followed, and neither is one to a later source with the
identifier of the source itself. -/
theorem exists_meant_notMem_scope :
    forked.Reachable ∧ ∃ d, forked.host.rebuild.workspace.get? ⟨0⟩ = some d ∧
      (d.kind? ⟨5⟩ = some .sourceObjectAttributeReference ∧
        d.ancestorOfKind? ⟨5⟩ .sourceObject = some ⟨2⟩ ∧
        ⟨3⟩ ∈ d.childrenOfKind ⟨2⟩ .sourceObjectDependency ∧
        (forked.host.rebuild.resolve (.ofNode ⟨⟨0⟩, ⟨3⟩⟩ .source 1)).map (·.node) =
          some ⟨⟨0⟩, ⟨8⟩⟩ ∧
        ⟨9⟩ ∈ d.childrenOfKind ⟨8⟩ .sourceObjectAttribute ∧
        d.ownId? ⟨8⟩ = some "C" ∧ d.ownId? ⟨9⟩ = some "x" ∧
        ∀ x ∈ (forked.host.rebuild.scope (.ofNode ⟨⟨0⟩, ⟨5⟩⟩ .value)).elements,
          x.node ≠ ⟨⟨0⟩, ⟨9⟩⟩) ∧
      (d.kind? ⟨17⟩ = some .sourceObjectAttributeReference ∧
        d.ancestorOfKind? ⟨17⟩ .sourceObject = some ⟨14⟩ ∧
        ⟨15⟩ ∈ d.childrenOfKind ⟨14⟩ .sourceObjectDependency ∧
        (forked.host.rebuild.resolve (.ofNode ⟨⟨0⟩, ⟨15⟩⟩ .source)).map (·.node) =
          some ⟨⟨0⟩, ⟨18⟩⟩ ∧
        ⟨19⟩ ∈ d.childrenOfKind ⟨18⟩ .sourceObjectAttribute ∧
        d.ownId? ⟨18⟩ = some "A" ∧ d.ownId? ⟨19⟩ = some "x" ∧
        (forked.host.rebuild.scope (.ofNode ⟨⟨0⟩, ⟨17⟩⟩ .value)).elements = []) := by
  obtain ⟨d, hd⟩ := Option.isSome_iff_exists.1
    (show (forked.host.rebuild.workspace.get? ⟨0⟩).isSome by decide +kernel)
  have hsecond : (forked.host.rebuild.workspace.get? ⟨0⟩).map (fun d =>
      (d.kind? ⟨5⟩, d.ancestorOfKind? ⟨5⟩ .sourceObject,
        decide (⟨3⟩ ∈ d.childrenOfKind ⟨2⟩ .sourceObjectDependency))) =
        some (some .sourceObjectAttributeReference, some ⟨2⟩, true) := by
    decide +kernel
  have hsecondMeant : (forked.host.rebuild.workspace.get? ⟨0⟩).map (fun d =>
      (decide (⟨9⟩ ∈ d.childrenOfKind ⟨8⟩ .sourceObjectAttribute), d.ownId? ⟨8⟩, d.ownId? ⟨9⟩)) =
        some (true, some "C", some "x") := by
    decide +kernel
  have hlater : (forked.host.rebuild.workspace.get? ⟨0⟩).map (fun d =>
      (d.kind? ⟨17⟩, d.ancestorOfKind? ⟨17⟩ .sourceObject,
        decide (⟨15⟩ ∈ d.childrenOfKind ⟨14⟩ .sourceObjectDependency))) =
        some (some .sourceObjectAttributeReference, some ⟨14⟩, true) := by
    decide +kernel
  have hlaterMeant : (forked.host.rebuild.workspace.get? ⟨0⟩).map (fun d =>
      (decide (⟨19⟩ ∈ d.childrenOfKind ⟨18⟩ .sourceObjectAttribute), d.ownId? ⟨18⟩,
        d.ownId? ⟨19⟩)) = some (true, some "A", some "x") := by
    decide +kernel
  simp only [hd, Option.map_some, Option.some.injEq, Prod.mk.injEq, decide_eq_true_eq]
    at hsecond hsecondMeant hlater hlaterMeant
  obtain ⟨hkind, haround, hdependency⟩ := hsecond
  obtain ⟨hattribute, hown, hownAttribute⟩ := hsecondMeant
  obtain ⟨hkind', haround', hdependency'⟩ := hlater
  obtain ⟨hattribute', hown', hownAttribute'⟩ := hlaterMeant
  obtain ⟨hoffered, hoffered'⟩ := elements_scope_forked
  refine ⟨reachable_forked, d, hd,
    ⟨hkind, haround, hdependency, by decide +kernel, hattribute, hown, hownAttribute,
      fun x hx => ?_⟩,
    hkind', haround', hdependency', by decide +kernel, hattribute', hown', hownAttribute',
    hoffered'⟩
  have hnode := List.mem_map_of_mem (f := (·.node)) hx
  rw [hoffered, List.mem_singleton] at hnode
  rw [hnode]
  decide

end Session

end ModelBinding
