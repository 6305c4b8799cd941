import ModelBinding.Proofs.BuiltTree
import ModelBinding.Proofs.Descriptions
import ModelBinding.Proofs.Mirror
import ModelBinding.Proofs.Sources

/-!
# Derived attributes in join conditions and in mappings

What a join condition is shown is found anew whenever it is asked for, from the tree of the
document; the container tables, which attribute mappings read, were filled when plans were
applied in some earlier build. Of the derived attributes of a source both say the same. So a
join condition is shown exactly those entries of the mapping's table that are about derived
attributes of the sources in the closure, each once
(`derived_scope_sourceObjectAttributeReference`).
-/

namespace ModelBinding

/-- The tables of a document describe a derived attribute under the names that its view gives it, and
nowhere else. -/
theorem Snapshot.Current.filter_tables_eq {s : Snapshot} (h : s.Current Document.WellFormed)
    {id : DocumentId} {d : Document} (hd : s.workspace.get? id = some d) {tables : LocalTables}
    (htables : s.index.locals? id = some tables) {v : NodeId} {kind derived : NodeKind}
    (hkind : d.kind? v = some kind) (hview : kind.derivedAttributeKind? = some derived) {c : NodeId}
    (hc : c ∈ d.derivedChildren v) :
    tables.entries.filter (·.2.node = d.ptr c) =
      d.copyDescriptions s.registry v c kind derived := by
  obtain ⟨e, r, hok, -, hregistry, hdocument, -, hlocals⟩ := h.of_get? hd
  cases hlocals.symm.trans htables
  rw [← hregistry]
  exact (hok.planned_builtWith r).filter_tables_eq_of_resetReferences
    ((e.grownTo_builtWith r).congr hdocument) hdocument hkind hview hc

namespace Resolver

variable {r : Resolver} {d : Document} (h : d.IsTree)
include h

/-- No attribute of a source is shown twice. -/
theorem nodup_sourceAttributes (source : NodeId) : (r.sourceAttributes d source).Nodup := by
  unfold sourceAttributes
  split
  · exact List.nodup_nil
  · refine List.Nodup.filterMap ?_ ((h.nodup_children source).filter _)
    intro a a' x ha ha'
    obtain ⟨own, -, rfl⟩ := Option.map_eq_some_iff.1 ha
    obtain ⟨own', -, heq⟩ := Option.map_eq_some_iff.1 ha'
    exact (congrArg (fun x : Description => x.node.node) heq).symm

/-- A description of an attribute of a source is about a node inside it. -/
theorem parent?_of_mem_sourceAttributes {source : NodeId} {x : Description}
    (hx : x ∈ r.sourceAttributes d source) : d.parent? x.node.node = some source := by
  obtain ⟨a, ha, -, _, _, -, -, rfl⟩ := mem_sourceAttributes_iff.1 hx
  exact h.parent?_of_mem source a ha

/-- Of the sources that depend on each other no attribute is shown twice. -/
theorem nodup_flatMap_sourceAttributes (source : NodeId) :
    ((d.sourceClosure source).flatMap (r.sourceAttributes d)).Nodup := by
  refine List.nodup_flatMap.2 ⟨fun t _ => nodup_sourceAttributes h t, ?_⟩
  refine (d.nodup_sourceClosure source).imp fun {t t'} hne => ?_
  intro x hx hx'
  have hparent := parent?_of_mem_sourceAttributes h hx
  rw [parent?_of_mem_sourceAttributes h hx', Option.some_inj] at hparent
  exact hne hparent.symm

end Resolver

/-- What describes a derived attribute of a source, which is no target, is its name behind the one of
the source, in the table of the container. -/
theorem Document.mem_copyDescriptions_sourceObject {d : Document} {r : Registry}
    {source container c : NodeId} (hcontainer : d.parent? source = some container)
    {entry : NodeId × Description} :
    entry ∈ d.copyDescriptions r source c .sourceObject .sourceObjectAttribute ↔
      ∃ sourceId own, d.ownId? source = some sourceId ∧ d.ownId? c = some own ∧
        entry = (container, d.describe (r.modelOf? d) c .sourceObjectAttribute
          (Name.qualify sourceId own) .localForm) := by
  rw [copyDescriptions, hcontainer]
  cases d.ownId? c with
  | none => simp
  | some own =>
    cases d.ownId? source with
    | none => simp
    | some sourceId => simp

/-- There is at most one description of it. -/
theorem Document.length_copyDescriptions_sourceObject_le (d : Document) (r : Registry)
    (source c : NodeId) :
    (d.copyDescriptions r source c .sourceObject .sourceObjectAttribute).length ≤ 1 := by
  rw [copyDescriptions]
  cases d.ownId? c with
  | none => exact Nat.zero_le 1
  | some own =>
    rw [List.length_append, Option.length_toList]
    split
    · exact Nat.le_refl 1
    · exact Nat.zero_le 1

namespace Snapshot.Current

variable {s : Snapshot} (h : s.Current Document.WellFormed) {id : DocumentId} {d : Document}
  (hd : s.workspace.get? id = some d) {tables : LocalTables}
  (htables : s.index.locals? id = some tables) {source : NodeId}
  (hsource : d.kind? source = some .sourceObject) {c : NodeId} (hc : c ∈ d.derivedChildren source)
include h hd htables hsource hc

/-- The table of the container of a source describes a derived attribute of it exactly as the source
is asked to. -/
theorem mem_table_iff_mem_sourceAttributes {container : NodeId}
    (hcontainer : d.parent? source = some container)
    (hkind : d.kind? c = some .sourceObjectAttribute) {x : Description} (hx : x.node = d.ptr c) :
    x ∈ tables.table container ↔ x ∈ s.resolver.sourceAttributes d source := by
  have hentries := h.filter_tables_eq hd htables hsource rfl hc
  have hentry : x ∈ tables.table container ↔ (container, x) ∈
      d.copyDescriptions s.registry source c .sourceObject .sourceObjectAttribute := by
    rw [← hentries]
    simp [LocalTables.table, hx]
  rw [hentry, Document.mem_copyDescriptions_sourceObject hcontainer,
    Resolver.mem_sourceAttributes_iff]
  constructor
  · rintro ⟨sourceId, own, hsourceId, hown, heq⟩
    obtain ⟨-, rfl⟩ := Prod.mk.inj heq
    exact ⟨c, (List.mem_filter.1 hc).1, hkind, sourceId, own, hsourceId, hown, rfl⟩
  · rintro ⟨a, -, -, sourceId, own, hsourceId, hown, rfl⟩
    obtain rfl : a = c := congrArg NodePtr.node hx
    exact ⟨sourceId, own, hsourceId, hown, rfl⟩

/-- No table describes a derived attribute of a source twice. -/
theorem length_filter_table_le_one (container : NodeId) :
    ((tables.table container).filter (·.node = d.ptr c)).length ≤ 1 := by
  have hentries := h.filter_tables_eq hd htables hsource rfl hc
  have hle := d.length_copyDescriptions_sourceObject_le s.registry source c
  rw [← hentries] at hle
  rw [LocalTables.table, List.filter_map, List.length_map]
  refine Nat.le_trans (List.Sublist.length_le ?_) hle
  exact List.filter_sublist.filter _

end Snapshot.Current

namespace Session

/-- After any sound actions and a rebuild, the descriptions of derived nodes that a join condition of
a source is shown are exactly those of derived attributes of the sources in its closure that stand
in the table of the mapping, and none of them occurs twice. -/
theorem derived_scope_sourceObjectAttributeReference {s : Session} (hs : s.Reachable)
    {ptr : NodePtr} {d : Document} (hd : s.host.rebuild.workspace.get? ptr.document = some d)
    (hkind : d.kind? ptr.node = some .sourceObjectAttributeReference) {source mapping : NodeId}
    (haround : d.ancestorOfKind? ptr.node .sourceObject = some source)
    (hmapping : d.parent? source = some mapping) (i : Nat) :
    ∃ tables, s.host.rebuild.index.locals? ptr.document = some tables ∧
      ((s.host.rebuild.scope (.ofNode ptr .value i)).elements.filter fun x =>
        d.isDerived x.node.node).Nodup ∧
      ((s.host.rebuild.scope (.ofNode ptr .value i)).elements.filter fun x =>
        d.isDerived x.node.node).Perm
          ((tables.table mapping).filter fun x =>
            d.isDerived x.node.node ∧ x.kind = .sourceObjectAttribute ∧
              ∃ t ∈ d.sourceClosure source, d.parent? x.node.node = some t) := by
  have hcurrent := hs.current
  have htree := hcurrent.isTree hd
  have hsource : d.kind? source = some .sourceObject := by simpa using List.find?_some haround
  obtain ⟨tables, htables⟩ : ∃ tables, s.host.rebuild.index.locals? ptr.document = some tables := by
    obtain ⟨_, _, -, -, -, -, -, htables⟩ := hcurrent.of_get? hd
    exact ⟨_, htables⟩
  have hclosure : ∀ t ∈ d.sourceClosure source,
      d.kind? t = some .sourceObject ∧ d.parent? t = some mapping := by
    intro t ht
    obtain ⟨hchild, hkind⟩ := List.mem_filter.1
      (htree.mem_childrenOfKind_of_mem_sourceClosure hsource hmapping ht)
    exact ⟨by simpa using hkind, htree.parent?_of_mem _ _ hchild⟩
  have hchild : ∀ {x : Description} {t}, d.isDerived x.node.node = true →
      d.parent? x.node.node = some t → x.node.node ∈ d.derivedChildren t :=
    fun hderived hparent => List.mem_filter.2 ⟨(htree.of_parent? hparent).2, hderived⟩
  have hlocals : s.host.rebuild.index.localsOf ptr.document = tables := by
    rw [Index.localsOf, htables, Option.getD_some]
  have hfits : ∀ x ∈ tables.table mapping, x.Fits s.host.rebuild.registry d := fun x hx =>
    (hs.current_plain.fits_of_mem_table hd (hlocals.symm ▸ hx)).1
  have hptr : ∀ x ∈ tables.table mapping, x.node = d.ptr x.node.node := fun x hx =>
    congrArg (fun id => (⟨id, x.node.node⟩ : NodePtr)) (hfits x hx).document_eq
  rw [Snapshot.elements_scope_sourceObjectAttributeReference hd hkind haround]
  have hshown := (Resolver.nodup_flatMap_sourceAttributes (r := s.host.rebuild.resolver) htree
    source).filter fun x => d.isDerived x.node.node
  refine ⟨tables, htables, hshown, (List.perm_ext_iff_of_nodup hshown ?_).2 fun x => ?_⟩
  · refine nodup_of_length_filter_le_one (f := Description.node) fun x hx => ?_
    obtain ⟨hx, hbelongs⟩ := List.mem_filter.1 hx
    obtain ⟨hderived, -, t, ht, hparent⟩ := of_decide_eq_true hbelongs
    refine Nat.le_trans (List.filter_sublist.filter _).length_le ?_
    rw [hptr x hx]
    exact hcurrent.length_filter_table_le_one hd htables (hclosure t ht).1
      (hchild hderived hparent) mapping
  · rw [List.mem_filter, List.mem_filter, List.mem_flatMap, decide_eq_true_iff]
    constructor
    · rintro ⟨⟨t, ht, hx⟩, hderived⟩
      obtain ⟨a, -, hkind, _, _, -, -, heq⟩ := Resolver.mem_sourceAttributes_iff.1 hx
      have hnode : x.node = d.ptr a := congrArg Description.node heq
      have hparent := Resolver.parent?_of_mem_sourceAttributes htree hx
      refine ⟨(hcurrent.mem_table_iff_mem_sourceAttributes hd htables (hclosure t ht).1
        (hchild hderived hparent) (hclosure t ht).2 ?_ ?_).2 hx, hderived,
        congrArg Description.kind heq, t, ht, hparent⟩
      · rw [hnode]
        exact hkind
      · rw [hnode]
        rfl
    · rintro ⟨hx, hderived, hkind, t, ht, hparent⟩
      refine ⟨⟨t, ht, ?_⟩, hderived⟩
      exact (hcurrent.mem_table_iff_mem_sourceAttributes hd htables (hclosure t ht).1
        (hchild hderived hparent) (hclosure t ht).2
        ((hfits x hx).kind_eq.trans (congrArg some hkind)) (hptr x hx)).1 hx

/-- A session in which two sources that depend on each other and a third one view an entity. -/
def joined : Session :=
  (start { models := [{ id := ⟨"core"⟩, referenceName := "core", root := "file:///core" }] }).run
    [.set (.ofDrafts "file:///core/a.cm"
      [(.root, { kind := .logicalEntity, id := some "Party" }),
        (⟨1⟩, { kind := .logicalAttribute, id := some "Name" }),
        (.root, { kind := .mapping, id := some "Load" }),
        (⟨3⟩, { kind := .sourceObject, id := some "A", references := [(.entity, "Party")] }),
        (⟨4⟩, { kind := .sourceObjectDependency, references := [(.source, "B")] }),
        (⟨4⟩, { kind := .joinCondition }),
        (⟨6⟩, { kind := .sourceObjectAttributeReference }),
        (⟨3⟩, { kind := .sourceObject, id := some "B", references := [(.entity, "Party")] }),
        (⟨8⟩, { kind := .sourceObjectDependency, references := [(.source, "A")] }),
        (⟨8⟩, { kind := .sourceObjectAttribute, id := some "x" }),
        (⟨3⟩, { kind := .sourceObject, id := some "C", references := [(.entity, "Party")] })])]

/-- It is reachable. -/
theorem reachable_joined : joined.Reachable := by
  refine ⟨_, _, fun a ha => ?_, rfl⟩
  rw [List.mem_singleton.1 ha]
  exact drafted_ofDrafts (by decide)

/-- The join condition of the first source is shown the derived attribute of the second as the table
of the mapping describes it. -/
theorem derived_scope_sourceObjectAttributeReference_joined :
    ∃ tables x, joined.host.rebuild.index.locals? ⟨0⟩ = some tables ∧ x ∈ tables.table ⟨3⟩ ∧
      x.name = "B.Name" ∧ x.node = ⟨⟨0⟩, ⟨13⟩⟩ ∧
        x ∈ (joined.host.rebuild.scope (.ofNode ⟨⟨0⟩, ⟨7⟩⟩ .value)).elements := by
  obtain ⟨d, hd⟩ := Option.isSome_iff_exists.1
    (show (joined.host.rebuild.workspace.get? ⟨0⟩).isSome by decide +kernel)
  have hsite : (joined.host.rebuild.workspace.get? ⟨0⟩).map (fun d =>
      (d.kind? ⟨7⟩, d.ancestorOfKind? ⟨7⟩ .sourceObject, d.parent? ⟨4⟩)) =
        some (some .sourceObjectAttributeReference, some ⟨4⟩, some ⟨3⟩) := by
    decide +kernel
  have hdirect : (joined.host.rebuild.workspace.get? ⟨0⟩).map (fun d =>
      d.directDependencies (d.namedSources ⟨3⟩) ⟨4⟩) = some [⟨8⟩] := by
    decide +kernel
  have hcopy : (joined.host.rebuild.workspace.get? ⟨0⟩).map (fun d =>
      (d.isDerived ⟨13⟩, d.parent? ⟨13⟩)) = some (true, some ⟨8⟩) := by
    decide +kernel
  have hentry : (joined.host.rebuild.index.locals? ⟨0⟩).any (fun tables =>
      (tables.table ⟨3⟩).any fun x => x.name = "B.Name" ∧ x.node = ⟨⟨0⟩, ⟨13⟩⟩ ∧
        x.kind = .sourceObjectAttribute) = true := by
    decide +kernel
  simp only [hd, Option.map_some, Option.some.injEq, Prod.mk.injEq] at hsite hdirect hcopy
  obtain ⟨hkind, haround, hmapping⟩ := hsite
  obtain ⟨hderived, hparent⟩ := hcopy
  have hclosure : (⟨8⟩ : NodeId) ∈ d.sourceClosure ⟨4⟩ :=
    (Document.mem_sourceClosure_iff hmapping).2 (.single (by simp [hdirect]))
  obtain ⟨tables, htables, -, hperm⟩ := @derived_scope_sourceObjectAttributeReference _
    reachable_joined ⟨⟨0⟩, ⟨7⟩⟩ d hd hkind _ _ haround hmapping 0
  rw [show joined.host.rebuild.index.locals? ⟨0⟩ = some tables from htables, Option.any_some]
    at hentry
  obtain ⟨x, hx, hdescribed⟩ := List.any_eq_true.1 hentry
  obtain ⟨hname, hnode, hkind'⟩ := of_decide_eq_true hdescribed
  have hshown := hperm.mem_iff.2 (List.mem_filter.2 ⟨hx, decide_eq_true
    ⟨hnode ▸ hderived, hkind', ⟨8⟩, hclosure, hnode ▸ hparent⟩⟩)
  exact ⟨tables, x, htables, hx, hname, hnode, (List.mem_filter.1 hshown).1⟩

end Session

end ModelBinding
