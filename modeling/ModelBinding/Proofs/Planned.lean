import ModelBinding.Proofs.Built
import ModelBinding.Proofs.General
import ModelBinding.Proofs.Moved

/-!
# What plans see

Copies are planned with what the exports of all documents that are out of date give,
before any copy is there. The rebuilt snapshot has grown by the copies
(`Host.grownTo_rebuild`), but these are no entities: what a viewing node refers to, and
the attributes that it is to show, are still the same
(`Resolver.GrownTo.viewAttributes`).
-/

namespace ModelBinding

/-- A resolver that sees what another one sees, with derived attributes added to the documents and
to their container tables. -/
structure Resolver.GrownTo (r t : Resolver) : Prop where
  /-- The data models are the same. -/
  registry : t.registry = r.registry
  /-- No documents have been added. -/
  document_none : ∀ id, r.document? id = none → t.document? id = none
  /-- The documents have grown by derived attributes. -/
  document_some : ∀ id d, r.document? id = some d → ∃ e, t.document? id = some e ∧ d.GrownTo e
  /-- The exports of all kinds are the same. -/
  globalScope : ∀ k, t.index.globalScope k = r.index.globalScope k
  /-- The container tables have grown at the end, by entries about derived attributes. -/
  locals : ∀ id, ∃ more, t.index.locals? id = (r.index.locals? id).map (·.append more) ∧
    ∀ entry ∈ more, entry.2.kind.isDerivedAttribute = true

namespace NodeKind

/-- The entity of a viewing node is an entity. -/
theorem referenceTarget?_entity {k : NodeKind} (h : k.isEntityView = true) :
    k.referenceTarget? .entity = some .logicalEntity := by
  cases k <;> simp [isEntityView, derivedAttributeKind?] at h <;> rfl

end NodeKind

/-- Viewing nodes see the general scope for their entity, but sources not the entity of the target
of the mapping. -/
theorem Resolver.scopeOf_entity (r : Resolver) (d : Document) (n : NodeId) {k : NodeKind}
    (h : k.isEntityView = true) (target : NodeKind) :
    r.scopeOf d n k .entity target =
      if k = .sourceObject then r.sourceEntityScope d n target else r.generalScope d n target := by
  cases k <;> simp [NodeKind.isEntityView, NodeKind.derivedAttributeKind?] at h <;> rfl

/-- The entity that a viewing node refers to is shown in the general scope. -/
theorem Resolver.mem_generalScope_of_resolve_entity {r : Resolver} {d : Document} {id : DocumentId}
    (hd : r.document? id = some d) {n : NodeId} {k : NodeKind} (hk : d.kind? n = some k)
    (hview : k.isEntityView = true) {i : Nat} {x : Description}
    (hx : r.resolve ⟨id, n⟩ .entity i = some x) :
    x ∈ (r.generalScope d n .logicalEntity).elements := by
  obtain ⟨node, hnode, rfl⟩ := Option.map_eq_some_iff.1 hk
  have htarget := NodeKind.referenceTarget?_entity hview
  simp only [resolve, resolveAt, scopeAt, locate, hd, hnode, htarget] at hx
  cases hreference : node.referenceAt? .entity i with
  | none =>
    rw [hreference] at hx
    cases hx
  | some reference =>
    rw [hreference] at hx
    have hmem := List.mem_of_find?_eq_some ((Scope.lookup_eq_find? _ _).symm.trans hx)
    rw [scopeOf_entity r d n hview] at hmem
    split at hmem
    · exact mem_generalScope_of_mem_sourceEntityScope hmem
    · exact hmem

/-- Where the same is shown but for a move, a viewing node refers to the same entity. -/
theorem Resolver.Matches.resolve_entity {σ : NodePtr → NodePtr} {ρ : NodeId → NodeId}
    {near : NodeId → Prop} {asked : NodeKind → Prop} {r t : Resolver} {d e : Document}
    (h : Matches σ ρ near asked r t d e) (hentity : asked .logicalEntity) {id id' : DocumentId}
    (hd : r.document? id = some d) (he : t.document? id' = some e) {n : NodeId} (hn : near n)
    {kind : NodeKind} (hkind : d.kind? n = some kind) (hview : kind.isEntityView = true) (i : Nat) :
    t.resolve ⟨id', ρ n⟩ .entity i = (r.resolve ⟨id, n⟩ .entity i).map (·.moved σ) := by
  obtain ⟨node, hnode, rfl⟩ := Option.map_eq_some_iff.1 hkind
  obtain ⟨node', hnode', hkind'⟩ := Option.map_eq_some_iff.1 ((h.kind? n hn).trans hkind)
  have htarget := NodeKind.referenceTarget?_entity hview
  have hscope : t.scopeOf e (ρ n) node.kind .entity .logicalEntity =
      (r.scopeOf d n node.kind .entity .logicalEntity).moved σ := by
    rw [scopeOf_entity t e _ hview, scopeOf_entity r d _ hview, h.generalScope hn hentity,
      h.sourceEntityScope hn hentity hentity]
    split <;> rfl
  have htext := h.text? n hn .entity i
  rw [hnode, hnode', Option.bind_some, Option.bind_some] at htext
  have hlocate : r.locate ⟨id, n⟩ = .ok (d, node) := by simp only [locate, hd, hnode]
  have hlocate' : t.locate ⟨id', ρ n⟩ = .ok (e, node') := by simp only [locate, he, hnode']
  simp only [resolve, resolveAt, scopeAt, hlocate, hlocate', hkind', htarget, hscope]
  cases hreference : node.referenceAt? .entity i with
  | none =>
    rw [hreference, Option.map_none, Option.map_eq_none_iff] at htext
    rw [htext]
    rfl
  | some reference =>
    rw [hreference, Option.map_some] at htext
    obtain ⟨reference', hreference', heq⟩ := Option.map_eq_some_iff.1 htext
    rw [hreference']
    simp only [Except.map, heq, Scope.lookup_moved]

namespace Resolver.GrownTo

variable {r t : Resolver} (h : r.GrownTo t) {d e : Document} (hgrown : d.GrownTo e)
include h

section Matches

include hgrown

/-- The tables show the same of kinds that no derived attribute has. -/
theorem ofKind_tableOf {target : NodeKind} (htarget : target.isSubtypeOf .logicalAttribute = false)
    (n : NodeId) :
    Description.ofKind target (t.tableOf e n) = Description.ofKind target (r.tableOf d n) := by
  obtain ⟨more, hmore, hkinds⟩ := h.locals d.id
  have hnil : Description.ofKind target ((LocalTables.mk more).table n) = [] := by
    refine Index.ofKind_eq_nil fun x hx => ?_
    obtain ⟨entry, hentry, rfl⟩ := List.mem_map.1 hx
    exact NodeKind.isSubtypeOf_eq_false_of_isDerivedAttribute
      (hkinds entry (List.mem_filter.1 hentry).1) htarget
  rw [tableOf, tableOf, hgrown.id_eq, Index.localsOf, Index.localsOf, hmore]
  cases r.index.locals? d.id with
  | none => rfl
  | some tables =>
    simp only [Option.map_some, Option.getD_some, LocalTables.table_append,
      Description.ofKind_append, hnil, List.append_nil]

/-- Around old nodes the same is shown of kinds that no derived attribute has. -/
theorem matches_old : Matches (fun p => p) (fun n => n) (fun n => n.index < d.size)
    (fun k => k.isSubtypeOf .logicalAttribute = false) r t d e where
  injective _ _ hpq := hpq
  registry := h.registry
  modelOf? := hgrown.modelOf? r.registry
  above n hn a ha := Nat.lt_trans (Document.index_lt_of_mem_ancestors ha) hn
  ancestors n hn := by rw [hgrown.ancestors hn, List.map_id']
  kind? n hn := hgrown.kind? hn
  text? n hn := hgrown.text? hn
  below n _ c hc := Document.index_lt_of_kind? (by simpa using (List.mem_filter.1 hc).2)
  targets n hn := by rw [hgrown.childrenOfKind rfl hn, List.map_id']
  table n _ k hk := (h.ofKind_tableOf hgrown hk n).trans (List.map_id' _).symm
  packageScope k _ :=
    (packageScope_congr h.registry (hgrown.modelOf? _) h.globalScope k).trans (List.map_id' _).symm
  dependencyScope k _ :=
    (dependencyScope_congr h.registry (hgrown.modelOf? _) h.globalScope k).trans
      (List.map_id' _).symm

end Matches

/-- A viewing node refers to the same entity. -/
theorem resolve_entity {ptr : NodePtr} (hd : r.document? ptr.document = some d) {kind : NodeKind}
    (hkind : d.kind? ptr.node = some kind) (hview : kind.isEntityView = true) (i : Nat) :
    t.resolve ptr .entity i = r.resolve ptr .entity i := by
  obtain ⟨e, he, hgrown⟩ := h.document_some ptr.document d hd
  have hresolve := (h.matches_old hgrown).resolve_entity rfl hd he
    (Document.index_lt_of_kind? hkind) hkind hview i
  exact hresolve.trans Option.map_id'

/-- An entity has the same attributes to be copied. -/
theorem map_derive_entityAttributes (entity : NodePtr) (kind : NodeKind) :
    (t.entityAttributes entity).map (fun a => a.2.derive kind a.1) =
      (r.entityAttributes entity).map fun a => a.2.derive kind a.1 := by
  cases hd : r.document? entity.document with
  | none => simp only [entityAttributes, hd, h.document_none _ hd]
  | some d =>
    obtain ⟨e, he, hgrown⟩ := h.document_some _ d hd
    simp only [entityAttributes, hd, he, hgrown.kind?_eq_some_iff (k := .logicalEntity) rfl]
    split
    · rename_i hkind
      rw [hgrown.childrenOfKind rfl (Document.index_lt_of_kind? hkind), List.map_filterMap,
        List.map_filterMap]
      refine List.filterMap_congr fun a ha => ?_
      have hkind : d.kind? a = some .logicalAttribute := by
        simpa using (List.mem_filter.1 ha).2
      have hnode := hgrown.map_node? (fun m : Node => m.derive kind (d.ptr a)) (fun _ => rfl)
        (fun _ _ => rfl) (Document.index_lt_of_kind? hkind)
      have hptr : e.ptr a = d.ptr a := congrArg (fun id => (⟨id, a⟩ : NodePtr)) hgrown.id_eq
      simpa only [Option.map_map, Function.comp_def, hptr] using hnode
    · rfl

/-- A viewing node is to show the same attributes. -/
theorem viewAttributes {ptr : NodePtr} (hd : r.document? ptr.document = some d) {kind : NodeKind}
    (hkind : d.kind? ptr.node = some kind) (hview : kind.isEntityView = true) (derived : NodeKind) :
    t.viewAttributes ptr derived = r.viewAttributes ptr derived := by
  rw [Resolver.viewAttributes, Resolver.viewAttributes, h.resolve_entity hd hkind hview]
  cases r.resolve ptr .entity 0 with
  | none => rfl
  | some entity => exact h.map_derive_entityAttributes entity.node derived

/-- The plan for a document is the same. -/
theorem plan (hd : r.document? d.id = some d) : t.plan d = r.plan d := by
  refine congrArg (DerivationPlan.mk d.id) (List.filterMap_congr fun n _ => ?_)
  unfold planView?
  cases hkind : (d.kind? n).bind (·.derivedAttributeKind?) with
  | none => rfl
  | some derived =>
    obtain ⟨kind, hn, hderived⟩ := Option.bind_eq_some_iff.1 hkind
    have hview : kind.isEntityView = true := by
      rw [NodeKind.isEntityView, hderived]
      rfl
    have hattributes : t.viewAttributes (d.ptr n) derived = r.viewAttributes (d.ptr n) derived :=
      h.viewAttributes hd hn hview derived
    rw [Option.map_some, Option.map_some, hattributes]

end Resolver.GrownTo

/-- What is held for a document that has grown by derived attributes. -/
structure Part.GrownTo (p q : Part) : Prop where
  /-- The exports are the same. -/
  exports : q.exports = p.exports
  /-- The container tables have grown at the end, by entries about derived attributes. -/
  tables : ∃ more, q.tables = p.tables.map (·.append more) ∧
    ∀ entry ∈ more, entry.2.kind.isDerivedAttribute = true
  /-- No document has been added. -/
  document_none : p.document = none → q.document = none
  /-- The document has grown by derived attributes. -/
  document_some : ∀ d, p.document = some d → ∃ e, q.document = some e ∧ d.GrownTo e

/-- A snapshot in which all that is held has grown by derived attributes resolves as one that has
grown. -/
theorem Snapshot.grownTo_resolver {s t : Snapshot} (hregistry : t.registry = s.registry)
    (hs : s.index.Faithful) (ht : t.index.Faithful)
    (hkeys : t.index.exports.keys = s.index.exports.keys)
    (hparts : ∀ id, (s.part id).GrownTo (t.part id)) : s.resolver.GrownTo t.resolver where
  registry := hregistry
  document_none id := (hparts id).document_none
  document_some id := (hparts id).document_some
  globalScope k := by
    have hexports : t.index.exports = s.index.exports :=
      Keyed.ext_get? hkeys ht.nodup_exports fun id => (hparts id).exports
    have hall : t.index.all = s.index.all :=
      congrArg (fun exports => exports.values.flatten) hexports
    exact (ht.globalScope_eq k).trans
      ((congrArg (Description.ofKind k) hall).trans (hs.globalScope_eq k).symm)
  locals id := (hparts id).tables

namespace Host

variable {h : Host} (hh : h.Consistent)
include hh

/-- After a rebuild a document has grown from what it was when it had been exported. -/
theorem part_grownTo_rebuild (id : DocumentId) :
    ((h.exportAll h.dirty).part id).GrownTo (h.rebuild.part id) := by
  by_cases hid : id ∈ h.dirty
  · obtain ⟨d, hd⟩ := Workspace.exists_get?_of_mem_ids (hh.dirty_mem id hid)
    have hregistry : (h.exportAll h.dirty).resolver.registry = h.registry :=
      Snapshot.registry_exportAll h.toSnapshot h.dirty
    have hgrown := d.grownTo_builtWith (h.exportAll h.dirty).resolver
    obtain ⟨more, hmore, hkinds⟩ := d.tables_builtWith (h.exportAll h.dirty).resolver
    rw [hregistry] at hgrown hmore
    rw [Snapshot.part_exportAll_of_mem hid hd, part_rebuild_of_mem hh hid hd, Snapshot.rebuilt_eq,
      hmore]
    refine ⟨rfl, ⟨more, rfl, fun entry hentry => (hkinds entry hentry).2.2.1⟩, fun hnone => ?_,
      fun e he => ?_⟩
    · cases hnone
    · cases he
      exact ⟨_, rfl, hgrown.congr (Document.resetReferences_resetReferences _)⟩
  · have hpart := part_rebuild_of_notMem hh hid
    rw [Snapshot.part_exportAll, if_neg hid]
    have hdocument : (h.rebuild.part id).document.map (·.resetReferences) =
        (h.part id).document.map (·.resetReferences) := congrArg Part.document hpart
    refine ⟨(congrArg Part.exports hpart :), ⟨[], ?_, by simp⟩, fun hnone => ?_, fun d hd => ?_⟩
    · have hsame : ∀ tables : Option LocalTables, tables.map (·.append []) = tables := by
        intro tables
        cases tables <;> simp [LocalTables.append]
      rw [hsame]
      exact (congrArg Part.tables hpart :)
    · rw [hnone, Option.map_none, Option.map_eq_none_iff] at hdocument
      exact hdocument
    · rw [hd, Option.map_some] at hdocument
      obtain ⟨e, he, heq⟩ := Option.map_eq_some_iff.1 hdocument
      exact ⟨e, he, .of_resetReferences_eq heq⟩

/-- A rebuilt snapshot has grown from what the exports of all documents that are out of date
gave. -/
theorem grownTo_rebuild : (h.exportAll h.dirty).resolver.GrownTo h.rebuild.resolver := by
  have hkeys := Snapshot.keys_exportAll hh.workspace hh.exports_prefix hh.locals_keys
    hh.unexported_mem
  exact Snapshot.grownTo_resolver
    (h.frame_rebuild.2.2.2.trans (Snapshot.registry_exportAll h.toSnapshot h.dirty).symm)
    (Snapshot.faithful_exportAll hh.index h.dirty) hh.rebuild.index
    (hh.keys_rebuild.1.trans hkeys.1.symm) (part_grownTo_rebuild hh)

end Host

end ModelBinding
