import ModelBinding.Proofs.Copies
import ModelBinding.Proofs.Freshness

/-!
# Built documents

After a rebuild every document of a session is one that a build made from some earlier
form of it under the registry, and the index holds what that build found
(`current_rebuild`). Nothing needs to be known about the documents for this. What is
known of every document that is set is known of that earlier form too, if it is one of
the properties that last (`Document.Lasting`).
-/

namespace ModelBinding

/-- What a snapshot holds for a document after a build that resolves with `r`. -/
def Document.partWith (d : Document) (r : Resolver) : Part :=
  ⟨some (d.builtWith r).document.resetReferences,
    some ((d.prepare r.registry).exports r.registry), some (d.builtWith r).tables⟩

namespace Resolver

variable {r : Resolver} {d : Document}

/-- A plan has copies for viewing nodes of its document only, each of the kind that the node
derives. -/
theorem exists_derive_of_mem_copies_plan {c : NodeId × Node} (h : c ∈ (r.plan d).copies) :
    ∃ viewKind derived n source, d.kind? c.1 = some viewKind ∧
      viewKind.derivedAttributeKind? = some derived ∧ c.2 = Node.derive n derived source := by
  obtain ⟨v, hv, hc⟩ := List.mem_flatMap.1 h
  obtain ⟨copy, hcopy, rfl⟩ := List.mem_map.1 hc
  obtain ⟨n, -, hn⟩ := List.mem_filterMap.1 hv
  obtain ⟨derived, hkind, rfl⟩ := Option.map_eq_some_iff.1 hn
  obtain ⟨viewKind, hview, hderived⟩ := Option.bind_eq_some_iff.1 hkind
  unfold viewAttributes at hcopy
  split at hcopy
  · cases hcopy
  · obtain ⟨a, -, rfl⟩ := List.mem_map.1 hcopy
    exact ⟨viewKind, derived, a.2, a.1, hview, hderived, rfl⟩

/-- The copies of a plan are gathered along the walk, for each viewing node those that it is to
show. -/
theorem copies_plan_eq (r : Resolver) (d : Document) : (r.plan d).copies = d.walk.flatMap fun n =>
    ((d.kind? n).bind (·.derivedAttributeKind?)).toList.flatMap fun derived =>
      (r.viewAttributes (d.ptr n) derived).map fun copy => (n, copy) := by
  rw [DerivationPlan.copies, plan, List.filterMap_eq_flatMap_toList, List.flatMap_assoc]
  refine List.flatMap_congr fun n _ => ?_
  rw [planView?]
  cases (d.kind? n).bind (·.derivedAttributeKind?) <;> rfl

/-- Copies are of the kind that the node they are for derives. -/
theorem of_mem_copies_plan {c : NodeId × Node} (h : c ∈ (r.plan d).copies) :
    ∃ viewKind, d.kind? c.1 = some viewKind ∧ viewKind.derivedAttributeKind? = some c.2.kind := by
  obtain ⟨viewKind, derived, n, source, hview, hderived, hcopy⟩ :=
    exists_derive_of_mem_copies_plan h
  exact ⟨viewKind, hview, hcopy ▸ hderived⟩

/-- Copies hold no references. -/
theorem references_of_mem_copies_plan {c : NodeId × Node} (h : c ∈ (r.plan d).copies) :
    c.2.references = [] := by
  obtain ⟨_, _, _, _, -, -, hcopy⟩ := exists_derive_of_mem_copies_plan h
  rw [hcopy]
  rfl

/-- All copies of a plan are derived attributes. -/
theorem isDerivedAttribute_of_mem_copies_plan {c : NodeId × Node}
    (h : c ∈ (r.plan d).copies) : c.2.kind.isDerivedAttribute = true := by
  obtain ⟨viewKind, -, hderived⟩ := of_mem_copies_plan h
  exact (NodeKind.isDerivedAttribute_iff _).2 ⟨viewKind, hderived⟩

/-- Applying a plan to the document it was made for appends its copies one after another. -/
theorem copied_apply_plan (r : Resolver) (d : Document) (registry : Registry)
    (tables : LocalTables) :
    Derivation.Copied registry d tables (r.plan d).copies
      ((r.plan d).apply registry d tables) := by
  apply Derivation.copied_apply
  intro c hc
  obtain ⟨viewKind, hkind, -⟩ := of_mem_copies_plan hc
  rw [hkind]
  rfl

end Resolver

namespace Document

/-- A build appends the copies of its plan one after another. -/
theorem copied_builtWith (d : Document) (r : Resolver) :
    Derivation.Copied r.registry (d.prepare r.registry)
      ((d.prepare r.registry).localTables r.registry) (r.plan (d.prepare r.registry)).copies
      (d.builtWith r) :=
  r.copied_apply_plan _ _ _

/-- A build lets the prepared document grow. -/
theorem grownTo_builtWith (d : Document) (r : Resolver) :
    (d.prepare r.registry).GrownTo (d.builtWith r).document :=
  .of_copied (d.copied_builtWith r) fun _ => Resolver.isDerivedAttribute_of_mem_copies_plan

/-- A build adds to the tables entries that describe the derived attributes it appends. -/
theorem tables_builtWith (d : Document) (r : Resolver) :
    ∃ more, (d.builtWith r).tables =
        ((d.prepare r.registry).localTables r.registry).append more ∧
      ∀ entry ∈ more, entry.2.node.document = d.id ∧
        (d.prepare r.registry).size ≤ entry.2.node.node.index ∧
        entry.2.kind.isDerivedAttribute = true ∧ entry.2.dataModel = r.registry.modelOf? d := by
  refine ⟨_, (d.copied_builtWith r).tables_eq, fun entry hentry => ?_⟩
  obtain ⟨⟨c, i⟩, hc, hentry⟩ := List.mem_flatMap.1 hentry
  obtain ⟨hnode, hkind, hmodel⟩ := Derivation.of_mem_copyEntries hentry
  have hle : (d.prepare r.registry).size ≤ i := List.le_snd_of_mem_zipIdx hc
  refine ⟨congrArg NodePtr.document hnode, ?_, ?_, hmodel⟩
  · rw [hnode]
    exact hle
  · rw [hkind]
    exact Resolver.isDerivedAttribute_of_mem_copies_plan (List.fst_mem_of_mem_zipIdx hc)

end Document

/-- A snapshot with nothing out of date: every document was built under the registry from a document
with the property. -/
structure Snapshot.Current (ok : Document → Prop) (s : Snapshot) : Prop where
  /-- The workspace is consistent. -/
  workspace : s.workspace.Consistent
  /-- The index is faithful. -/
  index : s.index.Faithful
  /-- All documents have exports, in the order of the workspace. -/
  exports_keys : s.index.exports.keys = s.workspace.ids
  /-- All documents have container tables. -/
  locals_keys : s.index.locals.keys = s.workspace.ids
  /-- All documents were built. -/
  built : ∀ id ∈ s.workspace.ids, ∃ d r, ok d ∧ d.id = id ∧ r.registry = s.registry ∧
    (s.part id).reset = d.partWith r

namespace Snapshot.Current

variable {ok : Document → Prop} {s : Snapshot} (h : s.Current ok)
include h

/-- A document of the snapshot was built, and the index holds what the build found. -/
theorem of_get? {id : DocumentId} {d : Document} (hd : s.workspace.get? id = some d) :
    ∃ e r, ok e ∧ e.id = id ∧ r.registry = s.registry ∧
      d.resetReferences = (e.builtWith r).document.resetReferences ∧
      s.index.exportsOf id = (e.prepare s.registry).exports s.registry ∧
      s.index.locals? id = some (e.builtWith r).tables := by
  obtain ⟨e, r, hok, hid, hregistry, hpart⟩ := h.built id (Workspace.mem_ids_of_get? hd)
  have hdocument := congrArg Part.document hpart
  have hexports : s.index.exports.get? id = some ((e.prepare r.registry).exports r.registry) :=
    congrArg Part.exports hpart
  simp only [Part.reset, part, hd, Option.map_some, Document.partWith, Option.some.injEq]
    at hdocument
  refine ⟨e, r, hok, hid, hregistry, hdocument, ?_, congrArg Part.tables hpart⟩
  rw [Index.exportsOf, hexports, hregistry]
  rfl

/-- A document of the snapshot is found under its own number. -/
theorem get?_id {id : DocumentId} {d : Document} (hd : s.workspace.get? id = some d) :
    s.workspace.get? d.id = some d :=
  h.workspace.id_eq id d hd ▸ hd

/-- The documents of the snapshot have the property, if it lasts. -/
theorem all (hok : Document.Lasting ok) : s.workspace.All ok := by
  intro id d hd
  obtain ⟨e, r, he, -, -, hdocument, -, -⟩ := h.of_get? hd
  exact hok.congr _ _ hdocument (hok.builtWith e r he)

/-- A document of the snapshot has grown from what it was once it was prepared. -/
theorem grownTo_of_get? {id : DocumentId} {d : Document} (hd : s.workspace.get? id = some d) :
    ∃ e, ok e ∧ e.id = id ∧ (e.prepare s.registry).GrownTo d ∧
      s.index.exportsOf id = (e.prepare s.registry).exports s.registry := by
  obtain ⟨e, r, hok, hid, hregistry, hdocument, hexports, -⟩ := h.of_get? hd
  have hgrown := (e.grownTo_builtWith r).congr hdocument
  rw [hregistry] at hgrown
  exact ⟨e, hok, hid, hgrown, hexports⟩

/-- All exports, in the order of the workspace. -/
theorem all_eq : s.index.all = s.workspace.ids.flatMap s.index.exportsOf := by
  have hnodup : s.index.exports.keys.Nodup := h.index.nodup_exports
  rw [Index.all, Keyed.values, Keyed.entries_eq_of_get? hnodup, h.exports_keys, List.flatMap_def,
    List.map_filterMap, ← List.filterMap_eq_map]
  refine congrArg List.flatten ?_
  refine List.filterMap_congr fun id hid => ?_
  rw [← h.exports_keys] at hid
  obtain ⟨exported, hexported⟩ := Keyed.exists_get?_of_mem_keys hid
  simp [Index.exportsOf, hexported]

/-- What is exported for a document describes it, under its data model. -/
theorem of_mem_exportsOf {id : DocumentId} {d : Document} (hd : s.workspace.get? id = some d)
    {x : Description} (hx : x ∈ s.index.exportsOf id) :
    x.node.document = id ∧ x.dataModel = s.registry.modelOf? d := by
  obtain ⟨e, -, hid, hgrown, hexports⟩ := h.grownTo_of_get? hd
  rw [hexports] at hx
  refine ⟨(Document.node_document_of_mem_exports hx).trans hid, ?_⟩
  rw [hgrown.modelOf?]
  exact Document.dataModel_of_mem_exports hx

/-- Whatever is exported is exported for a document of the snapshot, which it describes. -/
theorem of_mem_all {x : Description} (hx : x ∈ s.index.all) :
    ∃ d, s.workspace.get? x.node.document = some d ∧ x ∈ s.index.exportsOf x.node.document ∧
      x.dataModel = s.registry.modelOf? d := by
  rw [h.all_eq] at hx
  obtain ⟨id, hid, hx⟩ := List.mem_flatMap.1 hx
  obtain ⟨d, hd⟩ := Workspace.exists_get?_of_mem_ids hid
  obtain ⟨hdocument, hmodel⟩ := h.of_mem_exportsOf hd hx
  rw [hdocument]
  exact ⟨d, hd, hx, hmodel⟩

/-- Container tables are held for a document of the snapshot, which they describe, under its data
model. -/
theorem of_locals? {id : DocumentId} {tables : LocalTables}
    (htables : s.index.locals? id = some tables) :
    ∃ d, s.workspace.get? id = some d ∧ ∀ entry ∈ tables.entries,
      entry.2.node.document = id ∧ entry.2.dataModel = s.registry.modelOf? d := by
  have hmem : id ∈ s.workspace.ids := by
    rw [← h.locals_keys]
    exact Keyed.mem_keys_of_get? htables
  obtain ⟨d, hd⟩ := Workspace.exists_get?_of_mem_ids hmem
  refine ⟨d, hd, fun entry hentry => ?_⟩
  obtain ⟨e, r, -, hid, hregistry, hdocument, -, hlocals⟩ := h.of_get? hd
  have hmodel : s.registry.modelOf? d = r.registry.modelOf? e := by
    rw [← hregistry]
    exact ((e.grownTo_builtWith r).congr hdocument).modelOf? r.registry
  obtain ⟨more, hmore, hmem⟩ := e.tables_builtWith r
  rw [hlocals] at htables
  rw [← Option.some.inj htables, hmore] at hentry
  rw [hmodel]
  rcases List.mem_append.1 hentry with hentry | hentry
  · have hwritten := Document.describesWritten_of_mem_localTables hentry
    simp only [Document.describesWritten, Bool.and_eq_true, decide_eq_true_eq] at hwritten
    have hmodel := Document.dataModel_of_mem_localTables hentry
    exact ⟨hwritten.1.trans hid, hmodel⟩
  · obtain ⟨hdocument, -, -, hmodel⟩ := hmem entry hentry
    exact ⟨hdocument.trans hid, hmodel⟩

end Snapshot.Current

/-- What is not out of date was built under the registry from a document with the property. -/
def Host.Built (ok : Document → Prop) (h : Host) : Prop :=
  ∀ id ∈ h.workspace.ids, id ∉ h.dirty → ∃ d r, ok d ∧ d.id = id ∧ r.registry = h.registry ∧
    (h.part id).reset = d.partWith r

/-- All documents that are open or were taken out have a property, and what is not out of date was
built from a document with it. -/
structure Session.Lasts (ok : Document → Prop) (s : Session) : Prop where
  /-- The open documents. -/
  workspace : s.host.workspace.All ok
  /-- The documents that were taken out. -/
  removed : ∀ d ∈ s.removed, ok d
  /-- What was built. -/
  built : s.host.Built ok

variable {ok : Document → Prop}

namespace Host

variable {h : Host} (hh : h.Consistent)
include hh

/-- After a rebuild everything was built. -/
theorem Built.rebuild (ha : h.workspace.All ok) (hb : h.Built ok) :
    ∀ id ∈ h.rebuild.workspace.ids, ∃ d r, ok d ∧ d.id = id ∧ r.registry = h.rebuild.registry ∧
      (h.rebuild.part id).reset = d.partWith r := by
  intro id hid
  rw [h.frame_rebuild.1] at hid
  rw [h.frame_rebuild.2.2.2]
  by_cases hdirty : id ∈ h.dirty
  · obtain ⟨e, he⟩ := Workspace.exists_get?_of_mem_ids hid
    have hregistry : (h.exportAll h.dirty).resolver.registry = h.registry :=
      Snapshot.registry_exportAll h.toSnapshot h.dirty
    refine ⟨e, (h.exportAll h.dirty).resolver, ha id e he, hh.workspace.id_eq id e he, hregistry,
      ?_⟩
    rw [part_rebuild_of_mem hh hdirty he, Snapshot.rebuilt_eq, Document.partWith, hregistry]
    simp [Part.reset]
  · rw [part_rebuild_of_notMem hh hdirty]
    exact hb id hid hdirty

end Host

namespace Session

/-- An action that sets no document without the property keeps it of all documents. -/
theorem lasts_step (hok : Document.Lasting ok) {s : Session} (hc : s.host.Consistent)
    (h : s.Lasts ok) {a : Action} (ha : a.Sets ok) : (s.step a).Lasts ok := by
  obtain ⟨hworkspace, hremoved⟩ := all_step hok hc h.workspace h.removed ha
  refine ⟨hworkspace, hremoved, fun id hid hclean => ?_⟩
  obtain ⟨hregistry, hcases⟩ := part_step hc a hid hclean
  rw [hregistry]
  rcases hcases with ⟨hold, hclean', hpart⟩ | ⟨hold, hpart⟩
  · rw [hpart]
    exact h.built id hold hclean'
  · rw [hpart, ← s.host.frame_rebuild.2.2.2]
    exact Host.Built.rebuild hc h.workspace h.built id hold

/-- Actions that set no document without the property keep it of all documents. -/
theorem lasts_run (hok : Document.Lasting ok) (registry : Registry) {actions : List Action}
    (hactions : ∀ a ∈ actions, a.Sets ok) : ((start registry).run actions).Lasts ok := by
  have hstart : (start registry).Lasts ok :=
    ⟨fun id d hd => (by cases hd), fun d hd => (by cases hd), fun id hid => (by cases hid)⟩
  exact (run_induction_of (P := fun s => s.host.Consistent ∧ s.Lasts ok)
    (fun s a ha h => ⟨consistent_step h.1 a, lasts_step hok h.1 h.2 ha⟩)
    ⟨Host.consistent_new registry, hstart⟩ hactions).2

/-- After a rebuild everything was built from a document with the property. -/
theorem current_rebuild (hok : Document.Lasting ok) (registry : Registry) {actions : List Action}
    (hactions : ∀ a ∈ actions, a.Sets ok) :
    ((start registry).run actions).host.rebuild.toSnapshot.Current ok := by
  have hc := consistent_run registry actions
  have h := lasts_run hok registry hactions
  have hids := ((start registry).run actions).host.frame_rebuild.1
  exact
    { workspace := hc.rebuild.workspace
      index := hc.rebuild.index
      exports_keys := hc.keys_rebuild.1.trans hids.symm
      locals_keys := hc.keys_rebuild.2.trans hids.symm
      built := Host.Built.rebuild hc h.workspace h.built }

/-- Whatever documents are set, after a rebuild everything was built. -/
theorem current_rebuild_of_run (registry : Registry) (actions : List Action) :
    ((start registry).run actions).host.rebuild.toSnapshot.Current fun _ => True :=
  current_rebuild Document.lasting_true registry fun _ _ _ _ => trivial

end Session

end ModelBinding
