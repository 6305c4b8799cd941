import ModelBinding.Proofs.Origin

/-!
# Fresh exports and tables

Of every document that is not out of date the index holds what its author wrote makes of
it under the current registry, and derived entries behind that (`Part.UpToDate`). A
rebuild brings this about for the documents that are out of date and leaves the others
alone, so afterwards it holds of all (`exports_current_rebuild`).
-/

namespace ModelBinding

/-- Whether a description is of a node that the author of the document wrote. -/
def Document.describesWritten (d : Document) (e : Description) : Bool :=
  e.node.document = d.id && !d.isDerived e.node.node

/-- An entry that a build adds to the tables of a document. -/
structure Document.DerivedEntry (d : Document) (r : Registry) (e : Description) : Prop where
  /-- It describes a node of the document. -/
  document_eq : e.node.document = d.id
  /-- The node is derived. -/
  derived : d.isDerived e.node.node = true
  /-- It belongs to the data model of the document. -/
  dataModel_eq : e.dataModel = r.modelOf? d
  /-- It is in Local form. -/
  form_eq : e.form = .localForm

/-- The index holds for a document what is written in it, and derived entries behind that. -/
structure Part.UpToDate (p : Part) (r : Registry) (d : Document) : Prop where
  /-- The exports are those of the written nodes under the registry. -/
  exports_eq : p.exports = some ((d.prepare r).exports r)
  /-- The tables are those of the written nodes, with derived entries at the end. -/
  tables_eq : ∃ more, p.tables = some ((d.localTables r).append more) ∧
    ∀ entry ∈ more, d.DerivedEntry r entry.2

/-- What is not out of date is up to date. -/
def Host.Fresh (h : Host) : Prop :=
  ∀ id d, id ∉ h.dirty → h.workspace.get? id = some d → (h.part id).UpToDate h.registry d

namespace Document

variable {d e : Document}

/-- Exports do not depend on what references remember, nor on what earlier builds added. -/
theorem exports_prepare_congr (hd : d.asWritten.Plain) (hwritten : e.asWritten = d.asWritten)
    (hid : e.id = d.id) (r : Registry) : (e.prepare r).exports r = (d.prepare r).exports r := by
  have halike := alike_prepare (f := fun i => i) hd hwritten hid r
  rw [halike.exports, show (fun e : Description => e.renumber fun i => i) = fun e => e from rfl,
    List.map_id']

/-- Container tables do not depend on what references remember. -/
theorem localTables_congr (h : e.resetReferences = d.resetReferences) (r : Registry) :
    e.localTables r = d.localTables r := by
  rw [(alike_of_resetReferences_eq h).localTables, LocalTables.renumber_self]

/-- A document exports the nodes of its walk that remember a Global ID and have a Local ID, under
both. -/
theorem mem_exports_iff {r : Registry} {x : Description} :
    x ∈ d.exports r ↔ ∃ n ∈ d.walk, ∃ node g l, d.node? n = some node ∧
      node.globalId = some g ∧ d.localId? n = some l ∧
      (x = d.describe (r.modelOf? d) n node.kind l .localForm ∨
        x = d.describe (r.modelOf? d) n node.kind g .globalForm) := by
  rw [exports, List.mem_flatMap]
  refine exists_congr fun n => and_congr_right fun _ => ?_
  unfold exportEntries
  cases d.node? n with
  | none => simp
  | some node =>
    cases hg : node.globalId with
    | none => simp [hg]
    | some g => cases d.localId? n <;> simp [hg]

/-- All exports are of the data model that owns the document. -/
theorem dataModel_of_mem_exports {r : Registry} {x : Description} (h : x ∈ d.exports r) :
    x.dataModel = r.modelOf? d := by
  obtain ⟨n, -, node, g, l, -, -, -, rfl | rfl⟩ := mem_exports_iff.1 h <;> rfl

/-- All entries of the tables describe written nodes. -/
theorem describesWritten_of_mem_localTables {r : Registry} {entry : NodeId × Description}
    (h : entry ∈ (d.localTables r).entries) : d.describesWritten entry.2 = true := by
  obtain ⟨n, hn, hentry⟩ := List.mem_flatMap.1 h
  have hwritten : (!d.isDerived n) = true := (List.mem_filter.1 hn).2
  have hdescribe : ∀ model kind name form,
      d.describesWritten (d.describe model n kind name form) = true := by
    intro model kind name form
    simpa [describesWritten, describe, ptr] using hwritten
  unfold tableEntries at hentry
  split at hentry
  · rename_i node container name _ _ _
    rcases List.mem_cons.1 hentry with rfl | hentry
    · exact hdescribe _ _ _ _
    · obtain ⟨g, -, rfl⟩ := Option.map_eq_some_iff.1 (Option.mem_toList.1 hentry)
      exact hdescribe _ _ _ _
  · cases hentry

/-- All entries of the tables are of the data model that owns the document. -/
theorem dataModel_of_mem_localTables {r : Registry} {entry : NodeId × Description}
    (h : entry ∈ (d.localTables r).entries) : entry.2.dataModel = r.modelOf? d := by
  obtain ⟨n, -, hentry⟩ := List.mem_flatMap.1 h
  unfold tableEntries at hentry
  split at hentry
  · rcases List.mem_cons.1 hentry with rfl | hentry
    · rfl
    · obtain ⟨g, -, rfl⟩ := Option.map_eq_some_iff.1 (Option.mem_toList.1 hentry)
      rfl
  · cases hentry

/-- Every entry stands in the table of the container of the node that it describes. -/
theorem parent?_of_mem_localTables {r : Registry} {entry : NodeId × Description}
    (h : entry ∈ (d.localTables r).entries) : d.parent? entry.2.node.node = some entry.1 := by
  obtain ⟨n, -, hentry⟩ := List.mem_flatMap.1 h
  unfold tableEntries at hentry
  split at hentry
  · rename_i node container name _ hparent _
    rcases List.mem_cons.1 hentry with rfl | hentry
    · exact hparent
    · obtain ⟨g, -, rfl⟩ := Option.map_eq_some_iff.1 (Option.mem_toList.1 hentry)
      exact hparent
  · cases hentry

/-- Without the derived entries the tables are those of the written nodes. -/
theorem filter_table_append {r : Registry} {more : List (NodeId × Description)}
    (hmore : ∀ entry ∈ more, d.DerivedEntry r entry.2) (c : NodeId) :
    (((d.localTables r).append more).table c).filter d.describesWritten =
      (d.localTables r).table c := by
  have hwritten : ((d.localTables r).table c).filter d.describesWritten =
      (d.localTables r).table c := by
    refine List.filter_eq_self.2 fun e he => ?_
    obtain ⟨entry, hentry, rfl⟩ := List.mem_map.1 he
    exact describesWritten_of_mem_localTables (List.mem_filter.1 hentry).1
  have hderived : ((LocalTables.mk more).table c).filter d.describesWritten = [] := by
    refine List.filter_eq_nil_iff.2 fun e he => ?_
    obtain ⟨entry, hentry, rfl⟩ := List.mem_map.1 he
    have hd := (hmore entry (List.mem_filter.1 hentry).1).derived
    simp [describesWritten, hd]
  rw [LocalTables.table_append, List.filter_append, hwritten, hderived, List.append_nil]

end Document

namespace Part.UpToDate

variable {p : Part} {r : Registry} {d e : Document}

/-- Forgetting or remembering what references mean puts nothing out of date. -/
theorem congr (h : p.UpToDate r d) (hd : d.asWritten.Plain)
    (heq : e.resetReferences = d.resetReferences) {p' : Part} (hexports : p'.exports = p.exports)
    (htables : p'.tables = p.tables) : p'.UpToDate r e where
  exports_eq := by
    have hid : e.id = d.id := (congrArg Document.id heq :)
    rw [hexports, h.exports_eq,
      Document.exports_prepare_congr hd (Document.asWritten_congr heq) hid]
  tables_eq := by
    obtain ⟨more, hmore, hentries⟩ := h.tables_eq
    have hid : e.id = d.id := (congrArg Document.id heq :)
    have huri : e.uri = d.uri := (congrArg Document.uri heq :)
    have hlen : e.parsedLen = d.parsedLen := (congrArg Document.parsedLen heq :)
    refine ⟨more, ?_, fun entry hentry => ?_⟩
    · rw [htables, hmore, Document.localTables_congr heq]
    · obtain ⟨hdocument, hderived, hmodel, hform⟩ := hentries entry hentry
      refine ⟨hdocument.trans hid.symm, ?_, ?_, hform⟩
      · rw [Document.isDerived, hlen]
        exact hderived
      · rw [Registry.modelOf?, huri]
        exact hmodel

end Part.UpToDate

/-- What a build has made of a document is up to date. -/
theorem Snapshot.upToDate_rebuilt {d : Document} (hd : d.asWritten.Plain) (s : Snapshot)
    (ids : List DocumentId) :
    Part.UpToDate ⟨some (s.rebuilt ids d).document.resetReferences,
      some ((d.prepare s.registry).exports s.registry), some (s.rebuilt ids d).tables⟩ s.registry
      (s.rebuilt ids d).document.resetReferences := by
  have hprepared : (d.prepare s.registry).asWritten.Plain := by
    rw [Document.asWritten_prepare]
    exact hd
  have hgrown := Derivation.grownFrom_apply s.registry
    ((s.exportAll ids).resolver.plan (d.prepare s.registry)) hprepared.parsedLen_le_size
    ((d.prepare s.registry).localTables s.registry)
  refine ⟨?_, ?_⟩
  · have hid : (s.rebuilt ids d).document.resetReferences.id = d.id := hgrown.id_eq
    refine congrArg some (Document.exports_prepare_congr hd ?_ hid s.registry).symm
    rw [Document.asWritten_resetReferences, rebuilt_eq,
      Document.asWritten_builtWith hd.parsedLen_le_size]
  · have htables : (s.rebuilt ids d).document.resetReferences.localTables s.registry =
        (d.prepare s.registry).localTables s.registry := by
      rw [Document.localTables_congr (Document.resetReferences_resetReferences _),
        ← Document.localTables_dropDerived, rebuilt, hgrown.dropDerived_eq,
        Document.localTables_dropDerived]
    obtain ⟨more, hmore, hentries⟩ := hgrown.tables_eq
    refine ⟨more, congrArg some (hmore.trans (by rw [htables])), fun entry hentry => ?_⟩
    obtain ⟨hdocument, hindex, hmodel, huri, hform⟩ := hentries entry hentry
    refine ⟨hdocument.trans hgrown.id_eq.symm, ?_, ?_, hform⟩
    · have hle := hprepared.parsedLen_le_size
      have hlen : (s.rebuilt ids d).document.resetReferences.parsedLen =
          (d.prepare s.registry).parsedLen := hgrown.parsedLen_eq
      rw [Document.isDerived, hlen]
      exact decide_eq_true (Nat.le_trans hle hindex)
    · have huri' : (s.rebuilt ids d).document.resetReferences.uri = (d.prepare s.registry).uri :=
        hgrown.uri_eq
      rw [hmodel, Registry.modelOf?, Registry.modelOf?, huri']

/-- Where parts differ at most in what references remember, the same is up to date. -/
theorem Snapshot.upToDate_of_reset_eq {s t : Snapshot} {id : DocumentId}
    (hpart : (t.part id).reset = (s.part id).reset) {r : Registry}
    (hs : ∀ e, s.workspace.get? id = some e → e.asWritten.Plain ∧ (s.part id).UpToDate r e)
    {d : Document} (hd : t.workspace.get? id = some d) : (t.part id).UpToDate r d := by
  obtain ⟨e, he, heq⟩ := exists_get?_of_reset_eq hpart hd
  obtain ⟨hplain, hupToDate⟩ := hs e he
  exact hupToDate.congr hplain heq (congrArg Part.exports hpart :) (congrArg Part.tables hpart :)

namespace Host

variable {h : Host}

/-- After a rebuild all documents are up to date. -/
theorem upToDate_rebuild (hh : h.Consistent) (ha : h.workspace.Authored) (hf : h.Fresh)
    {id : DocumentId} {d : Document} (hd : h.rebuild.workspace.get? id = some d) :
    (h.rebuild.part id).UpToDate h.rebuild.registry d := by
  rw [h.frame_rebuild.2.2.2]
  by_cases hid : id ∈ h.dirty
  · obtain ⟨e, he⟩ := Workspace.exists_get?_of_mem_ids (hh.dirty_mem id hid)
    have hpart := part_rebuild_of_mem hh hid he
    have hdocument : h.rebuild.workspace.get? id =
        some (h.rebuilt h.dirty e).document.resetReferences := congrArg Part.document hpart
    rw [hdocument] at hd
    cases hd
    rw [hpart]
    exact Snapshot.upToDate_rebuilt (ha id e he) h.toSnapshot h.dirty
  · exact Snapshot.upToDate_of_reset_eq (part_rebuild_of_notMem hh hid)
      (fun e he => ⟨ha id e he, hf id e hid he⟩) hd

end Host

namespace Session

/-- A sound action leaves the host fresh. -/
theorem fresh_step {s : Session} {a : Action} (hc : s.host.Consistent) (ha : s.Authored)
    (h : s.host.Fresh) : (s.step a).host.Fresh := by
  intro id d hid hd
  obtain ⟨hregistry, hcases⟩ := part_step hc a (Workspace.mem_ids_of_get? hd) hid
  rw [hregistry]
  rcases hcases with ⟨-, hclean, hpart⟩ | ⟨-, hpart⟩
  · exact Snapshot.upToDate_of_reset_eq hpart
      (fun e he => ⟨ha.workspace id e he, h id e hclean he⟩) hd
  · have hrebuilt := Host.all_rebuild hc Document.lasting_plain ha.workspace
    rw [← s.host.frame_rebuild.2.2.2]
    exact Snapshot.upToDate_of_reset_eq hpart
      (fun e he => ⟨hrebuilt id e he, Host.upToDate_rebuild hc ha.workspace h he⟩) hd

/-- Reachable sessions are consistent and authored, and what is not out of date in them is up to
date. -/
theorem Reachable.fresh {s : Session} (hs : s.Reachable) :
    s.host.Consistent ∧ s.Authored ∧ s.host.Fresh :=
  reachable_induction (P := fun s => s.host.Fresh) (fun _ _ _ _ hd => (by cases hd))
    (fun _ _ hc ha _ h => fresh_step hc ha h) hs

/-- After a rebuild the exports list all documents in the order of the workspace, those of each
document are what its written nodes export under the registry, and its tables hold of written nodes
what is computed for it; the rebuild has left everything else alone. -/
theorem exports_current_rebuild {s : Session} (hs : s.Reachable) :
    s.host.rebuild.index.exports.keys = s.host.rebuild.workspace.ids ∧
      (∀ id d, s.host.rebuild.workspace.get? id = some d →
        s.host.rebuild.index.exports.get? id =
            some ((d.prepare s.host.rebuild.registry).exports s.host.rebuild.registry) ∧
          ∃ tables, s.host.rebuild.index.locals? id = some tables ∧
            ∀ c, (tables.table c).filter d.describesWritten =
              (d.localTables s.host.rebuild.registry).table c) ∧
      ∀ id, id ∉ s.host.dirty →
        (s.host.rebuild.workspace.get? id).map (·.resetReferences) =
            (s.host.workspace.get? id).map (·.resetReferences) ∧
          s.host.rebuild.index.exports.get? id = s.host.index.exports.get? id ∧
          s.host.rebuild.index.locals? id = s.host.index.locals? id := by
  obtain ⟨hc, ha, hf⟩ := hs.fresh
  refine ⟨?_, fun id d hd => ?_, fun id hid => ?_⟩
  · rw [hc.keys_rebuild.1, s.host.frame_rebuild.1]
  · have hupToDate := Host.upToDate_rebuild hc ha.workspace hf hd
    refine ⟨hupToDate.exports_eq, ?_⟩
    obtain ⟨more, htables, hmore⟩ := hupToDate.tables_eq
    exact ⟨_, htables, Document.filter_table_append hmore⟩
  · have hpart := Host.part_rebuild_of_notMem hc hid
    exact ⟨congrArg Part.document hpart, congrArg Part.exports hpart, congrArg Part.tables hpart⟩

/-- A document that was put back is listed last, under its new number. -/
theorem exports_current_rebuild_restored :
    restored.Reachable ∧ restored.host.rebuild.index.exports.keys = [⟨1⟩, ⟨2⟩] := by
  refine ⟨reachable_restored, ?_⟩
  rw [(exports_current_rebuild reachable_restored).1]
  decide +kernel

end Session

end ModelBinding
