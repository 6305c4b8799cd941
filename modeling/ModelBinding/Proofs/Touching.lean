import ModelBinding.Analysis
import ModelBinding.Proofs.Planned
import ModelBinding.Proofs.Renumber.Build

/-!
# Touching and rebuilding

What a rebuild makes of a document that is out of date does not depend on which other
documents are out of date with it: it is what a build of the whole snapshot makes of it
(`Host.Tended.part_rebuild_of_mem`), and such a build sees of earlier ones only what was
written (`Host.Tended.part_rebuild_overdue`). So a rebuild in between changes nothing
(`Host.Tended.rebuild_foldl_mark_rebuild`), and touches and rebuilds in any order come
down to one rebuild of all that was touched (`Session.run_refreshes`).
-/

namespace ModelBinding

namespace Document

variable {d e : Document}

/-- A prepared document follows from what was written, up to what references remember. -/
theorem resetReferences_prepare_congr (hd : d.asWritten.Plain)
    (hwritten : e.asWritten = d.asWritten) (hid : e.id = d.id) (r : Registry) :
    (e.prepare r).resetReferences = (d.prepare r).resetReferences := by
  have halike : Alike (fun i => i) (d.prepare r) (e.prepare r) := alike_prepare hd hwritten hid r
  rw [← outline_self (d.prepare r), halike]

/-- What references remembered before the document grew does not count. -/
theorem GrownTo.congr_left {d' : Document} (h : d.GrownTo e)
    (heq : d'.resetReferences = d.resetReferences) : d'.GrownTo e := by
  have hsize : d'.size = d.size := (alike_of_resetReferences_eq heq).size
  refine ⟨h.id_eq.trans (congrArg Document.id heq :).symm,
    h.uri_eq.trans (congrArg Document.uri heq :).symm,
    h.parsedLen_eq.trans (congrArg Document.parsedLen heq :).symm, fun n hn => ?_,
    fun n k hn => h.kind?_new n k (hsize ▸ hn)⟩
  obtain ⟨more, hmore, hnode⟩ := h.node?_old n (hsize ▸ hn)
  refine ⟨more, hsize ▸ hmore, hnode.trans ?_⟩
  have hsame := congrArg (fun o : Document => (o.node? n).map fun m =>
    { m with children := m.children ++ more }) heq
  simp only [node?_resetReferences, Option.map_map, Function.comp_def] at hsame
  exact hsame.symm

end Document

namespace Part

/-- Whether a document declares, or has declared, what may stand where a kind is asked for. -/
def concerns (p : Part) (r : Registry) (k : NodeKind) : Bool :=
  match p.document with
  | none => false
  | some d => ((d.prepare r).exports r ++ p.exports.getD []).any (·.kind.isSubtypeOf k)

/-- What references remember has no part in this. -/
theorem concerns_congr {p q : Part} (hq : q.reset = p.reset)
    (hp : ∀ d, p.document = some d → d.asWritten.Plain) (r : Registry) (k : NodeKind) :
    q.concerns r k = p.concerns r k := by
  have hdocument : q.document.map (·.resetReferences) = p.document.map (·.resetReferences) :=
    congrArg Part.document hq
  have hexports : q.exports = p.exports := (congrArg Part.exports hq :)
  unfold concerns
  cases hd : p.document with
  | none =>
    rw [hd, Option.map_none, Option.map_eq_none_iff] at hdocument
    rw [hdocument]
  | some d =>
    rw [hd, Option.map_some] at hdocument
    obtain ⟨e, he, heq⟩ := Option.map_eq_some_iff.1 hdocument
    have hsame := Document.exports_prepare_congr (hp d hd) (Document.asWritten_congr heq)
      (congrArg Document.id heq :) r
    simp only [he, hexports, hsame]

/-- Forgetting what references mean twice is forgetting it once. -/
@[simp] theorem reset_reset (p : Part) : p.reset.reset = p.reset := by
  simp [reset, Function.comp_def]

/-- Exporting lets nothing grow. -/
theorem GrownTo.refl (p : Part) : p.GrownTo p where
  exports := rfl
  tables := ⟨[], by cases p.tables <;> simp [LocalTables.append], by simp⟩
  document_none h := h
  document_some d hd := ⟨d, hd, .of_resetReferences_eq rfl⟩

/-- What was built has grown from what exporting it again leaves of it. -/
theorem grownTo_of_partWith {p : Part} {d e : Document} {r : Resolver} (hp : p.document = some d)
    (he : e.asWritten.Plain) (hid : e.id = d.id) (hbuilt : p.reset = e.partWith r) :
    (p.exported r.registry).GrownTo p := by
  have hdocument : d.resetReferences = (e.builtWith r).document.resetReferences := by
    have hdocument := congrArg Part.document hbuilt
    simpa [reset, hp, Document.partWith] using hdocument
  have hwritten : d.asWritten = e.asWritten :=
    (Document.asWritten_congr hdocument).trans
      (Document.asWritten_builtWith he.parsedLen_le_size r)
  have hprepared := Document.resetReferences_prepare_congr he hwritten hid.symm r.registry
  obtain ⟨more, hmore, hkinds⟩ := e.tables_builtWith r
  have hexported : p.exported r.registry = ⟨some (d.prepare r.registry),
      some ((d.prepare r.registry).exports r.registry),
      some ((d.prepare r.registry).localTables r.registry)⟩ := by
    simp only [exported, hp]
  have hexports : p.exports = some ((e.prepare r.registry).exports r.registry) :=
    congrArg Part.exports hbuilt
  have htables : p.tables = some (e.builtWith r).tables := congrArg Part.tables hbuilt
  rw [hexported]
  refine ⟨?_, ⟨more, ?_, fun entry hentry => (hkinds entry hentry).2.2.1⟩, fun hnone => ?_,
    fun d' hd' => ?_⟩
  · rw [hexports, Document.exports_prepare_congr he hwritten hid.symm]
  · rw [htables, hmore, Document.localTables_congr hprepared]
    rfl
  · cases hnone
  · cases hd'
    exact ⟨d, hp, ((e.grownTo_builtWith r).congr hdocument).congr_left hprepared⟩

end Part

namespace Snapshot

/-- An export forgets the answers that the document is concerned in. -/
theorem remembered_exportDocument (s : Snapshot) (id : DocumentId) :
    (s.exportDocument id).index.remembered.entries =
      s.index.remembered.entries.filter fun e => !(s.part id).concerns s.registry e.1 := by
  cases hd : s.workspace.get? id with
  | none => simp [exportDocument, hd, Part.concerns, part]
  | some d =>
    simp [exportDocument, hd, Part.concerns, part, Index.setExports, Index.setLocals,
      Index.forgetKinds, Index.exportsOf, Function.comp_def]

/-- Exports forget the answers that one of the documents is concerned in. -/
theorem remembered_foldl_exportDocument {l : List DocumentId} (hl : l.Nodup) (s : Snapshot) :
    (l.foldl exportDocument s).index.remembered.entries =
      s.index.remembered.entries.filter fun e =>
        l.all fun id => !(s.part id).concerns s.registry e.1 := by
  induction l generalizing s with
  | nil => simp
  | cons id l ih =>
    obtain ⟨hnot, hl'⟩ := List.nodup_cons.1 hl
    rw [List.foldl_cons, ih hl', remembered_exportDocument, List.filter_filter,
      registry_exportDocument]
    refine List.filter_congr fun e _ => ?_
    have hrest : (l.all fun j => !((s.exportDocument id).part j).concerns s.registry e.1) =
        l.all fun j => !(s.part j).concerns s.registry e.1 := by
      rw [Bool.eq_iff_iff, List.all_eq_true, List.all_eq_true]
      refine forall₂_congr fun j hj => ?_
      have hne : j ≠ id := fun heq => hnot (heq ▸ hj)
      rw [part_exportDocument, if_neg hne]
    rw [hrest, List.all_cons, Bool.and_comm]

/-- A build forgets the answers that one of the documents is concerned in. -/
theorem remembered_build {s : Snapshot} (hs : s.workspace.Consistent) {ids : List DocumentId}
    (hids : ∀ id ∈ ids, id ∈ s.workspace.ids) :
    (s.build ids).index.remembered.entries = s.index.remembered.entries.filter fun e =>
      ids.all fun id => !(s.part id).concerns s.registry e.1 := by
  have hderived :
      ((s.exportAll ids).plans ids |>.foldl applyPlan (s.exportAll ids)).index.remembered =
        (s.exportAll ids).index.remembered :=
    foldl_applyPlan_induction
      (P := fun t => t.index.remembered = (s.exportAll ids).index.remembered)
      (fun t p ht => by unfold applyPlan; split <;> exact ht) rfl _
  show Keyed.entries (Index.remembered (Snapshot.index (List.foldl _ _ _))) = _
  rw [hderived, exportAll, remembered_foldl_exportDocument (hs.nodup_ids.filter _)]
  refine List.filter_congr fun e _ => Bool.eq_iff_iff.2 ?_
  simp only [List.all_eq_true, List.mem_filter, List.contains_iff_mem]
  exact ⟨fun h id hid => h id ⟨hids id hid, hid⟩, fun h id hid => h id hid.2⟩

/-- A host that holds the snapshot, with all of it out of date. -/
def overdue (s : Snapshot) : Host := { s with dirty := s.workspace.ids }

end Snapshot

namespace Host

/-- A host whose documents authors wrote, and in which all that is not out of date was built. -/
structure Tended (h : Host) : Prop where
  /-- The host is consistent. -/
  consistent : h.Consistent
  /-- Every document is what was written with what builds added. -/
  authored : h.workspace.Authored
  /-- What is not out of date was built. -/
  built : h.Built fun d => d.asWritten.Plain

variable {h : Host}

/-- A rebuild makes all references forget what they mean. -/
theorem reset_part_rebuild (hdirty : h.isDirty = true) (id : DocumentId) :
    (h.rebuild.part id).reset = h.rebuild.part id := by
  have hreset : ∀ s : Snapshot, s.resetReferences.part id = (s.part id).reset := fun s =>
    congrArg (fun d => Part.mk d (s.index.exports.get? id) (s.index.locals? id))
      (Keyed.get?_mapValues s.workspace.documents (·.resetReferences) id)
  rw [rebuild_of_isDirty hdirty]
  show Part.reset (Snapshot.part (Snapshot.resetReferences _) id) = _
  rw [hreset, Part.reset_reset, ← hreset]
  rfl

/-- In a document that is not out of date a rebuild of others makes references forget. -/
theorem part_rebuild_of_isDirty (hh : h.Consistent) (hdirty : h.isDirty = true) {id : DocumentId}
    (hid : id ∉ h.dirty) : h.rebuild.part id = (h.part id).reset := by
  rw [← reset_part_rebuild hdirty, part_rebuild_of_notMem hh hid]

/-- A rebuild forgets the answers that a document is concerned in that is out of date. -/
theorem remembered_rebuild (hh : h.Consistent) :
    h.rebuild.index.remembered.entries = h.index.remembered.entries.filter fun e =>
      h.dirty.all fun id => !(h.part id).concerns h.registry e.1 := by
  cases hdirty : h.isDirty with
  | true =>
    rw [rebuild_of_isDirty hdirty]
    exact Snapshot.remembered_build hh.workspace hh.dirty_mem
  | false =>
    rw [rebuild_of_not_isDirty hdirty, (dirty_of_not_isDirty hdirty).1]
    simp

/-- A rebuild does not change whether documents may be built at the same time. -/
@[simp] theorem concurrent_rebuild (h : Host) : h.rebuild.concurrent = h.concurrent := by
  unfold rebuild
  split <;> rfl

/-- Marking documents does not change whether documents may be built at the same time. -/
@[simp] theorem concurrent_foldl_mark (l : List DocumentId) (h : Host) :
    (l.foldl mark h).concurrent = h.concurrent := by
  induction l generalizing h with
  | nil => rfl
  | cons id l ih =>
    rw [List.foldl_cons, ih]
    unfold mark
    split <;> rfl

/-- Rebuilt hosts with the same documents at the same addresses are the same if they hold the same
for every document and remember the same answers. -/
theorem rebuild_eq_rebuild {k : Host} (hh : h.Consistent) (hk : k.Consistent)
    (hframe : k.workspace.ids = h.workspace.ids ∧ k.workspace.byUri = h.workspace.byUri ∧
      k.workspace.nextId = h.workspace.nextId ∧ k.registry = h.registry)
    (hconcurrent : k.concurrent = h.concurrent)
    (hparts : ∀ id ∈ h.workspace.ids, k.rebuild.part id = h.rebuild.part id)
    (hremembered : k.rebuild.index.remembered.entries = h.rebuild.index.remembered.entries) :
    k.rebuild = h.rebuild := by
  obtain ⟨hids, hbyUri, hnextId, hregistry⟩ := h.frame_rebuild
  obtain ⟨hids', hbyUri', hnextId', hregistry'⟩ := k.frame_rebuild
  obtain ⟨hexports, hlocals⟩ := hh.keys_rebuild
  obtain ⟨hexports', hlocals'⟩ := hk.keys_rebuild
  have hext : ∀ {α : Type} {m m' : Keyed DocumentId α}, m.keys = h.workspace.ids →
      m'.keys = k.workspace.ids → (∀ id ∈ h.workspace.ids, m'.get? id = m.get? id) → m' = m := by
    intro α m m' hm hm' hget
    rw [hframe.1] at hm'
    have hnodup : m'.keys.Nodup := hm' ▸ hh.workspace.nodup_ids
    refine Keyed.ext_get? (hm'.trans hm.symm) hnodup fun id => ?_
    by_cases hid : id ∈ h.workspace.ids
    · exact hget id hid
    · rw [(Keyed.get?_eq_none_iff m' id).2 (hm' ▸ hid), (Keyed.get?_eq_none_iff m id).2 (hm ▸ hid)]
  have hworkspace : k.rebuild.workspace = h.rebuild.workspace := by
    have hdocuments := hext hids hids' fun id hid => congrArg Part.document (hparts id hid)
    have hmk : ∀ w : Workspace, w = ⟨w.documents, w.byUri, w.nextId⟩ := fun _ => rfl
    rw [hmk k.rebuild.workspace, hdocuments, hbyUri', hframe.2.1, ← hbyUri, hnextId',
      hframe.2.2.1, ← hnextId]
  have hindex : k.rebuild.index = h.rebuild.index := by
    have hmk : ∀ i : Index, i = ⟨i.exports, i.locals, i.remembered⟩ := fun _ => rfl
    rw [hmk k.rebuild.index,
      hext hexports hexports' fun id hid => congrArg Part.exports (hparts id hid),
      hext hlocals hlocals' fun id hid => congrArg Part.tables (hparts id hid),
      Keyed.eq_of_entries hremembered]
  have hclean := dirty_of_not_isDirty h.isDirty_rebuild
  have hclean' := dirty_of_not_isDirty k.isDirty_rebuild
  have hmk : ∀ h : Host, h = ⟨⟨h.workspace, h.index, h.registry⟩, h.dirty, h.referencesStale,
    h.concurrent⟩ := fun _ => rfl
  rw [hmk k.rebuild, hworkspace, hindex, hregistry', hframe.2.2.2, ← hregistry, hclean'.1,
    ← hclean.1, hclean'.2, ← hclean.2, concurrent_rebuild, hconcurrent, ← h.concurrent_rebuild]

/-- A host stays consistent when everything in it is put out of date. -/
theorem Consistent.overdue (hh : h.Consistent) : h.toSnapshot.overdue.Consistent :=
  ⟨hh.workspace, hh.index, hh.exports_prefix, hh.locals_keys, fun _ hid => hid,
    hh.workspace.nodup_ids, fun _ hid _ => hid⟩

namespace Tended

variable (ht : h.Tended)
include ht

/-- Putting documents out of date keeps a host tended. -/
theorem foldl_mark {l : List DocumentId} (hl : ∀ id ∈ l, id ∈ h.workspace.ids) :
    (l.foldl mark h).Tended := by
  have hsnapshot := toSnapshot_foldl_mark l h
  refine ⟨ht.consistent.foldl_mark hl, ?_, fun id hid hclean => ?_⟩
  · rw [hsnapshot]
    exact ht.authored
  · rw [hsnapshot] at hid ⊢
    exact ht.built id hid fun hmem => hclean (mem_dirty_foldl_mark.2 (Or.inl hmem))

/-- A rebuild keeps a host tended. -/
theorem rebuild : h.rebuild.Tended where
  consistent := ht.consistent.rebuild
  authored := all_rebuild ht.consistent Document.lasting_plain ht.authored
  built id hid _ := Built.rebuild ht.consistent ht.authored ht.built id hid

/-- Once what is out of date is exported, a snapshot has grown from what exporting all of it
gives. -/
theorem grownTo_exportAll : (h.exportAll h.workspace.ids).resolver.GrownTo
    (h.exportAll h.dirty).resolver := by
  have hh := ht.consistent
  have hkeys := Snapshot.keys_exportAll hh.workspace hh.exports_prefix hh.locals_keys
    hh.unexported_mem
  have hkeys' := @Snapshot.keys_exportAll _ hh.workspace h.workspace.ids hh.exports_prefix
    hh.locals_keys fun id hid _ => hid
  refine Snapshot.grownTo_resolver (by simp) (Snapshot.faithful_exportAll hh.index _)
    (Snapshot.faithful_exportAll hh.index _) (hkeys.1.trans hkeys'.1.symm) fun id => ?_
  rw [Snapshot.part_exportAll, Snapshot.part_exportAll]
  by_cases hid : id ∈ h.workspace.ids
  · by_cases hdirty : id ∈ h.dirty
    · rw [if_pos hid, if_pos hdirty]
      exact .refl _
    · obtain ⟨d, hd⟩ := Workspace.exists_get?_of_mem_ids hid
      obtain ⟨e, r, he, heid, hregistry, hpart⟩ := ht.built id hid hdirty
      rw [if_pos hid, if_neg hdirty, ← hregistry]
      exact Part.grownTo_of_partWith hd he (heid.trans (hh.workspace.id_eq id d hd).symm) hpart
  · rw [if_neg hid, if_neg fun hmem => hid (hh.dirty_mem id hmem)]
    exact .refl _

/-- What a rebuild makes of a document that is out of date, it makes of it when everything is. -/
theorem part_rebuild_of_mem {id : DocumentId} (hid : id ∈ h.dirty) :
    h.rebuild.part id = h.toSnapshot.overdue.rebuild.part id := by
  have hh := ht.consistent
  have hmem : id ∈ h.toSnapshot.overdue.dirty := hh.dirty_mem id hid
  obtain ⟨d, hd⟩ := Workspace.exists_get?_of_mem_ids hmem
  have hdid : (d.prepare h.registry).id = id := hh.workspace.id_eq id d hd
  have hdocument : (h.exportAll h.workspace.ids).workspace.get? id =
      some (d.prepare h.registry) := congrArg Part.document (Snapshot.part_exportAll_of_mem hmem hd)
  have hplan : (h.exportAll h.dirty).resolver.plan (d.prepare h.registry) =
      (h.exportAll h.workspace.ids).resolver.plan (d.prepare h.registry) :=
    ht.grownTo_exportAll.plan (by rw [hdid]; exact hdocument)
  have hrebuilt : h.rebuilt h.dirty d = h.rebuilt h.workspace.ids d := by
    rw [Snapshot.rebuilt, Snapshot.rebuilt, hplan]
  rw [Host.part_rebuild_of_mem hh hid hd, hrebuilt]
  exact (Host.part_rebuild_of_mem hh.overdue hmem hd).symm

/-- When everything is out of date a rebuild does not see what was built before. -/
theorem part_rebuild_overdue {id : DocumentId} (hid : id ∈ h.workspace.ids) :
    h.rebuild.toSnapshot.overdue.rebuild.part id = h.toSnapshot.overdue.rebuild.part id := by
  have hh := ht.consistent
  have halike : Host.Alike (fun i => i) h.toSnapshot.overdue h.rebuild.toSnapshot.overdue :=
    { injective := fun _ _ heq => heq
      left := hh.overdue
      right := hh.rebuild.overdue
      authored := ht.authored
      registry := h.frame_rebuild.2.2.2
      ids := h.frame_rebuild.1.trans (List.map_id' _).symm
      written := written_rebuild hh ht.authored
      left_dirty := fun _ hmem => hmem
      right_dirty := fun _ hmem => hmem }
  obtain ⟨d, hd⟩ := Workspace.exists_get?_of_mem_ids hid
  have hdocument : (fun d : Document => d.renumber fun i => i) = fun d => d := by
    funext d
    simp [Document.renumber, Node.renumber_self]
  have htables : (fun t : LocalTables => t.renumber fun i => i) = fun t => t :=
    funext LocalTables.renumber_self
  have hexports : (fun xs : List Description => xs.map (·.renumber fun i => i)) = fun xs => xs :=
    funext List.map_id'
  refine (halike.part_rebuild hd).trans ?_
  rw [hdocument, htables, hexports, Option.map_id', Option.map_id', Option.map_id']

/-- What a rebuild makes of documents once several are marked. -/
theorem part_rebuild_foldl_mark {l : List DocumentId} (hl : ∀ id ∈ l, id ∈ h.workspace.ids)
    (hne : l ≠ []) (id : DocumentId) : (l.foldl mark h).rebuild.part id =
      if id ∈ h.dirty ∨ id ∈ l then h.toSnapshot.overdue.rebuild.part id
      else (h.part id).reset := by
  have hmarked := ht.foldl_mark hl
  have hsnapshot := toSnapshot_foldl_mark l h
  obtain ⟨j, hj⟩ := List.exists_mem_of_ne_nil l hne
  have hdirty := isDirty_of_mem (mem_dirty_foldl_mark.2 (Or.inr hj) : j ∈ (l.foldl mark h).dirty)
  split
  · rw [hmarked.part_rebuild_of_mem (mem_dirty_foldl_mark.2 ‹_›), hsnapshot]
  · rw [part_rebuild_of_isDirty hmarked.consistent hdirty fun hmem =>
      ‹¬ _› (mem_dirty_foldl_mark.1 hmem), hsnapshot]

/-- In a document that is not out of date a rebuild leaves the same answers concerned. -/
theorem concerns_rebuild {id : DocumentId} (hid : id ∉ h.dirty) (k : NodeKind) :
    (h.rebuild.part id).concerns h.registry k = (h.part id).concerns h.registry k :=
  Part.concerns_congr (part_rebuild_of_notMem ht.consistent hid) (ht.authored id) h.registry k

/-- After a rebuild no document is concerned in an answer that it was not concerned in before. -/
theorem concerns_of_rebuild {id : DocumentId} {k : NodeKind}
    (hc : (h.rebuild.part id).concerns h.registry k = true) :
    (h.part id).concerns h.registry k = true := by
  by_cases hid : id ∈ h.dirty
  · obtain ⟨d, hd⟩ := Workspace.exists_get?_of_mem_ids (ht.consistent.dirty_mem id hid)
    have hplain := ht.authored id d hd
    have hbuilt : (h.rebuilt h.dirty d).document.resetReferences.id = d.id := by
      rw [Snapshot.rebuilt_eq]
      exact (d.grownTo_builtWith _).id_eq
    have hwritten : (h.rebuilt h.dirty d).document.resetReferences.asWritten = d.asWritten := by
      rw [Document.asWritten_resetReferences, Snapshot.rebuilt_eq,
        Document.asWritten_builtWith hplain.parsedLen_le_size]
    have hdocument : (h.part id).document = some d := hd
    rw [Host.part_rebuild_of_mem ht.consistent hid hd] at hc
    simp only [Part.concerns, Document.exports_prepare_congr hplain hwritten hbuilt,
      Option.getD_some, List.any_append, Bool.or_self] at hc
    simp only [Part.concerns, hdocument, List.any_append, hc, Bool.true_or]
  · exact ht.concerns_rebuild hid k ▸ hc

/-- Once several documents are marked, a rebuild forgets the answers that they or what was out of
date before are concerned in. -/
theorem remembered_rebuild_foldl_mark {l : List DocumentId} (hl : ∀ id ∈ l, id ∈ h.workspace.ids) :
    (l.foldl mark h).rebuild.index.remembered.entries =
      h.index.remembered.entries.filter fun e =>
        (h.dirty ++ l).all fun id => !(h.part id).concerns h.registry e.1 := by
  rw [Host.remembered_rebuild (ht.foldl_mark hl).consistent, toSnapshot_foldl_mark]
  refine List.filter_congr fun e _ => Bool.eq_iff_iff.2 ?_
  simp only [List.all_eq_true, mem_dirty_foldl_mark, List.mem_append]

/-- Which documents were marked counts, not in which order and how often. -/
theorem rebuild_foldl_mark_congr {l l' : List DocumentId} (hl : ∀ id ∈ l, id ∈ h.workspace.ids)
    (hsame : ∀ id, id ∈ l' ↔ id ∈ l) : (l'.foldl mark h).rebuild = (l.foldl mark h).rebuild := by
  have hl' : ∀ id ∈ l', id ∈ h.workspace.ids := fun id hid => hl id ((hsame id).1 hid)
  rcases eq_or_ne l [] with rfl | hne
  · rw [List.eq_nil_iff_forall_not_mem.2 fun id hid => List.not_mem_nil ((hsame id).1 hid)]
  · obtain ⟨j, hj⟩ := List.exists_mem_of_ne_nil l hne
    have hne' : l' ≠ [] := List.ne_nil_of_mem ((hsame j).2 hj)
    refine rebuild_eq_rebuild (ht.foldl_mark hl).consistent (ht.foldl_mark hl').consistent ?_
      (by simp) (fun id _ => ?_) ?_
    · rw [toSnapshot_foldl_mark, toSnapshot_foldl_mark]
      exact ⟨rfl, rfl, rfl, rfl⟩
    · simp only [ht.part_rebuild_foldl_mark hl hne, ht.part_rebuild_foldl_mark hl' hne', hsame]
    · rw [ht.remembered_rebuild_foldl_mark hl, ht.remembered_rebuild_foldl_mark hl']
      refine List.filter_congr fun e _ => Bool.eq_iff_iff.2 ?_
      simp only [List.all_eq_true, List.mem_append, hsame]

/-- A rebuild before documents are marked changes nothing about the rebuild after it. -/
theorem rebuild_foldl_mark_rebuild {l : List DocumentId} (hl : ∀ id ∈ l, id ∈ h.workspace.ids) :
    (l.foldl mark h.rebuild).rebuild = (l.foldl mark h).rebuild := by
  have hl' : ∀ id ∈ l, id ∈ h.rebuild.workspace.ids := by
    rw [h.frame_rebuild.1]
    exact hl
  have hnone : h.rebuild.dirty = [] := (dirty_of_not_isDirty h.isDirty_rebuild).1
  rcases eq_or_ne l [] with rfl | hne
  · exact h.rebuild_rebuild
  · refine rebuild_eq_rebuild (ht.foldl_mark hl).consistent (ht.rebuild.foldl_mark hl').consistent
      ?_ (by simp) (fun id hid => ?_) ?_
    · rw [toSnapshot_foldl_mark, toSnapshot_foldl_mark]
      exact h.frame_rebuild
    · rw [toSnapshot_foldl_mark] at hid
      rw [ht.part_rebuild_foldl_mark hl hne, ht.rebuild.part_rebuild_foldl_mark hl' hne, hnone,
        ht.part_rebuild_overdue hid]
      by_cases hmem : id ∈ l
      · rw [if_pos (Or.inr hmem), if_pos (Or.inr hmem)]
      · by_cases hdirty : id ∈ h.dirty
        · rw [if_neg (by simp [hmem]), if_pos (Or.inl hdirty),
            reset_part_rebuild (isDirty_of_mem hdirty), ht.part_rebuild_of_mem hdirty]
        · rw [if_neg (by simp [hmem]), if_neg (by simp [hmem, hdirty]),
            part_rebuild_of_notMem ht.consistent hdirty]
    · rw [ht.remembered_rebuild_foldl_mark hl, ht.rebuild.remembered_rebuild_foldl_mark hl', hnone,
        Host.remembered_rebuild ht.consistent, List.filter_filter, h.frame_rebuild.2.2.2]
      refine List.filter_congr fun e _ => Bool.eq_iff_iff.2 ?_
      simp only [Bool.and_eq_true, List.all_eq_true, List.mem_append, List.nil_append,
        Bool.not_eq_true']
      refine ⟨fun ⟨hmarked, hdirty⟩ id hid => ?_,
        fun hall => ⟨fun id hid => ?_, fun id hid => hall id (Or.inl hid)⟩⟩
      · by_cases hmem : id ∈ h.dirty
        · exact hdirty id hmem
        · rw [← ht.concerns_rebuild hmem]
          exact hmarked id (hid.resolve_left hmem)
      · have hbefore := hall id (Or.inr hid)
        rw [Bool.eq_false_iff] at hbefore ⊢
        exact fun hc => hbefore (ht.concerns_of_rebuild hc)

end Tended

end Host

/-- Whether an action only puts a document out of date or brings everything up to date. -/
def Action.Refreshes : Action → Prop
  | .touch _ => True
  | .rebuild => True
  | _ => False

/-- The document that an action puts out of date by touching it. -/
def Workspace.touched? (w : Workspace) : Action → Option DocumentId
  | .touch uri => w.idOf? uri
  | _ => none

namespace Session

/-- The known documents that a sequence of actions touches. -/
def touched (s : Session) (actions : List Action) : List DocumentId :=
  actions.filterMap s.host.workspace.touched?

/-- What is touched is there. -/
theorem mem_ids_of_mem_touched {s : Session} (hc : s.host.Consistent) {actions : List Action}
    {id : DocumentId} (hid : id ∈ s.touched actions) : id ∈ s.host.workspace.ids := by
  obtain ⟨a, -, ha⟩ := List.mem_filterMap.1 hid
  cases a with
  | touch uri =>
    obtain ⟨d, hd, -, -⟩ := hc.workspace.exists_of_idOf? ha
    exact Workspace.mem_ids_of_get? hd
  | _ => cases ha

/-- Which documents actions touch depends on the addresses alone. -/
theorem touched_congr {s t : Session} (h : t.host.workspace.byUri = s.host.workspace.byUri)
    (actions : List Action) : t.touched actions = s.touched actions := by
  refine List.filterMap_congr fun a _ => ?_
  cases a with
  | touch uri => exact congrArg (Keyed.get? · uri) h
  | _ => rfl

/-- Touches and rebuilds with a rebuild at the end are one rebuild once all that is touched has been
marked. -/
theorem run_refreshes {actions : List Action} (hactions : ∀ a ∈ actions, a.Refreshes) {s : Session}
    (ht : s.host.Tended) : s.run (actions ++ [.rebuild]) =
      s.withHost ((s.touched actions).foldl Host.mark s.host).rebuild := by
  induction actions generalizing s with
  | nil => rfl
  | cons a actions ih =>
    obtain ⟨ha, hrest⟩ := List.forall_mem_cons.1 hactions
    cases a with
    | touch uri =>
      rw [List.cons_append, run_cons]
      cases hid : s.host.workspace.idOf? uri with
      | none =>
        have hstep : s.step (.touch uri) = s := by
          simp only [step, Host.touchDocument, hid]
          rfl
        have htouched : s.touched (.touch uri :: actions) = s.touched actions :=
          List.filterMap_cons_none hid
        rw [hstep, htouched, ih hrest ht]
      | some id =>
        have hstep : s.step (.touch uri) = s.withHost (s.host.mark id) := by
          simp only [step, Host.touchDocument, hid]
        have htouched : s.touched (.touch uri :: actions) = id :: s.touched actions :=
          List.filterMap_cons_some hid
        have hmem : id ∈ s.host.workspace.ids := by
          refine mem_ids_of_mem_touched ht.consistent (?_ : id ∈ s.touched (.touch uri :: actions))
          rw [htouched]
          exact List.mem_cons_self ..
        have hmarked : (s.host.mark id).Tended := ht.foldl_mark (l := [id]) (by simpa using hmem)
        have hbyUri : (s.withHost (s.host.mark id)).host.workspace.byUri =
            s.host.workspace.byUri :=
          congrArg (·.workspace.byUri) (Host.toSnapshot_mark s.host id)
        rw [hstep, htouched, ih hrest hmarked, touched_congr hbyUri]
        rfl
    | rebuild =>
      have hbyUri : (s.step .rebuild).host.workspace.byUri = s.host.workspace.byUri :=
        s.host.frame_rebuild.2.1
      have hmem : ∀ id ∈ s.touched actions, id ∈ s.host.workspace.ids :=
        fun id => mem_ids_of_mem_touched ht.consistent
      rw [List.cons_append, run_cons, ih hrest ht.rebuild, touched_congr hbyUri]
      exact congrArg s.withHost (ht.rebuild_foldl_mark_rebuild hmem)
    | _ => exact absurd ha id

/-- The hosts of sessions in which documents are set that authors wrote are tended. -/
theorem tended_run (registry : Registry) {actions : List Action}
    (hactions : ∀ a ∈ actions, a.Sets fun d => d.asWritten.Plain) :
    ((start registry).run actions).host.Tended := by
  have hlasts := lasts_run Document.lasting_plain registry hactions
  exact ⟨consistent_run registry actions, hlasts.workspace, hlasts.built⟩

/-- Touches and rebuilds in any order, ending in a rebuild, lead to the same state whenever they
touch the same known documents; if they touch any, no reference remembers what it means. -/
theorem run_refreshes_congr (registry : Registry) {actions : List Action}
    (hactions : ∀ a ∈ actions, a.Sets fun d => d.asWritten.Plain) {s : Session}
    (hs : s = (start registry).run actions) {first second : List Action}
    (hfirst : ∀ a ∈ first, a.Refreshes) (hsecond : ∀ a ∈ second, a.Refreshes)
    (hsame : ∀ id, id ∈ s.touched first ↔ id ∈ s.touched second) :
    s.run (first ++ [.rebuild]) = s.run (second ++ [.rebuild]) ∧
      (s.touched first ≠ [] →
        ∀ d ∈ (s.run (first ++ [.rebuild])).host.workspace.list, d.resetReferences = d) := by
  have ht : s.host.Tended := hs ▸ tended_run registry hactions
  have hmem : ∀ id ∈ s.touched second, id ∈ s.host.workspace.ids :=
    fun id => mem_ids_of_mem_touched ht.consistent
  refine ⟨?_, fun hne d hd => ?_⟩
  · rw [run_refreshes hfirst ht, run_refreshes hsecond ht, ht.rebuild_foldl_mark_congr hmem hsame]
  · rw [run_refreshes hfirst ht] at hd
    obtain ⟨j, hj⟩ := List.exists_mem_of_ne_nil _ hne
    have hdirty := Host.isDirty_of_mem
      (Host.mem_dirty_foldl_mark.2 (Or.inr hj) : j ∈ ((s.touched first).foldl _ s.host).dirty)
    have hmarked : ((s.touched first).foldl Host.mark s.host).Consistent :=
      (ht.foldl_mark fun id hid => hmem id ((hsame id).1 hid)).consistent
    obtain ⟨id, hget⟩ := (Keyed.mem_values_iff hmarked.rebuild.workspace.nodup_ids).1 hd
    have hreset := congrArg Part.document (Host.reset_part_rebuild hdirty id)
    have hsome : (Host.rebuild ((s.touched first).foldl Host.mark s.host)).workspace.get? id =
        some d := hget
    simpa [Part.reset, Snapshot.part, hsome] using hreset

/-- A session with nothing out of date in which an entity got a second attribute after a document
that views it was built. -/
def aged : Session :=
  (start { models := [{ id := ⟨"core"⟩, referenceName := "core", root := "file:///core" }] }).run
    [.set (.ofDrafts "file:///core/a.cm"
        [(.root, { kind := .logicalEntity, id := some "Party" }),
          (⟨1⟩, { kind := .logicalAttribute, id := some "Name" })]),
      .set (.ofDrafts "file:///core/b.cm"
        [(.root, { kind := .mapping, id := some "Load" }),
          (⟨1⟩, { kind := .targetObject, id := some "T", references := [(.entity, "Party")] })]),
      .rebuild,
      .set (.ofDrafts "file:///core/a.cm"
        [(.root, { kind := .logicalEntity, id := some "Party" }),
          (⟨1⟩, { kind := .logicalAttribute, id := some "Name" }),
          (⟨1⟩, { kind := .logicalAttribute, id := some "Age" })]),
      .rebuild]

/-- It is reachable. -/
theorem reachable_aged : aged.Reachable := by
  refine ⟨_, _, fun a ha => ?_, rfl⟩
  simp only [List.mem_cons, List.not_mem_nil, or_false] at ha
  rcases ha with rfl | rfl | rfl | rfl | rfl
  · exact drafted_ofDrafts (by decide)
  · exact drafted_ofDrafts (by decide)
  · trivial
  · exact drafted_ofDrafts (by decide)
  · trivial

/-- Whether its documents are touched together, or apart and one of them again, the view then shows
the second attribute too. -/
theorem run_refreshes_congr_aged :
    aged.host.isDirty = false ∧
      aged.host.toSnapshot.derivedAttributes ⟨⟨1⟩, ⟨2⟩⟩ = [⟨⟨1⟩, ⟨3⟩⟩] ∧
      (aged.run ([.touch "file:///core/b.cm", .rebuild, .touch "file:///core/c.cm",
          .touch "file:///core/a.cm", .rebuild, .touch "file:///core/b.cm"] ++
            [.rebuild])).host.toSnapshot.derivedAttributes ⟨⟨1⟩, ⟨2⟩⟩ =
        [⟨⟨1⟩, ⟨3⟩⟩, ⟨⟨1⟩, ⟨4⟩⟩] := by
  have hfirst : ∀ a ∈ [.touch "file:///core/b.cm", .rebuild, .touch "file:///core/c.cm",
      .touch "file:///core/a.cm", .rebuild, .touch "file:///core/b.cm"], Action.Refreshes a := by
    simp [Action.Refreshes]
  have hsecond : ∀ a ∈ [.touch "file:///core/a.cm", .touch "file:///core/b.cm"],
      Action.Refreshes a := by
    simp [Action.Refreshes]
  have htouched : aged.touched [.touch "file:///core/b.cm", .rebuild, .touch "file:///core/c.cm",
        .touch "file:///core/a.cm", .rebuild, .touch "file:///core/b.cm"] = [⟨1⟩, ⟨0⟩, ⟨1⟩] ∧
      aged.touched [.touch "file:///core/a.cm", .touch "file:///core/b.cm"] = [⟨0⟩, ⟨1⟩] := by
    decide +kernel
  obtain ⟨registry, actions, hsound, hrun⟩ := reachable_aged
  have hsame := (run_refreshes_congr registry (fun a ha => (hsound a ha).sets_plain) hrun hfirst
    hsecond (by rw [htouched.1, htouched.2]; grind)).1
  refine ⟨by decide +kernel, by decide +kernel, ?_⟩
  rw [hsame]
  decide +kernel

end Session

end ModelBinding
