import ModelBinding.Proofs.Build
import ModelBinding.Proofs.Link
import ModelBinding.Session

/-!
# Consistent hosts

Whatever a session does to its host, the documents that have exports come first in the
workspace, in its order, and all others are out of date; so a rebuild makes the exports
list all documents in order (`Host.Consistent.keys_rebuild`). No property of the
documents themselves is needed for this.
-/

namespace ModelBinding

/-- The index and the list of what is out of date belong to the documents. -/
structure Host.Consistent (h : Host) : Prop where
  /-- The workspace is consistent. -/
  workspace : h.workspace.Consistent
  /-- The index is faithful. -/
  index : h.index.Faithful
  /-- Documents with exports come first, in the order of the workspace. -/
  exports_prefix : h.index.exports.keys <+: h.workspace.ids
  /-- They are the documents with container tables. -/
  locals_keys : h.index.locals.keys = h.index.exports.keys
  /-- What is out of date is there. -/
  dirty_mem : ∀ id ∈ h.dirty, id ∈ h.workspace.ids
  /-- Nothing is out of date twice. -/
  nodup_dirty : h.dirty.Nodup
  /-- Documents without exports are out of date. -/
  unexported_mem : ∀ id ∈ h.workspace.ids, id ∉ h.index.exports.keys → id ∈ h.dirty

namespace Host

/-- Marking concerns only what is out of date. -/
@[simp] theorem toSnapshot_mark (h : Host) (id : DocumentId) :
    (h.mark id).toSnapshot = h.toSnapshot := by
  unfold mark
  split <;> rfl

/-- Marking several documents concerns only what is out of date. -/
@[simp] theorem toSnapshot_foldl_mark (ids : List DocumentId) (h : Host) :
    (ids.foldl mark h).toSnapshot = h.toSnapshot := by
  induction ids generalizing h with
  | nil => rfl
  | cons id ids ih => rw [List.foldl_cons, ih, toSnapshot_mark]

/-- Marking several documents keeps what was marked and adds them. -/
theorem mem_dirty_foldl_mark {ids : List DocumentId} {h : Host} {j : DocumentId} :
    j ∈ (ids.foldl mark h).dirty ↔ j ∈ h.dirty ∨ j ∈ ids := by
  induction ids generalizing h with
  | nil => simp
  | cons id ids ih => rw [List.foldl_cons, ih, mem_dirty_mark, List.mem_cons, or_assoc]

/-- Marking marks nothing twice. -/
theorem nodup_dirty_mark {h : Host} (hnodup : h.dirty.Nodup) (id : DocumentId) :
    (h.mark id).dirty.Nodup := by
  unfold mark
  split
  · exact hnodup
  · rename_i hnot
    refine List.nodup_append.2 ⟨hnodup, List.nodup_singleton id, fun i hi j hj heq => ?_⟩
    exact hnot (List.mem_singleton.1 hj ▸ heq ▸ hi)

/-- A host with a document out of date has something out of date. -/
theorem isDirty_of_mem {h : Host} {id : DocumentId} (hid : id ∈ h.dirty) : h.isDirty = true := by
  have hne := List.ne_nil_of_mem hid
  simp [isDirty, hne]

/-- A host with something out of date is built. -/
theorem rebuild_of_isDirty {h : Host} (hd : h.isDirty = true) :
    h.rebuild = { h with
      toSnapshot := h.toSnapshot.build h.dirty, dirty := [], referencesStale := false } := by
  rw [rebuild, if_pos hd]

/-- A rebuild leaves the list of documents and their addresses, the number still to come and the
registry alone. -/
theorem frame_rebuild (h : Host) :
    h.rebuild.workspace.ids = h.workspace.ids ∧ h.rebuild.workspace.byUri = h.workspace.byUri ∧
      h.rebuild.workspace.nextId = h.workspace.nextId ∧ h.rebuild.registry = h.registry := by
  unfold rebuild
  split
  · exact ⟨Snapshot.ids_build _ _, Snapshot.frame_build h.toSnapshot h.dirty⟩
  · exact ⟨rfl, rfl, rfl, rfl⟩

/-- In a host with nothing out of date no document is marked. -/
theorem dirty_of_not_isDirty {h : Host} (hd : h.isDirty = false) :
    h.dirty = [] ∧ h.referencesStale = false := by
  simpa [isDirty] using hd

/-- Setting a document leaves index and registry alone. -/
@[simp] theorem toSnapshot_setDocument (h : Host) (d : Document) :
    (h.setDocument d).2.toSnapshot =
      { h.toSnapshot with workspace := (h.workspace.insert d).2 } :=
  toSnapshot_mark _ _

/-- A document that is set is out of date. -/
theorem mem_dirty_setDocument {h : Host} {d : Document} {j : DocumentId} :
    j ∈ (h.setDocument d).2.dirty ↔ j ∈ h.dirty ∨ j = (h.workspace.insert d).1 :=
  mem_dirty_mark

/-- Touching a document concerns only what is out of date. -/
@[simp] theorem toSnapshot_touchDocument (h : Host) (uri : String) :
    (h.touchDocument uri).2.toSnapshot = h.toSnapshot := by
  unfold touchDocument
  split
  · rfl
  · exact toSnapshot_mark _ _

/-- Touching a document leaves out of date what was. -/
theorem mem_dirty_touchDocument {h : Host} {uri : String} {j : DocumentId} (hj : j ∈ h.dirty) :
    j ∈ (h.touchDocument uri).2.dirty := by
  unfold touchDocument
  split
  · exact hj
  · exact mem_dirty_mark.2 (Or.inl hj)

/-- Replacing the registry leaves the documents and their exports alone. -/
@[simp] theorem toSnapshot_setRegistry (h : Host) (registry : Registry) :
    (h.setRegistry registry).toSnapshot =
      { h.toSnapshot with registry, index := h.index.forgetAll } :=
  toSnapshot_foldl_mark _ _

/-- Replacing the registry puts all documents out of date. -/
theorem mem_dirty_setRegistry {h : Host} {registry : Registry} {j : DocumentId} :
    j ∈ (h.setRegistry registry).dirty ↔ j ∈ h.dirty ∨ j ∈ h.workspace.ids :=
  mem_dirty_foldl_mark

/-- Once the registry has been replaced all documents are out of date. -/
theorem mem_dirty_setRegistry_of_get? {h : Host} {registry : Registry} {j : DocumentId}
    {d : Document} (hd : (h.setRegistry registry).workspace.get? j = some d) :
    j ∈ (h.setRegistry registry).dirty := by
  rw [toSnapshot_setRegistry] at hd
  exact mem_dirty_setRegistry.2 (Or.inr (Workspace.mem_ids_of_get? hd))

/-- Nothing happens when there is nothing to take out. -/
theorem removeDocument_of_idOf?_eq_none {h : Host} {uri : String}
    (hid : h.workspace.idOf? uri = none) : h.removeDocument uri = (none, h) := by
  simp only [removeDocument, Workspace.remove, hid]

/-- A document that is taken out is forgotten by the index too. -/
theorem removeDocument_of_idOf? {h : Host} {uri : String} {id : DocumentId} {d : Document}
    (hid : h.workspace.idOf? uri = some id) (hd : h.workspace.get? id = some d) (heq : d.id = id) :
    h.removeDocument uri = (some d,
      { h with
        workspace := (h.workspace.remove uri).2
        index := h.index.remove id
        dirty := h.dirty.filter (· ≠ id)
        referencesStale := true }) := by
  subst heq
  simp only [removeDocument, Workspace.remove, hid, hd]

/-- The numbers that are left when a document is taken out. -/
theorem ids_remove {w : Workspace} {uri : String} {id : DocumentId} (hid : w.idOf? uri = some id) :
    (w.remove uri).2.ids = w.ids.filter (· ≠ id) := by
  simp only [Workspace.remove, hid]
  exact Keyed.keys_erase _ _

/-- Setting a document leaves alone what is held for other numbers. -/
theorem part_setDocument (h : Host) (d : Document) {j : DocumentId}
    (hj : j ≠ (h.workspace.insert d).1) : (h.setDocument d).2.part j = h.part j := by
  have hpart := congrArg (Snapshot.part · j) (toSnapshot_setDocument h d)
  refine hpart.trans ?_
  simp only [Snapshot.part, Workspace.get?_insert_eq, if_neg hj]

/-- Taking out a document leaves alone what is held for other numbers. -/
theorem part_removeDocument {h : Host} {uri : String} {id : DocumentId} {d : Document}
    (hid : h.workspace.idOf? uri = some id) (hd : h.workspace.get? id = some d) (heq : d.id = id)
    {j : DocumentId} (hj : j ≠ id) : (h.removeDocument uri).2.part j = h.part j := by
  simp only [removeDocument_of_idOf? hid hd heq, Snapshot.part, Workspace.remove, hid,
    Workspace.get?, Index.remove, Index.locals?, Index.exports_forgetKinds,
    Index.locals_forgetKinds, Keyed.get?_erase, if_neg hj]

/-- A new host is consistent. -/
theorem consistent_new (registry : Registry) : (new registry).Consistent where
  workspace := Workspace.consistent_empty
  index := Index.faithful_empty
  exports_prefix := List.prefix_refl _
  locals_keys := rfl
  dirty_mem := by simp [new]
  nodup_dirty := List.nodup_nil
  unexported_mem := by simp [new, Workspace.ids, Workspace.empty, Keyed.keys, Keyed.empty]

namespace Consistent

variable {h : Host} (hh : h.Consistent)
include hh

/-- Marking a document that is there keeps a host consistent. -/
theorem mark {id : DocumentId} (hid : id ∈ h.workspace.ids) : (h.mark id).Consistent := by
  have hsame := toSnapshot_mark h id
  have hworkspace : (h.mark id).workspace = h.workspace := congrArg Snapshot.workspace hsame
  have hindex : (h.mark id).index = h.index := congrArg Snapshot.index hsame
  refine ⟨hworkspace ▸ hh.workspace, hindex ▸ hh.index, ?_, hindex ▸ hh.locals_keys,
    fun j hj => ?_, ?_, fun j hj hnot => ?_⟩
  · rw [hworkspace, hindex]
    exact hh.exports_prefix
  · rw [hworkspace]
    rcases mem_dirty_mark.1 hj with hj | rfl
    · exact hh.dirty_mem j hj
    · exact hid
  · exact nodup_dirty_mark hh.nodup_dirty id
  · rw [hworkspace] at hj
    rw [hindex] at hnot
    exact mem_dirty_mark.2 (Or.inl (hh.unexported_mem j hj hnot))

/-- Marking documents that are there keeps a host consistent. -/
theorem foldl_mark {ids : List DocumentId} (hids : ∀ id ∈ ids, id ∈ h.workspace.ids) :
    (ids.foldl Host.mark h).Consistent := by
  induction ids generalizing h with
  | nil => exact hh
  | cons id ids ih =>
    refine ih (hh.mark (hids id (List.mem_cons_self ..))) fun j hj => ?_
    rw [congrArg Snapshot.workspace (toSnapshot_mark h id)]
    exact hids j (List.mem_cons_of_mem _ hj)

/-- Replacing the snapshot by one of the same documents keeps a host consistent. -/
theorem withSnapshot {t : Snapshot} (hworkspace : t.workspace.Consistent)
    (hindex : t.index.Faithful) (hids : t.workspace.ids = h.workspace.ids)
    (hexports : t.index.exports = h.index.exports) (hlocals : t.index.locals = h.index.locals) :
    ({ h with toSnapshot := t } : Host).Consistent where
  workspace := hworkspace
  index := hindex
  exports_prefix := by
    show t.index.exports.keys <+: t.workspace.ids
    rw [hexports, hids]
    exact hh.exports_prefix
  locals_keys := by
    show t.index.locals.keys = t.index.exports.keys
    rw [hexports, hlocals]
    exact hh.locals_keys
  dirty_mem := by
    show ∀ id ∈ h.dirty, id ∈ t.workspace.ids
    rw [hids]
    exact hh.dirty_mem
  nodup_dirty := hh.nodup_dirty
  unexported_mem := by
    show ∀ id ∈ t.workspace.ids, id ∉ t.index.exports.keys → id ∈ h.dirty
    rw [hids, hexports]
    exact hh.unexported_mem

/-- Setting a document keeps a host consistent. -/
theorem setDocument (d : Document) : (h.setDocument d).2.Consistent := by
  have hids := Workspace.ids_insert h.workspace d
  have hmem : (h.workspace.insert d).1 ∈ (h.workspace.insert d).2.ids :=
    Workspace.mem_ids_of_get? (Workspace.get?_insert h.workspace d)
  have hold : ∀ id ∈ h.workspace.ids, id ∈ (h.workspace.insert d).2.ids := by
    intro id hid
    rw [hids]
    split
    · exact hid
    · exact List.mem_append_left _ hid
  have hsnapshot := toSnapshot_setDocument h d
  have hworkspace : (h.setDocument d).2.workspace = (h.workspace.insert d).2 :=
    congrArg Snapshot.workspace hsnapshot
  have hindex : (h.setDocument d).2.index = h.index := (congrArg Snapshot.index hsnapshot :)
  refine ⟨?_, hindex ▸ hh.index, ?_, hindex ▸ hh.locals_keys, fun j hj => ?_, ?_,
    fun j hj hnot => ?_⟩
  · rw [hworkspace]
    exact hh.workspace.insert d
  · rw [hworkspace, hindex, hids]
    split
    · exact hh.exports_prefix
    · exact hh.exports_prefix.trans (List.prefix_append _ _)
  · rw [hworkspace]
    rcases mem_dirty_setDocument.1 hj with hj | rfl
    · exact hold j (hh.dirty_mem j hj)
    · exact hmem
  · exact nodup_dirty_mark (h := { h with workspace := (h.workspace.insert d).2 }) hh.nodup_dirty _
  · rw [hworkspace, hids] at hj
    rw [hindex] at hnot
    refine mem_dirty_setDocument.2 ?_
    split at hj
    · exact Or.inl (hh.unexported_mem j hj hnot)
    · rcases List.mem_append.1 hj with hj | hj
      · exact Or.inl (hh.unexported_mem j hj hnot)
      · exact Or.inr (List.mem_singleton.1 hj)

/-- Taking out a document keeps a host consistent. -/
theorem removeDocument (uri : String) : (h.removeDocument uri).2.Consistent := by
  cases hid : h.workspace.idOf? uri with
  | none =>
    rw [removeDocument_of_idOf?_eq_none hid]
    exact hh
  | some id =>
    obtain ⟨d, hd, -, heq⟩ := hh.workspace.exists_of_idOf? hid
    have hids := ids_remove hid
    have hexports : (h.index.remove id).exports.keys = h.index.exports.keys.filter (· ≠ id) :=
      Keyed.keys_erase _ _
    have hlocals : (h.index.remove id).locals.keys = h.index.locals.keys.filter (· ≠ id) :=
      Keyed.keys_erase _ _
    rw [removeDocument_of_idOf? hid hd heq]
    refine ⟨hh.workspace.remove uri, hh.index.remove id, ?_, ?_, fun j hj => ?_,
      hh.nodup_dirty.filter _, fun j hj hnot => ?_⟩
    · rw [hids, hexports]
      exact hh.exports_prefix.filter _
    · rw [hlocals, hexports, hh.locals_keys]
    · obtain ⟨hj, hne⟩ := List.mem_filter.1 hj
      rw [hids]
      exact List.mem_filter.2 ⟨hh.dirty_mem j hj, hne⟩
    · rw [hids] at hj
      rw [hexports] at hnot
      obtain ⟨hj, hne⟩ := List.mem_filter.1 hj
      refine List.mem_filter.2 ⟨hh.unexported_mem j hj fun hmem => hnot ?_, hne⟩
      exact List.mem_filter.2 ⟨hmem, hne⟩

/-- Touching a document keeps a host consistent. -/
theorem touchDocument (uri : String) : (h.touchDocument uri).2.Consistent := by
  unfold Host.touchDocument
  cases hid : h.workspace.idOf? uri with
  | none => exact hh
  | some id =>
    obtain ⟨d, hd, -, -⟩ := hh.workspace.exists_of_idOf? hid
    exact hh.mark (Workspace.mem_ids_of_get? hd)

/-- Replacing the registry keeps a host consistent. -/
theorem setRegistry (registry : Registry) : (h.setRegistry registry).Consistent := by
  have hbefore : ({ h with registry, index := h.index.forgetAll } : Host).Consistent :=
    ⟨hh.workspace, hh.index.forgetAll, hh.exports_prefix, hh.locals_keys, hh.dirty_mem,
      hh.nodup_dirty, hh.unexported_mem⟩
  exact hbefore.foldl_mark fun id hid => hid

/-- After a rebuild all documents are listed in the index, in the order of the workspace. -/
theorem keys_rebuild : h.rebuild.index.exports.keys = h.workspace.ids ∧
    h.rebuild.index.locals.keys = h.workspace.ids := by
  cases hclean : h.isDirty with
  | true =>
    rw [rebuild_of_isDirty hclean]
    exact Snapshot.keys_build hh.workspace hh.exports_prefix hh.locals_keys hh.unexported_mem
  | false =>
    have hdirty := (dirty_of_not_isDirty hclean).1
    obtain ⟨rest, hrest⟩ := hh.exports_prefix
    have hnil : rest = [] := by
      refine List.eq_nil_iff_forall_not_mem.2 fun id hid => ?_
      have hmem : id ∈ h.workspace.ids := hrest ▸ List.mem_append_right _ hid
      have hnot : id ∉ h.index.exports.keys := by
        intro hmem'
        have hnodup := hh.workspace.nodup_ids
        rw [← hrest] at hnodup
        exact (List.nodup_append.1 hnodup).2.2 id hmem' id hid rfl
      have hdirty' := hh.unexported_mem id hmem hnot
      rw [hdirty] at hdirty'
      cases hdirty'
    rw [hnil, List.append_nil] at hrest
    rw [rebuild_of_not_isDirty hclean]
    exact ⟨hrest, hh.locals_keys.trans hrest⟩

/-- A rebuild keeps a host consistent. -/
theorem rebuild : h.rebuild.Consistent := by
  cases hclean : h.isDirty with
  | true =>
    obtain ⟨hexports, hlocals⟩ := hh.keys_rebuild
    rw [rebuild_of_isDirty hclean] at hexports hlocals ⊢
    have hids : (h.toSnapshot.build h.dirty).workspace.ids = h.workspace.ids :=
      Snapshot.ids_build _ _
    refine ⟨Snapshot.consistent_build hh.workspace, Snapshot.faithful_build hh.index, ?_,
      hlocals.trans hexports.symm, by simp, List.nodup_nil, fun id hid hnot => ?_⟩
    · rw [hexports]
      exact hids ▸ List.prefix_refl _
    · rw [hexports, ← hids] at hnot
      exact absurd hid hnot
  | false =>
    rw [rebuild_of_not_isDirty hclean]
    exact hh

/-- Looking up references keeps a host consistent. -/
theorem ofResetReferences {t : Snapshot} (ht : t.resetReferences = h.toSnapshot.resetReferences) :
    ({ h with toSnapshot := t } : Host).Consistent := by
  have hindex : t.index = h.index := (congrArg Snapshot.index ht :)
  have hids := Snapshot.ids_eq_of_resetReferences_eq ht
  have hworkspace : t.workspace.Consistent := by
    refine hh.workspace.of_get? (congrArg (·.workspace.byUri) ht)
      (congrArg (·.workspace.nextId) ht) hids fun id => ?_
    have hget := congrArg (fun s : Snapshot => s.workspace.documents.get? id) ht
    simp only [Snapshot.resetReferences, Workspace.resetReferences, Keyed.get?_mapValues] at hget
    have hplaces := congrArg (Option.map fun d : Document => (d.id, d.uri)) hget
    rw [Option.map_map, Option.map_map] at hplaces
    exact hplaces
  exact hh.withSnapshot hworkspace (hindex ▸ hh.index) hids (congrArg _ hindex)
    (congrArg _ hindex)

end Consistent

end Host

namespace Session

/-- What actions with a property keep, every sequence of such actions keeps. -/
theorem run_induction_of {P : Session → Prop} {Q : Action → Prop}
    (hstep : ∀ s a, Q a → P s → P (s.step a)) {s : Session} (h : P s) {actions : List Action}
    (hactions : ∀ a ∈ actions, Q a) : P (s.run actions) := by
  induction actions generalizing s with
  | nil => exact h
  | cons a actions ih =>
    exact ih (hstep s a (hactions a (List.mem_cons_self ..)) h)
      fun b hb => hactions b (List.mem_cons_of_mem _ hb)

/-- What every action keeps, every sequence of actions keeps. -/
theorem run_induction {P : Session → Prop} (hstep : ∀ s a, P s → P (s.step a)) {s : Session}
    (h : P s) (actions : List Action) : P (s.run actions) :=
  run_induction_of (Q := fun _ => True) (fun s a _ => hstep s a) h fun _ _ => trivial

/-- What an action can do to a session. -/
inductive Move (s : Session) (a : Action) : Session → Prop where
  /-- Nothing, where no document is at the address or was taken out at the turn. -/
  | idle : Move s a s
  /-- A document is set, for the first time or again. -/
  | set (d : Document) (horigin : a = .set d ∨ d ∈ s.removed) :
    Move s a (s.withHost (s.host.setDocument d).2)
  /-- A document is taken out. -/
  | remove (uri : String) (id : DocumentId) (d : Document)
    (hid : s.host.workspace.idOf? uri = some id) (hd : s.host.workspace.get? id = some d)
    (heq : d.id = id) :
    Move s a { host := (s.host.removeDocument uri).2, removed := s.removed ++ [d] }
  /-- What is at an address is put out of date. -/
  | touch (uri : String) : Move s a (s.withHost (s.host.touchDocument uri).2)
  /-- The registry is replaced. -/
  | setRegistry (registry : Registry) : Move s a (s.withHost (s.host.setRegistry registry))
  /-- All is brought up to date and references are looked up. -/
  | lookUp (t : Snapshot) (hread : s.host.rebuild.toSnapshot.Read t) :
    Move s a (s.withHost { s.host.rebuild with toSnapshot := t })
  /-- An answer of the index is remembered. -/
  | consult (kind : NodeKind) :
    Move s a (s.withHost { s.host with index := s.host.index.remember kind })

/-- Every action does one of these things. -/
theorem move_step {s : Session} (hc : s.host.Consistent) (a : Action) : s.Move a (s.step a) := by
  cases a with
  | set document => exact .set document (Or.inl rfl)
  | restore turn =>
    cases hd : s.removed[turn]? with
    | none =>
      simp only [step, hd]
      exact .idle
    | some d =>
      simp only [step, hd]
      exact .set d (Or.inr (List.mem_of_getElem? hd))
  | remove uri =>
    cases hid : s.host.workspace.idOf? uri with
    | none =>
      simp only [step, Host.removeDocument_of_idOf?_eq_none hid, Option.toList_none,
        List.append_nil]
      exact .idle
    | some id =>
      obtain ⟨d, hd, -, heq⟩ := hc.workspace.exists_of_idOf? hid
      have hmove := Move.remove (a := .remove uri) uri id d hid hd heq
      simp only [step, Host.removeDocument_of_idOf? hid hd heq] at hmove ⊢
      exact hmove
  | touch uri => exact .touch uri
  | setRegistry registry => exact .setRegistry registry
  | rebuild => exact .lookUp _ .refl
  | resolveReference ptr property index => exact .lookUp _ (.resolveReference .refl _ _ _)
  | link uri => exact .lookUp _ (Snapshot.read_link _ uri)
  | consult kind => exact .consult kind

/-- Every action keeps a host consistent. -/
theorem consistent_step {s : Session} (h : s.host.Consistent) (a : Action) :
    (s.step a).host.Consistent := by
  have hmove := move_step h a
  generalize s.step a = s' at hmove ⊢
  cases hmove with
  | idle => exact h
  | set d => exact h.setDocument d
  | remove uri => exact h.removeDocument uri
  | touch uri => exact h.touchDocument uri
  | setRegistry registry => exact h.setRegistry registry
  | lookUp t hread =>
    exact h.rebuild.ofResetReferences (hread.resetReferences_eq h.rebuild.workspace.nodup_ids)
  | consult kind =>
    exact ⟨h.workspace, h.index.remember kind, h.exports_prefix, h.locals_keys, h.dirty_mem,
      h.nodup_dirty, h.unexported_mem⟩

/-- The host of every session is consistent. -/
theorem consistent_run (registry : Registry) (actions : List Action) :
    ((start registry).run actions).host.Consistent :=
  run_induction (P := fun s => s.host.Consistent) (fun _ a h => consistent_step h a)
    (Host.consistent_new registry) actions

end Session

end ModelBinding
