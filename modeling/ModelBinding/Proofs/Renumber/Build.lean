import ModelBinding.Proofs.Origin

/-!
# Builds under other numbers

Two hosts hold alike what was written, in the same order, under numbers that correspond,
and everything in them is out of date. Whatever else they hold is of earlier builds, and
a rebuild makes them the same up to numbers (`Host.Alike.documents_rebuild`,
`exports_rebuild`, `locals_rebuild`).
-/

namespace ModelBinding

variable {f : DocumentId → DocumentId}

namespace Keyed

variable {α : Type}

/-- A map with corresponding keys under which corresponding values are found is the renumbered
map. -/
theorem eq_renumber (hf : Function.Injective f) {g : α → α} {m m' : Keyed DocumentId α}
    (hkeys : m'.keys = m.keys.map f) (hnodup : m.keys.Nodup)
    (hget : ∀ id ∈ m.keys, m'.get? (f id) = (m.get? id).map g) : m' = m.renumber f g := by
  have hnodup' : m'.keys.Nodup := hkeys ▸ hnodup.map hf
  refine ext_get? (hkeys.trans (keys_renumber g m).symm) hnodup' fun k => ?_
  by_cases hk : k ∈ m'.keys
  · rw [hkeys] at hk
    obtain ⟨id, hid, rfl⟩ := List.mem_map.1 hk
    rw [hget id hid, get?_renumber hf]
  · have hk' : k ∉ (m.renumber f g).keys := by
      rw [keys_renumber, ← hkeys]
      exact hk
    rw [(get?_eq_none_iff _ _).2 hk, (get?_eq_none_iff _ _).2 hk']

/-- A map with corresponding keys and the same values finds the same under corresponding keys. -/
theorem get?_of_keys_values (hf : Function.Injective f) {m m' : Keyed DocumentId α}
    (hkeys : m'.keys = m.keys.map f) (hvalues : m'.values = m.values) (id : DocumentId) :
    m'.get? (f id) = m.get? id := by
  have hentries : m' = m.renumber f fun a => a := by
    refine eq_of_entries ?_
    rw [entries_eq_zip m', hkeys, hvalues]
    simp only [renumber, keys, values, List.map_map, List.zip_map']
    rfl
  rw [hentries, get?_renumber hf, Option.map_id']

end Keyed

/-- Faithful indices with the same exports up to numbers answer the same up to numbers. -/
theorem Index.Faithful.globalScope_renumber {x y : Index} (hx : x.Faithful) (hy : y.Faithful)
    (hexports : y.exports = x.exports.renumber f (·.map (·.renumber f))) (kind : NodeKind) :
    y.globalScope kind = (x.globalScope kind).map (·.renumber f) := by
  have hall : y.all = x.all.map (·.renumber f) := by
    rw [Index.all, Index.all, hexports]
    simp [Keyed.values, Keyed.renumber, List.map_flatten, Function.comp_def]
  rw [hx.globalScope_eq kind, hy.globalScope_eq kind, hall, Description.ofKind_map_renumber]

/-- With references forgotten a renumbered document is the outline. -/
theorem Document.renumber_resetReferences (d : Document) :
    d.resetReferences.renumber f = d.outline f := by
  have hreference : ∀ r : Reference, r.reset.renumber f = (r.renumber f).reset := fun _ => rfl
  simp [resetReferences, renumber, outline, Node.resetReferences, Node.renumber, hreference,
    Function.comp_def]

/-- Two hosts on which the same was written, in the same order, and all of it is out of date. -/
structure Host.Alike (f : DocumentId → DocumentId) (h k : Host) : Prop where
  /-- Different documents have different numbers. -/
  injective : Function.Injective f
  /-- The first host is consistent. -/
  left : h.Consistent
  /-- The second host is consistent. -/
  right : k.Consistent
  /-- The first host holds what was written, with what builds added. -/
  authored : h.workspace.Authored
  /-- The data models are the same. -/
  registry : k.registry = h.registry
  /-- The documents correspond, in order. -/
  ids : k.workspace.ids = h.workspace.ids.map f
  /-- What was written is the same. -/
  written : ∀ id, k.workspace.written? (f id) = h.workspace.written? id
  /-- All of the first host is out of date. -/
  left_dirty : ∀ id ∈ h.workspace.ids, id ∈ h.dirty
  /-- All of the second host is out of date. -/
  right_dirty : ∀ id ∈ k.workspace.ids, id ∈ k.dirty

/-- Exporting everything lists all documents, in the order of the workspace. -/
theorem Host.Consistent.keys_exportAll {h : Host} (hh : h.Consistent)
    (hdirty : ∀ id ∈ h.workspace.ids, id ∈ h.dirty) :
    (h.exportAll h.dirty).index.exports.keys = h.workspace.ids ∧
      (h.exportAll h.dirty).index.locals.keys = h.workspace.ids :=
  Snapshot.keys_exportAll hh.workspace hh.exports_prefix hh.locals_keys
    fun id hid _ => hdirty id hid

namespace Host.Alike

variable {h k : Host} (H : Host.Alike f h k)
include H

/-- Where the first host has no document, the second has none. -/
theorem notMem_ids {id : DocumentId} (hid : id ∉ h.workspace.ids) : f id ∉ k.workspace.ids := by
  rw [H.ids]
  intro hmem
  obtain ⟨j, hj, heq⟩ := List.mem_map.1 hmem
  exact hid (H.injective heq ▸ hj)

/-- Corresponding documents are alike once they are prepared. -/
theorem document {id : DocumentId} {d : Document} (hd : h.workspace.get? id = some d) :
    ∃ e, k.workspace.get? (f id) = some e ∧ id ∈ h.dirty ∧ f id ∈ k.dirty ∧
      Document.Alike f (d.prepare h.registry) (e.prepare h.registry) := by
  have hwritten := H.written id
  rw [Workspace.written?, Workspace.written?, hd, Option.map_some] at hwritten
  obtain ⟨e, he, heq⟩ := Option.map_eq_some_iff.1 hwritten
  have hid : e.id = f d.id := by
    rw [H.right.workspace.id_eq _ e he, H.left.workspace.id_eq id d hd]
  refine ⟨e, he, H.left_dirty id (Workspace.mem_ids_of_get? hd),
    H.right_dirty (f id) (Workspace.mem_ids_of_get? he), ?_⟩
  exact Document.alike_prepare (H.authored id d hd) heq hid h.registry

/-- What the exports of corresponding documents leave corresponds. -/
theorem part_exportAll {id : DocumentId} {d : Document} (hd : h.workspace.get? id = some d) :
    ∃ e, k.workspace.get? (f id) = some e ∧
      Document.Alike f (d.prepare h.registry) (e.prepare h.registry) ∧
      (h.exportAll h.dirty).part id = ⟨some (d.prepare h.registry),
        some ((d.prepare h.registry).exports h.registry),
        some ((d.prepare h.registry).localTables h.registry)⟩ ∧
      (k.exportAll k.dirty).part (f id) = ⟨some (e.prepare h.registry),
        some (((d.prepare h.registry).exports h.registry).map (·.renumber f)),
        some (((d.prepare h.registry).localTables h.registry).renumber f)⟩ := by
  obtain ⟨e, he, hleft, hright, halike⟩ := H.document hd
  have hpart := Snapshot.part_exportAll_of_mem hleft hd
  have hpart' := Snapshot.part_exportAll_of_mem hright he
  rw [H.registry, halike.exports, halike.localTables] at hpart'
  exact ⟨e, he, halike, hpart, hpart'⟩

/-- Maps that list all documents are the same up to numbers if what they find under each document
is. -/
theorem eq_renumber {α : Type} {g : α → α} {m m' : Keyed DocumentId α}
    (hkeys : m.keys = h.workspace.ids) (hkeys' : m'.keys = k.workspace.ids)
    (hget : ∀ id d, h.workspace.get? id = some d → m'.get? (f id) = (m.get? id).map g) :
    m' = m.renumber f g := by
  refine Keyed.eq_renumber H.injective ?_ ?_ fun id hid => ?_
  · rw [hkeys', hkeys, H.ids]
  · rw [hkeys]
    exact H.left.workspace.nodup_ids
  · rw [hkeys] at hid
    obtain ⟨d, hd⟩ := Workspace.exists_get?_of_mem_ids hid
    exact hget id d hd

/-- The exports are the same up to numbers. -/
theorem exports_exportAll : (k.exportAll k.dirty).index.exports =
    (h.exportAll h.dirty).index.exports.renumber f (·.map (·.renumber f)) := by
  have hleft := (H.left.keys_exportAll H.left_dirty).1
  have hright := (H.right.keys_exportAll H.right_dirty).1
  refine H.eq_renumber hleft hright fun id d hd => ?_
  obtain ⟨e, -, -, hpart, hpart'⟩ := H.part_exportAll hd
  have hexports : (h.exportAll h.dirty).index.exports.get? id = some _ :=
    congrArg Part.exports hpart
  have hexports' : (k.exportAll k.dirty).index.exports.get? (f id) = some _ :=
    congrArg Part.exports hpart'
  rw [hexports, hexports']
  rfl

/-- The container tables of the written nodes are the same up to numbers. -/
theorem locals_exportAll : (k.exportAll k.dirty).index.locals =
    (h.exportAll h.dirty).index.locals.renumber f (·.renumber f) := by
  have hleft := (H.left.keys_exportAll H.left_dirty).2
  have hright := (H.right.keys_exportAll H.right_dirty).2
  refine H.eq_renumber hleft hright fun id d hd => ?_
  obtain ⟨e, -, -, hpart, hpart'⟩ := H.part_exportAll hd
  have htables : (h.exportAll h.dirty).index.locals.get? id = some _ :=
    congrArg Part.tables hpart
  have htables' : (k.exportAll k.dirty).index.locals.get? (f id) = some _ :=
    congrArg Part.tables hpart'
  rw [htables, htables']
  rfl

/-- The documents are alike once they are prepared. -/
theorem rel_get?_exportAll (id : DocumentId) :
    Option.Rel (Document.Alike f) ((h.exportAll h.dirty).workspace.get? id)
      ((k.exportAll k.dirty).workspace.get? (f id)) := by
  cases hd : h.workspace.get? id with
  | some d =>
    obtain ⟨e, -, halike, hpart, hpart'⟩ := H.part_exportAll hd
    have hdocument : (h.exportAll h.dirty).workspace.get? id = some _ :=
      congrArg Part.document hpart
    have hdocument' : (k.exportAll k.dirty).workspace.get? (f id) = some _ :=
      congrArg Part.document hpart'
    rw [hdocument, hdocument']
    exact .some halike
  | none =>
    have hnot : id ∉ h.workspace.ids := (Workspace.get?_eq_none_iff _ _).1 hd
    have hleft : (h.exportAll h.dirty).workspace.get? id = none := by
      rw [Workspace.get?_eq_none_iff, Snapshot.ids_exportAll]
      exact hnot
    have hright : (k.exportAll k.dirty).workspace.get? (f id) = none := by
      rw [Workspace.get?_eq_none_iff, Snapshot.ids_exportAll]
      exact H.notMem_ids hnot
    rw [hleft, hright]
    exact .none

/-- Once everything is exported the two hosts resolve alike. -/
theorem resolver : Resolver.Alike f (h.exportAll h.dirty).resolver (k.exportAll k.dirty).resolver
    where
  injective := H.injective
  registry := by
    show (k.exportAll k.dirty).registry = (h.exportAll h.dirty).registry
    rw [Snapshot.registry_exportAll, Snapshot.registry_exportAll, H.registry]
  globalScope :=
    (Snapshot.faithful_exportAll H.left.index h.dirty).globalScope_renumber
      (Snapshot.faithful_exportAll H.right.index k.dirty) H.exports_exportAll
  locals := by
    intro id
    show (k.exportAll k.dirty).index.locals.get? (f id) =
      ((h.exportAll h.dirty).index.locals.get? id).map _
    rw [H.locals_exportAll, Keyed.get?_renumber H.injective]
  documents := H.rel_get?_exportAll

/-- What a rebuild makes of corresponding documents corresponds. -/
theorem part_rebuild {id : DocumentId} {d : Document} (hd : h.workspace.get? id = some d) :
    k.rebuild.part (f id) =
      ⟨(h.rebuild.part id).document.map (·.renumber f),
        (h.rebuild.part id).exports.map (·.map (·.renumber f)),
        (h.rebuild.part id).tables.map (·.renumber f)⟩ := by
  obtain ⟨e, he, hleft, hright, halike⟩ := H.document hd
  have hrebuilt : Derivation.Alike f (h.rebuilt h.dirty d) (k.rebuilt k.dirty e) := by
    rw [Snapshot.rebuilt, Snapshot.rebuilt, H.registry, halike.localTables]
    exact Derivation.Alike.apply (H.resolver.views_plan halike) halike h.registry
  have hdocument : (k.rebuilt k.dirty e).document.resetReferences =
      (h.rebuilt h.dirty d).document.resetReferences.renumber f := by
    rw [Document.renumber_resetReferences]
    exact hrebuilt.document
  rw [part_rebuild_of_mem H.left hleft hd, part_rebuild_of_mem H.right hright he, H.registry,
    halike.exports, hrebuilt.tables, hdocument]
  rfl

/-- A rebuild makes the documents the same up to numbers. -/
theorem documents_rebuild : k.rebuild.workspace.documents =
    h.rebuild.workspace.documents.renumber f (·.renumber f) :=
  H.eq_renumber h.frame_rebuild.1 k.frame_rebuild.1 fun _ _ hd =>
    congrArg Part.document (H.part_rebuild hd)

/-- A rebuild makes the exports the same up to numbers. -/
theorem exports_rebuild : k.rebuild.index.exports =
    h.rebuild.index.exports.renumber f (·.map (·.renumber f)) :=
  H.eq_renumber H.left.keys_rebuild.1 H.right.keys_rebuild.1 fun _ _ hd =>
    congrArg Part.exports (H.part_rebuild hd)

/-- A rebuild makes the container tables the same up to numbers. -/
theorem locals_rebuild : k.rebuild.index.locals =
    h.rebuild.index.locals.renumber f (·.renumber f) :=
  H.eq_renumber H.left.keys_rebuild.2 H.right.keys_rebuild.2 fun _ _ hd =>
    congrArg Part.tables (H.part_rebuild hd)

end Host.Alike

end ModelBinding
