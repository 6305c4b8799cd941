import ModelBinding.Proofs.Renumber.Build
import ModelBinding.Proofs.Shelf

/-!
# Incremental builds and builds from scratch

However a session came about, once all its documents have been touched and built its
host is what a new host is that is given the registry and the documents on the shelf, in
their order, and builds once: the same but for the numbers of documents, which keep
their order (`settled_eq_scratch`).
-/

namespace ModelBinding

/-- Two hosts with nothing out of date and no reference looked up that differ in the numbers of
documents only. -/
structure Host.SameUpTo (f : DocumentId → DocumentId) (h k : Host) : Prop where
  /-- The data models are the same. -/
  registry : k.registry = h.registry
  /-- The documents are the same, in the same order, with all that builds added to them. -/
  documents : k.workspace.documents = h.workspace.documents.renumber f (·.renumber f)
  /-- The addresses are the same. -/
  byUri : k.workspace.byUri = h.workspace.byUri.mapValues f
  /-- The exports are the same, in the same order of documents. -/
  exports : k.index.exports = h.index.exports.renumber f (·.map (·.renumber f))
  /-- The container tables are the same. -/
  locals : k.index.locals = h.index.locals.renumber f (·.renumber f)
  /-- The answers of the index are the same. -/
  globalScope : ∀ kind, k.index.globalScope kind = (h.index.globalScope kind).map (·.renumber f)
  /-- No reference remembers anything. -/
  references : ∀ d ∈ k.workspace.list, d.resetReferences = d
  /-- Nothing is out of date. -/
  clean : h.isDirty = false ∧ k.isDirty = false

/-- A rebuild makes hosts the same on which the same was written. -/
theorem Host.Alike.sameUpTo_rebuild {f : DocumentId → DocumentId} {h k : Host}
    (H : Host.Alike f h k) : Host.SameUpTo f h.rebuild k.rebuild where
  registry := by
    rw [k.frame_rebuild.2.2.2, h.frame_rebuild.2.2.2, H.registry]
  documents := H.documents_rebuild
  byUri := by
    refine Keyed.eq_of_entries ?_
    show _ = h.rebuild.workspace.byUri.entries.map _
    rw [H.left.rebuild.workspace.byUri_eq, H.right.rebuild.workspace.byUri_eq, H.documents_rebuild]
    simp only [Keyed.renumber, Keyed.mapValues, List.map_map]
    rfl
  exports := H.exports_rebuild
  locals := H.locals_rebuild
  globalScope :=
    H.left.rebuild.index.globalScope_renumber H.right.rebuild.index H.exports_rebuild
  references := by
    intro d hd
    have hget := H.right.rebuild.workspace.mem_list_iff.1 hd
    have hid : d.id ∈ k.workspace.ids := by
      rw [← k.frame_rebuild.1]
      exact Workspace.mem_ids_of_get? hget
    obtain ⟨e, he⟩ := Workspace.exists_get?_of_mem_ids hid
    have hrebuilt : k.rebuild.workspace.get? d.id = _ :=
      congrArg Part.document (part_rebuild_of_mem H.right (H.right_dirty _ hid) he)
    rw [hget, Option.some.injEq] at hrebuilt
    rw [hrebuilt, Document.resetReferences_resetReferences]
  clean := ⟨h.isDirty_rebuild, k.isDirty_rebuild⟩

/-- The numbers of a new workspace in terms of those of an old one: the first ones are taken from
the list, later ones go on behind all that were given out. -/
def Workspace.numberOf (w : Workspace) (id : DocumentId) : DocumentId :=
  w.ids[id.index]?.getD ⟨w.nextId + id.index⟩

namespace Workspace

variable {w : Workspace}

/-- Numbers keep their order. -/
theorem numberOf_lt (h : w.Consistent) {i j : DocumentId} (hij : i.index < j.index) :
    (w.numberOf i).index < (w.numberOf j).index := by
  unfold numberOf
  by_cases hj : j.index < w.ids.length
  · have hi : i.index < w.ids.length := Nat.lt_trans hij hj
    rw [List.getElem?_eq_getElem hi, List.getElem?_eq_getElem hj]
    exact List.pairwise_iff_getElem.1 h.sorted _ _ hi hj hij
  · have hj' : w.ids[j.index]? = none := List.getElem?_eq_none (Nat.le_of_not_lt hj)
    rw [hj', Option.getD_none]
    by_cases hi : i.index < w.ids.length
    · have hlt := h.lt_nextId _ (List.getElem_mem hi)
      rw [List.getElem?_eq_getElem hi, Option.getD_some]
      show (w.ids[i.index]).index < w.nextId + j.index
      omega
    · rw [List.getElem?_eq_none (Nat.le_of_not_lt hi), Option.getD_none]
      show w.nextId + i.index < w.nextId + j.index
      omega

/-- Different numbers stay different. -/
theorem numberOf_injective (h : w.Consistent) : Function.Injective w.numberOf := by
  intro i j heq
  rcases Nat.lt_trichotomy i.index j.index with hlt | hsame | hlt
  · have := numberOf_lt h hlt
    rw [heq] at this
    exact absurd this (Nat.lt_irrefl _)
  · cases i
    cases j
    exact congrArg DocumentId.mk hsame
  · have := numberOf_lt h hlt
    rw [heq] at this
    exact absurd this (Nat.lt_irrefl _)

/-- Counted through from zero, the numbers are those of the workspace. -/
theorem map_numberOf (w : Workspace) :
    ((List.range w.ids.length).map DocumentId.mk).map w.numberOf = w.ids := by
  refine List.ext_getElem (by simp) fun i hi hi' => ?_
  simp [numberOf, hi']

end Workspace

namespace Session

/-- Touching leaves documents, index and registry alone, and puts everything at the addresses out of
date. -/
theorem run_touch (uris : List String) (s : Session) :
    (s.run (uris.map .touch)).host.toSnapshot = s.host.toSnapshot ∧
      (∀ id ∈ s.host.dirty, id ∈ (s.run (uris.map .touch)).host.dirty) ∧
      ∀ uri ∈ uris, ∀ id, s.host.workspace.idOf? uri = some id →
        id ∈ (s.run (uris.map .touch)).host.dirty := by
  induction uris generalizing s with
  | nil => exact ⟨rfl, fun _ hid => hid, fun _ huri => by cases huri⟩
  | cons uri uris ih =>
    obtain ⟨hsnapshot, hdirty, htouched⟩ := ih (s.step (.touch uri))
    have hstep : (s.step (.touch uri)).host.toSnapshot = s.host.toSnapshot :=
      Host.toSnapshot_touchDocument s.host uri
    have hkept : ∀ id ∈ s.host.dirty, id ∈ (s.step (.touch uri)).host.dirty :=
      fun id hid => Host.mem_dirty_touchDocument hid
    refine ⟨hsnapshot.trans hstep, fun id hid => hdirty id (hkept id hid),
      fun uri' huri' id hid => ?_⟩
    rcases List.mem_cons.1 huri' with rfl | huri'
    · refine hdirty id ?_
      show id ∈ (s.host.touchDocument uri').2.dirty
      simp only [Host.touchDocument, hid]
      exact Host.mem_dirty_mark.2 (Or.inr rfl)
    · refine htouched uri' huri' id ?_
      rw [hstep]
      exact hid

/-- Setting documents leaves index and registry alone. -/
theorem run_set (documents : List Document) (s : Session) :
    (s.run (documents.map .set)).host.index = s.host.index ∧
      (s.run (documents.map .set)).host.registry = s.host.registry := by
  induction documents generalizing s with
  | nil => exact ⟨rfl, rfl⟩
  | cons d documents ih =>
    have hsnapshot : (s.step (.set d)).host.toSnapshot = _ := Host.toSnapshot_setDocument s.host d
    obtain ⟨hindex, hregistry⟩ := ih (s.step (.set d))
    rw [hsnapshot] at hindex hregistry
    exact ⟨hindex, hregistry⟩

/-- Documents at different new addresses get one number after another. -/
theorem ids_run_set {documents : List Document} (hnodup : (documents.map (·.uri)).Nodup)
    {s : Session} (hc : s.host.Consistent)
    (hnew : ∀ d ∈ documents, s.host.workspace.idOf? d.uri = none) :
    (s.run (documents.map .set)).host.workspace.ids = s.host.workspace.ids ++
      (List.range documents.length).map fun i => ⟨s.host.workspace.nextId + i⟩ := by
  induction documents generalizing s with
  | nil => simp
  | cons d documents ih =>
    obtain ⟨hnot, hnodup'⟩ := List.nodup_cons.1 hnodup
    have hnone := hnew d (List.mem_cons_self ..)
    have hinsert := Workspace.insert_of_idOf?_eq_none hnone
    have hworkspace : (s.step (.set d)).host.workspace = (s.host.workspace.insert d).2 :=
      congrArg Snapshot.workspace (Host.toSnapshot_setDocument s.host d)
    have hids : (s.step (.set d)).host.workspace.ids =
        s.host.workspace.ids ++ [⟨s.host.workspace.nextId⟩] := by
      rw [hworkspace, Workspace.ids_insert, hinsert, if_neg hc.workspace.nextId_notMem]
    have hnext : (s.step (.set d)).host.workspace.nextId = s.host.workspace.nextId + 1 := by
      rw [hworkspace, hinsert]
    have hnew' : ∀ e ∈ documents, (s.step (.set d)).host.workspace.idOf? e.uri = none := by
      intro e he
      have hne : e.uri ≠ d.uri := fun heq => hnot (List.mem_map.2 ⟨e, he, heq⟩)
      rw [hworkspace, hinsert]
      refine (Keyed.get?_insert_of_ne _ hne _).trans ?_
      exact hnew e (List.mem_cons_of_mem _ he)
    have hrest := ih hnodup' (consistent_step hc (.set d)) hnew'
    rw [List.map_cons, run_cons, hrest, hids, hnext, List.length_cons, List.range_succ_eq_map]
    simp [Function.comp_def, Nat.add_assoc, Nat.add_comm 1]

/-- The host of a session once the documents at some addresses were touched and all was built. -/
def settled (s : Session) (uris : List String) : Host :=
  ((s.run (uris.map .touch)).step .rebuild).host

/-- A new session in which one document after another was set. -/
def stocked (registry : Registry) (documents : List Document) : Session :=
  (start registry).run (documents.map .set)

/-- A new host that was given one document after another and built once. -/
def scratch (registry : Registry) (documents : List Document) : Host :=
  ((stocked registry documents).step .rebuild).host

section Stocked

variable {shelf : Shelf} (h : shelf.Tidy) (registry : Registry)
include h

/-- Setting what lies open on a tidy shelf is sound. -/
theorem sound_set : ∀ a ∈ shelf.opened.values.map Action.set, a.Sound := by
  intro a ha
  obtain ⟨d, hd, rfl⟩ := List.mem_map.1 ha
  obtain ⟨uri, hget⟩ := (Keyed.mem_values_iff h.nodup_keys).1 hd
  exact (h.opened uri d hget).2

/-- A new session can be given what lies open on a tidy shelf. -/
theorem reachable_stocked : (stocked registry shelf.opened.values).Reachable :=
  ⟨registry, _, sound_set h, rfl⟩

/-- It then has the same on its own shelf. -/
theorem shelf_stocked :
    (stocked registry shelf.opened.values).host.workspace.shelf = shelf.opened :=
  (congrArg Shelf.opened (shelf_run registry (sound_set h))).trans h.opened_run_set

/-- Its documents are counted through. -/
theorem ids_stocked : (stocked registry shelf.opened.values).host.workspace.ids =
    (List.range shelf.opened.values.length).map DocumentId.mk := by
  have hnodup : (shelf.opened.values.map (·.uri)).Nodup := by
    rw [h.map_uri_values]
    exact h.nodup_keys
  refine (ids_run_set hnodup (Host.consistent_new registry) fun _ _ => rfl).trans ?_
  show [] ++ (List.range _).map (fun i => DocumentId.mk (0 + i)) = _
  simp

end Stocked

/-- In a session in which documents were only set everything is out of date. -/
theorem mem_dirty_stocked {registry : Registry} {documents : List Document} {id : DocumentId}
    (hid : id ∈ (stocked registry documents).host.workspace.ids) :
    id ∈ (stocked registry documents).host.dirty := by
  refine (consistent_run registry (documents.map .set)).unexported_mem id hid ?_
  rw [(run_set documents (start registry)).1]
  exact List.not_mem_nil

/-- Once all documents are touched a session holds alike what a new one does to which the same was
given. -/
theorem alike_stocked {s : Session} (hs : s.Reachable) {shelf : Shelf} (h : shelf.Tidy)
    (hshelf : s.host.workspace.shelf = shelf.opened) {uris : List String}
    (htouched : ∀ d ∈ s.host.workspace.list, d.uri ∈ uris) :
    Host.Alike s.host.workspace.numberOf (stocked s.host.registry shelf.opened.values).host
      (s.run (uris.map .touch)).host := by
  obtain ⟨hc, -⟩ := hs.authored
  obtain ⟨hc', ha'⟩ := (reachable_stocked h s.host.registry).authored
  obtain ⟨hsnapshot, -, hmarked⟩ := run_touch uris s
  have hworkspace : (s.run (uris.map .touch)).host.workspace = s.host.workspace :=
    congrArg Snapshot.workspace hsnapshot
  have hlength : shelf.opened.values.length = s.host.workspace.ids.length := by
    rw [← hshelf, Workspace.values_shelf]
    simp [Keyed.values, Keyed.mapValues, Workspace.ids, Keyed.keys]
  have hids : s.host.workspace.ids =
      (stocked s.host.registry shelf.opened.values).host.workspace.ids.map
        s.host.workspace.numberOf := by
    rw [ids_stocked h, hlength, Workspace.map_numberOf]
  have hinjective := Workspace.numberOf_injective hc.workspace
  refine ⟨hinjective, hc', ?_, ha'.workspace, ?_, ?_, fun id => ?_, fun _ => mem_dirty_stocked,
    fun id hid => ?_⟩
  · exact run_induction (P := fun s => s.host.Consistent) (fun _ a h => consistent_step h a) hc _
  · have hregistry : (stocked s.host.registry shelf.opened.values).host.registry =
        s.host.registry := (run_set _ (start _)).2
    rw [hregistry]
    exact congrArg Snapshot.registry hsnapshot
  · rw [hworkspace]
    exact hids
  · -- The same values lie under corresponding keys, so the same is found under them.
    have hkeys : (s.host.workspace.documents.mapValues (·.asWritten)).keys =
        ((stocked s.host.registry shelf.opened.values).host.workspace.documents.mapValues
          (·.asWritten)).keys.map s.host.workspace.numberOf := by
      rw [Keyed.keys_mapValues, Keyed.keys_mapValues]
      exact hids
    have hvalues : (s.host.workspace.documents.mapValues (·.asWritten)).values =
        ((stocked s.host.registry shelf.opened.values).host.workspace.documents.mapValues
          (·.asWritten)).values := by
      rw [← Workspace.values_shelf, ← Workspace.values_shelf, hshelf, shelf_stocked h]
    have hget := Keyed.get?_of_keys_values hinjective hkeys hvalues id
    rw [Keyed.get?_mapValues, Keyed.get?_mapValues] at hget
    rw [hworkspace]
    exact hget
  · rw [hworkspace] at hid
    obtain ⟨d, hd⟩ := Workspace.exists_get?_of_mem_ids hid
    exact hmarked d.uri (htouched d (hc.workspace.mem_list_of_get? hd)) id (hc.workspace.idOf?_eq_some_iff.2 ⟨d, hd, rfl⟩)

/-- Whatever was done in a session, once all its documents have been touched and built its host is
the same as a new one that was given the final registry and, in their order, the documents as they
were written, and built once; only numbers differ, and they keep their order. -/
theorem settled_eq_scratch {registry : Registry} {actions : List Action}
    (hsound : ∀ a ∈ actions, a.Sound) {uris : List String}
    (htouched : ∀ d ∈ ((start registry).run actions).host.workspace.list, d.uri ∈ uris) :
    ∃ f : DocumentId → DocumentId, (∀ i j, i.index < j.index → (f i).index < (f j).index) ∧
      Host.SameUpTo f
        (scratch ((start registry).run actions).host.registry (Shelf.run actions).opened.values)
        (((start registry).run actions).settled uris) := by
  have hs : ((start registry).run actions).Reachable := ⟨registry, actions, hsound, rfl⟩
  have hshelf := congrArg Shelf.opened (shelf_run registry hsound)
  have halike := alike_stocked hs (Shelf.tidy_run hsound) hshelf htouched
  exact ⟨_, fun _ _ => Workspace.numberOf_lt hs.authored.1.workspace, halike.sameUpTo_rebuild⟩

/-- A session in which a document was taken out and put back ends like one in which it was set
last. -/
theorem settled_eq_scratch_restored :
    (∀ a ∈ restoredActions, a.Sound) ∧
      (∀ d ∈ restored.host.workspace.list, d.uri ∈ ["file:///shop/a.cm", "file:///shop/b.cm"]) ∧
      ∃ f : DocumentId → DocumentId, (∀ i j, i.index < j.index → (f i).index < (f j).index) ∧
        Host.SameUpTo f
          (scratch restored.host.registry
            [shopDocument "b.cm" "Order", shopDocument "a.cm" "Customer"])
          (restored.settled ["file:///shop/a.cm", "file:///shop/b.cm"]) := by
  have htouched : ∀ d ∈ restored.host.workspace.list,
      d.uri ∈ ["file:///shop/a.cm", "file:///shop/b.cm"] := by
    decide +kernel
  have hopened : (Shelf.run restoredActions).opened.values =
      [shopDocument "b.cm" "Order", shopDocument "a.cm" "Customer"] := by
    decide +kernel
  have hsame := settled_eq_scratch sound_restored htouched
  rw [hopened] at hsame
  exact ⟨sound_restored, htouched, hsame⟩

end Session

end ModelBinding
