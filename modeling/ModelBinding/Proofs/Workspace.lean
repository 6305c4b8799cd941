import ModelBinding.Proofs.Keyed
import ModelBinding.Workspace

/-!
# Consistent workspaces

A workspace keeps two maps, from numbers to documents and from addresses to numbers.
They list the same documents in the same order, numbers grow along it, and every number
still to come is larger. Setting, removing and changing documents keep all this.
-/

namespace ModelBinding.Workspace

/-- A number has no document exactly if it is not listed. -/
theorem get?_eq_none_iff (w : Workspace) (id : DocumentId) : w.get? id = none ↔ id ∉ w.ids :=
  Keyed.get?_eq_none_iff _ _

/-- A number that has a document is listed. -/
theorem mem_ids_of_get? {w : Workspace} {id : DocumentId} {d : Document} (h : w.get? id = some d) :
    id ∈ w.ids :=
  Keyed.mem_keys_of_get? h

/-- Every number that is listed has a document. -/
theorem exists_get?_of_mem_ids {w : Workspace} {id : DocumentId} (h : id ∈ w.ids) :
    ∃ d, w.get? id = some d :=
  Keyed.exists_get?_of_mem_keys h

/-- A document that is set at a known address takes the place of the old one. -/
theorem insert_of_idOf? {w : Workspace} {d : Document} {id : DocumentId}
    (h : w.idOf? d.uri = some id) :
    w.insert d = (id, { w with documents := w.documents.insert id { d with id } }) := by
  simp only [insert, h]

/-- A document that is set at a new address comes last, under the number still to come. -/
theorem insert_of_idOf?_eq_none {w : Workspace} {d : Document} (h : w.idOf? d.uri = none) :
    w.insert d = (⟨w.nextId⟩,
      { documents := w.documents.insert ⟨w.nextId⟩ { d with id := ⟨w.nextId⟩ }
        byUri := w.byUri.insert d.uri ⟨w.nextId⟩
        nextId := w.nextId + 1 }) := by
  simp only [insert, h]

/-- What is found after a document was set. -/
theorem get?_insert_eq (w : Workspace) (d : Document) (id : DocumentId) :
    (w.insert d).2.get? id =
      if id = (w.insert d).1 then some { d with id := (w.insert d).1 } else w.get? id := by
  unfold insert
  split <;> exact Keyed.get?_insert _ _ _ _

/-- A new number comes last. -/
theorem ids_insert (w : Workspace) (d : Document) :
    (w.insert d).2.ids =
      if (w.insert d).1 ∈ w.ids then w.ids else w.ids ++ [(w.insert d).1] := by
  unfold insert
  split <;> exact Keyed.keys_insert _ _ _

/-- What is found after a document was replaced under its number. -/
theorem get?_modify_const {w : Workspace} {id : DocumentId} {d : Document} (h : w.get? id = some d)
    (e : Document) (j : DocumentId) :
    (w.modify id fun _ => e).get? j = if j = id then some e else w.get? j := by
  refine (Keyed.get?_modify _ _ _ _).trans ?_
  split
  · subst ‹j = id›
    have h' : w.documents.get? j = some d := h
    rw [h', Option.map_some]
  · rfl

/-- The two maps of a workspace agree, and new numbers are new. -/
structure Consistent (w : Workspace) : Prop where
  /-- Every document knows its number. -/
  id_eq : ∀ id d, w.get? id = some d → d.id = id
  /-- The addresses are those of the documents, in the same order. -/
  byUri_eq : w.byUri.entries = (w.documents.mapValues (·.uri)).entries.map Prod.swap
  /-- No address occurs twice. -/
  nodup_uris : w.byUri.keys.Nodup
  /-- Numbers grow. -/
  sorted : w.ids.Pairwise fun i j => i.index < j.index
  /-- Numbers still to come are larger. -/
  lt_nextId : ∀ id ∈ w.ids, id.index < w.nextId

/-- The workspace without documents is consistent. -/
theorem consistent_empty : empty.Consistent where
  id_eq := by simp [get?, empty]
  byUri_eq := rfl
  nodup_uris := List.nodup_nil
  sorted := List.Pairwise.nil
  lt_nextId := by simp [ids, empty, Keyed.keys, Keyed.empty]

namespace Consistent

variable {w : Workspace} (h : w.Consistent)
include h

/-- No number occurs twice. -/
theorem nodup_ids : w.ids.Nodup := by
  refine h.sorted.imp fun hlt heq => ?_
  subst heq
  exact Nat.lt_irrefl _ hlt

/-- What is gathered number by number is gathered document by document. -/
theorem flatMap_ids {α : Type} {f : DocumentId → List α} {g : Document → List α}
    (hfg : ∀ id d, w.get? id = some d → f id = g d) : w.ids.flatMap f = w.list.flatMap g := by
  rw [ids, list, Keyed.keys, Keyed.values, List.flatMap_map, List.flatMap_map]
  refine List.flatMap_congr fun entry hentry => hfg entry.1 entry.2 ?_
  exact (Keyed.mem_entries_iff (h := h.nodup_ids)).1 hentry

/-- What is held under a number is listed. -/
theorem mem_list_of_get? {id : DocumentId} {d : Document} (hd : w.get? id = some d) : d ∈ w.list :=
  (Keyed.mem_values_iff h.nodup_ids).2 ⟨id, hd⟩

/-- Listed are the documents that are held under their own numbers. -/
theorem mem_list_iff {d : Document} : d ∈ w.list ↔ w.get? d.id = some d := by
  refine ⟨fun hlist => ?_, h.mem_list_of_get?⟩
  obtain ⟨id, hd⟩ := (Keyed.mem_values_iff h.nodup_ids).1 hlist
  rw [h.id_eq id d hd]
  exact hd

/-- The address of a number is that of its document. -/
theorem idOf?_eq_some_iff {uri : String} {id : DocumentId} :
    w.idOf? uri = some id ↔ ∃ d, w.get? id = some d ∧ d.uri = uri := by
  have hnodup : (w.documents.mapValues (·.uri)).keys.Nodup := by
    rw [Keyed.keys_mapValues]
    exact h.nodup_ids
  have hswap :
      (uri, id) ∈ w.byUri.entries ↔ (id, uri) ∈ (w.documents.mapValues (·.uri)).entries := by
    rw [h.byUri_eq, List.mem_map]
    constructor
    · rintro ⟨⟨id', uri'⟩, hmem, heq⟩
      cases heq
      exact hmem
    · exact fun hmem => ⟨(id, uri), hmem, rfl⟩
  rw [idOf?, ← Keyed.mem_entries_iff h.nodup_uris, hswap, Keyed.mem_entries_iff hnodup,
    Keyed.get?_mapValues, Option.map_eq_some_iff]
  rfl

/-- Where an address has a number, the number has a document. -/
theorem exists_of_idOf? {uri : String} {id : DocumentId} (hid : w.idOf? uri = some id) :
    ∃ d, w.get? id = some d ∧ d.uri = uri ∧ d.id = id := by
  obtain ⟨d, hd, huri⟩ := h.idOf?_eq_some_iff.1 hid
  exact ⟨d, hd, huri, h.id_eq id d hd⟩

/-- A document is found at its address. -/
theorem at?_of_get? {id : DocumentId} {d : Document} (hd : w.get? id = some d) :
    w.at? d.uri = some d := by
  rw [at?, h.idOf?_eq_some_iff.2 ⟨d, hd, rfl⟩, Option.bind_some, hd]

/-- A document is found at an address exactly if it is held under its number and is at that
address. -/
theorem at?_eq_some_iff {uri : String} {d : Document} :
    w.at? uri = some d ↔ w.get? d.id = some d ∧ d.uri = uri := by
  constructor
  · intro hd
    obtain ⟨id, hid, hget⟩ := Option.bind_eq_some_iff.1 hd
    obtain ⟨e, he, huri, heid⟩ := h.exists_of_idOf? hid
    cases hget.symm.trans he
    exact ⟨heid ▸ hget, huri⟩
  · rintro ⟨hget, rfl⟩
    exact h.at?_of_get? hget

/-- The number still to come has no document. -/
theorem nextId_notMem : (⟨w.nextId⟩ : DocumentId) ∉ w.ids := by
  intro hmem
  exact Nat.lt_irrefl _ (h.lt_nextId _ hmem)

/-- Two documents at one address are one. -/
theorem uri_injective {i j : DocumentId} {d e : Document} (hd : w.get? i = some d)
    (he : w.get? j = some e) (huri : d.uri = e.uri) : i = j := by
  have hi := h.idOf?_eq_some_iff.2 ⟨d, hd, rfl⟩
  have hj := h.idOf?_eq_some_iff.2 ⟨e, he, huri.symm⟩
  rw [hi] at hj
  exact Option.some.inj hj

/-- An entry of the documents is at an address exactly if it has the number found there. -/
theorem uri_eq_iff {uri : String} {id : DocumentId} (hid : w.idOf? uri = some id)
    {e : DocumentId × Document} (he : e ∈ w.documents.entries) : e.2.uri = uri ↔ e.1 = id := by
  obtain ⟨d, hd, huri, -⟩ := h.exists_of_idOf? hid
  have he' : w.get? e.1 = some e.2 := (Keyed.mem_entries_iff h.nodup_ids).1 he
  constructor
  · intro heq
    exact h.uri_injective he' hd (heq.trans huri.symm)
  · rintro rfl
    rw [he'] at hd
    rw [Option.some.inj hd, huri]

/-- Setting a document at a known address keeps a workspace consistent. -/
theorem insert_known {d : Document} {id : DocumentId} (hid : w.idOf? d.uri = some id) :
    (w.insert d).2.Consistent := by
  obtain ⟨old, hold, huri, -⟩ := h.exists_of_idOf? hid
  have hmem : id ∈ w.ids := mem_ids_of_get? hold
  have hfst : (w.insert d).1 = id := by rw [insert_of_idOf? hid]
  have hids : (w.insert d).2.ids = w.ids := by rw [ids_insert, hfst, if_pos hmem]
  have huris : (w.insert d).2.documents.mapValues (·.uri) = w.documents.mapValues (·.uri) := by
    refine Keyed.mapValues_congr hids h.nodup_ids fun k => ?_
    refine (congrArg (Option.map (·.uri)) (get?_insert_eq w d k)).trans ?_
    rw [hfst]
    split
    · subst ‹k = id›
      have hold' : w.documents.get? k = some old := hold
      rw [hold', Option.map_some, Option.map_some, huri]
    · rfl
  refine ⟨fun k e hk => ?_, ?_, ?_, hids ▸ h.sorted, fun k hk => ?_⟩
  · rw [get?_insert_eq] at hk
    split at hk
    · cases hk
      exact Eq.symm ‹k = _›
    · exact h.id_eq k e hk
  · rw [huris, insert_of_idOf? hid]
    exact h.byUri_eq
  · rw [insert_of_idOf? hid]
    exact h.nodup_uris
  · rw [insert_of_idOf? hid]
    exact h.lt_nextId k (hids ▸ hk)

/-- Setting a document at a new address keeps a workspace consistent. -/
theorem insert_new {d : Document} (hid : w.idOf? d.uri = none) : (w.insert d).2.Consistent := by
  have hnew := h.nextId_notMem
  have hnewUri : d.uri ∉ w.byUri.keys := (Keyed.get?_eq_none_iff _ _).1 hid
  have hfst : (w.insert d).1 = ⟨w.nextId⟩ := by rw [insert_of_idOf?_eq_none hid]
  have hids : (w.insert d).2.ids = w.ids ++ [⟨w.nextId⟩] := by rw [ids_insert, hfst, if_neg hnew]
  refine ⟨fun k e hk => ?_, ?_, ?_, ?_, fun k hk => ?_⟩
  · rw [get?_insert_eq] at hk
    split at hk
    · cases hk
      exact Eq.symm ‹k = _›
    · exact h.id_eq k e hk
  · have hnew' : (⟨w.nextId⟩ : DocumentId) ∉ (w.documents.mapValues (·.uri)).keys := by
      rw [Keyed.keys_mapValues]
      exact hnew
    rw [insert_of_idOf?_eq_none hid, Keyed.mapValues_insert, Keyed.entries_insert_of_notMem hnewUri,
      Keyed.entries_insert_of_notMem hnew', List.map_append, h.byUri_eq]
    rfl
  · rw [insert_of_idOf?_eq_none hid]
    exact Keyed.nodup_keys_insert h.nodup_uris _ _
  · rw [hids]
    refine List.pairwise_append.2 ⟨h.sorted, List.pairwise_singleton _ _, fun i hi j hj => ?_⟩
    rw [List.mem_singleton.1 hj]
    exact h.lt_nextId i hi
  · rw [insert_of_idOf?_eq_none hid]
    rw [hids] at hk
    rcases List.mem_append.1 hk with hk | hk
    · exact Nat.lt_succ_of_lt (h.lt_nextId k hk)
    · rw [List.mem_singleton.1 hk]
      exact Nat.lt_succ_self _

/-- Setting a document keeps a workspace consistent. -/
theorem insert (d : Document) : (w.insert d).2.Consistent := by
  cases hid : w.idOf? d.uri with
  | some id => exact h.insert_known hid
  | none => exact h.insert_new hid

/-- Taking out a document keeps a workspace consistent. -/
theorem remove (uri : String) : (w.remove uri).2.Consistent := by
  unfold Workspace.remove
  cases hid : w.idOf? uri with
  | none => exact h
  | some id =>
    have hids : (w.documents.erase id).keys = w.ids.filter (· ≠ id) := Keyed.keys_erase _ _
    refine ⟨fun k e hk => ?_, ?_, Keyed.nodup_keys_erase h.nodup_uris _, ?_, fun k hk => ?_⟩
    · have hk' : (w.documents.erase id).get? k = some e := hk
      rw [Keyed.get?_erase] at hk'
      split at hk'
      · cases hk'
      · exact h.id_eq k e hk'
    · show w.byUri.entries.filter _ = ((w.documents.erase id).mapValues _).entries.map _
      rw [h.byUri_eq, List.filter_map]
      refine congrArg (List.map Prod.swap) ?_
      show (w.documents.entries.map _).filter _ = (w.documents.entries.filter _).map _
      rw [List.filter_map]
      refine congrArg (List.map _) (List.filter_congr fun e he => ?_)
      simpa using h.uri_eq_iff hid he
    · show (Keyed.keys _).Pairwise _
      rw [hids]
      exact h.sorted.filter _
    · have hk' : k ∈ w.ids.filter (· ≠ id) := hids ▸ hk
      exact h.lt_nextId k (List.mem_filter.1 hk').1

/-- Changing documents but for their numbers and addresses keeps a workspace consistent. -/
theorem of_get? {w' : Workspace} (hbyUri : w'.byUri = w.byUri) (hnext : w'.nextId = w.nextId)
    (hids : w'.ids = w.ids)
    (hget : ∀ id, (w'.get? id).map (fun d => (d.id, d.uri)) =
      (w.get? id).map fun d => (d.id, d.uri)) : w'.Consistent where
  id_eq := by
    intro id d hd
    have hd' := hget id
    rw [hd] at hd'
    obtain ⟨old, hold, heq⟩ := Option.map_eq_some_iff.1 hd'.symm
    obtain ⟨hid, -⟩ := Prod.mk.inj heq
    rw [← hid]
    exact h.id_eq id old hold
  byUri_eq := by
    have huris : w'.documents.mapValues (·.uri) = w.documents.mapValues (·.uri) := by
      refine Keyed.mapValues_congr hids h.nodup_ids fun id => ?_
      have hid := congrArg (Option.map Prod.snd) (hget id)
      simpa [Function.comp_def, get?] using hid
    rw [hbyUri, huris]
    exact h.byUri_eq
  nodup_uris := hbyUri ▸ h.nodup_uris
  sorted := hids ▸ h.sorted
  lt_nextId := by
    rw [hids, hnext]
    exact h.lt_nextId

/-- Changing one document but for its number and address keeps a workspace consistent. -/
theorem modify {id : DocumentId} {f : Document → Document}
    (hf : ∀ d, w.get? id = some d → (f d).id = d.id ∧ (f d).uri = d.uri) :
    (w.modify id f).Consistent := by
  refine h.of_get? rfl rfl (by simp) fun k => ?_
  show ((w.documents.modify id f).get? k).map _ = _
  rw [Keyed.get?_modify]
  split
  · subst ‹k = id›
    cases hd : w.get? k with
    | none =>
      have hd' : w.documents.get? k = none := hd
      simp [hd']
    | some d =>
      obtain ⟨hid, huri⟩ := hf d hd
      have hd' : w.documents.get? k = some d := hd
      simp [hd', hid, huri]
  · rfl

/-- Forgetting what references mean keeps a workspace consistent. -/
theorem resetReferences : w.resetReferences.Consistent := by
  refine h.of_get? rfl rfl (by simp) fun k => ?_
  show ((w.documents.mapValues _).get? k).map _ = _
  rw [Keyed.get?_mapValues, Option.map_map]
  rfl

end Consistent

end ModelBinding.Workspace
