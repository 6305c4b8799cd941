import ModelBinding.Proofs.Origin

/-!
# The shelf of a session

What a session does to its documents can be told without hosts, numbers and builds: a
shelf holds the documents as their authors wrote them, those that are open under their
addresses and those that were taken out in turn. A session always has on its shelf what
this telling gives (`shelf_run`), in the same order; and what sound actions leave open
can be set anew, document by document (`Shelf.Tidy.opened_run_set`).
-/

namespace ModelBinding

/-- Documents as their authors wrote them. -/
structure Shelf where
  /-- Those that are open, in the order in which their addresses arrived. -/
  opened : Keyed String Document := .empty
  /-- Those that were taken out, in turn. -/
  removed : List Document := []

namespace Shelf

/-- The shelf after an action. -/
def step (s : Shelf) : Action → Shelf
  | .set document => { s with opened := s.opened.insert document.uri document }
  | .restore turn =>
    match s.removed[turn]? with
    | none => s
    | some document => { s with opened := s.opened.insert document.uri document }
  | .remove uri =>
    { opened := s.opened.erase uri, removed := s.removed ++ (s.opened.get? uri).toList }
  | .touch _ | .setRegistry _ | .rebuild | .resolveReference .. | .link _ | .consult _ => s

/-- The shelf after a sequence of actions, starting from an empty one. -/
def run (actions : List Action) : Shelf := actions.foldl step {}

/-- Everything on the shelf is as its author wrote it and lies at its own address. -/
structure Tidy (s : Shelf) : Prop where
  /-- No address occurs twice. -/
  nodup_keys : s.opened.keys.Nodup
  /-- Open documents lie at their own addresses, as their authors wrote them. -/
  opened : ∀ uri d, s.opened.get? uri = some d → d.uri = uri ∧ d.Drafted
  /-- So are those that were taken out. -/
  removed : ∀ d ∈ s.removed, d.Drafted

/-- Putting a document at its address leaves a shelf tidy. -/
theorem Tidy.insert {s : Shelf} (h : s.Tidy) {d : Document} (hd : d.Drafted) :
    Tidy { s with opened := s.opened.insert d.uri d } where
  nodup_keys := Keyed.nodup_keys_insert h.nodup_keys d.uri d
  opened := by
    intro uri e he
    rw [Keyed.get?_insert] at he
    split at he
    · cases he
      exact ⟨Eq.symm ‹uri = d.uri›, hd⟩
    · exact h.opened uri e he
  removed := h.removed

/-- A sound action leaves a shelf tidy. -/
theorem Tidy.step {s : Shelf} (h : s.Tidy) {a : Action} (ha : a.Sound) : (s.step a).Tidy := by
  cases a with
  | set document => exact h.insert ha
  | restore turn =>
    cases hd : s.removed[turn]? with
    | none =>
      simp only [Shelf.step, hd]
      exact h
    | some d =>
      simp only [Shelf.step, hd]
      exact h.insert (h.removed d (List.mem_of_getElem? hd))
  | remove uri =>
    refine ⟨Keyed.nodup_keys_erase h.nodup_keys uri, fun uri' d hd => ?_, fun d hd => ?_⟩
    · replace hd : (s.opened.erase uri).get? uri' = some d := hd
      rw [Keyed.get?_erase] at hd
      split at hd
      · cases hd
      · exact h.opened uri' d hd
    · rcases List.mem_append.1 hd with hd | hd
      · exact h.removed d hd
      · exact (h.opened uri d (Option.mem_toList.1 hd)).2
  | touch | setRegistry | rebuild | resolveReference | link | consult => exact h

/-- Sound actions lead to a tidy shelf. -/
theorem tidy_run {actions : List Action} (hsound : ∀ a ∈ actions, a.Sound) :
    (run actions).Tidy := by
  have hall : ∀ (actions : List Action) (s : Shelf), (∀ a ∈ actions, a.Sound) → s.Tidy →
      (actions.foldl step s).Tidy := by
    intro actions
    induction actions with
    | nil => exact fun _ _ h => h
    | cons a actions ih =>
      intro s hsound h
      exact ih (s.step a) (fun b hb => hsound b (List.mem_cons_of_mem _ hb))
        (h.step (hsound a (List.mem_cons_self ..)))
  refine hall actions {} hsound ⟨List.nodup_nil, fun uri d hd => ?_, fun d hd => ?_⟩
  · cases hd
  · cases hd

/-- Open documents, in order, with their addresses. -/
theorem Tidy.entries_eq {s : Shelf} (h : s.Tidy) :
    s.opened.entries = s.opened.values.map fun d => (d.uri, d) := by
  rw [Keyed.values, List.map_map]
  conv_lhs => rw [← List.map_id' s.opened.entries]
  refine List.map_congr_left fun e he => ?_
  have huri := (h.opened e.1 e.2 ((Keyed.mem_entries_iff h.nodup_keys).1 he)).1
  exact Prod.ext huri.symm rfl

/-- Open documents lie at their own addresses, in order. -/
theorem Tidy.map_uri_values {s : Shelf} (h : s.Tidy) :
    s.opened.values.map (·.uri) = s.opened.keys := by
  rw [Keyed.keys, h.entries_eq, List.map_map]
  rfl

/-- Setting documents with new addresses puts them on the shelf one after another. -/
theorem foldl_step_set {documents : List Document} (hnodup : (documents.map (·.uri)).Nodup)
    {s : Shelf} (hnew : ∀ d ∈ documents, d.uri ∉ s.opened.keys) :
    ((documents.map Action.set).foldl step s).opened.entries =
      s.opened.entries ++ documents.map fun d => (d.uri, d) := by
  induction documents generalizing s with
  | nil => simp
  | cons d documents ih =>
    obtain ⟨hnot, hnodup'⟩ := List.nodup_cons.1 hnodup
    have hentries := Keyed.entries_insert_of_notMem (hnew d (List.mem_cons_self ..)) d
    have hnew' : ∀ e ∈ documents, e.uri ∉ (s.step (.set d)).opened.keys := by
      intro e he hmem
      replace hmem : e.uri ∈ (s.opened.insert d.uri d).entries.map (·.1) := hmem
      rw [hentries, List.map_append, List.mem_append] at hmem
      rcases hmem with hmem | hmem
      · exact hnew e (List.mem_cons_of_mem _ he) hmem
      · have heq : e.uri = d.uri := List.mem_singleton.1 hmem
        exact hnot (List.mem_map.2 ⟨e, he, heq⟩)
    rw [List.map_cons, List.foldl_cons, ih hnodup' hnew']
    show (s.opened.insert d.uri d).entries ++ _ = _
    rw [hentries, List.append_assoc]
    rfl

/-- Setting on an empty shelf what lies open on a tidy one gives the same shelf. -/
theorem Tidy.opened_run_set {s : Shelf} (h : s.Tidy) :
    (run (s.opened.values.map .set)).opened = s.opened := by
  have hnodup : (s.opened.values.map (·.uri)).Nodup := by
    rw [h.map_uri_values]
    exact h.nodup_keys
  refine Keyed.eq_of_entries ?_
  rw [h.entries_eq]
  exact foldl_step_set hnodup fun d _ => List.not_mem_nil

end Shelf

/-- What lies open in a workspace. -/
def Workspace.shelf (w : Workspace) : Keyed String Document :=
  ⟨w.list.map fun d => (d.uri, d.asWritten)⟩

/-- The shelf of a session. -/
def Session.shelf (s : Session) : Shelf :=
  ⟨s.host.workspace.shelf, s.removed.map (·.asWritten)⟩

namespace Workspace

/-- The shelf of a workspace, entry by entry. -/
theorem entries_shelf (w : Workspace) :
    w.shelf.entries = w.documents.entries.map fun e => (e.2.uri, e.2.asWritten) := by
  simp [shelf, list, Keyed.values]

/-- What was written is what lies on the shelf. -/
theorem values_shelf (w : Workspace) :
    w.shelf.values = (w.documents.mapValues (·.asWritten)).values := by
  simp [Keyed.values, entries_shelf, Keyed.mapValues, Function.comp_def]

/-- Workspaces with the same documents, as written, have the same shelf. -/
theorem shelf_congr {w w' : Workspace} (hids : w'.ids = w.ids) (hnodup : w.ids.Nodup)
    (hwritten : ∀ id, w'.written? id = w.written? id) : w'.shelf = w.shelf := by
  have hsame := Keyed.mapValues_congr hids hnodup hwritten
  have hentries : ∀ v : Workspace, v.shelf.entries =
      (v.documents.mapValues (·.asWritten)).entries.map fun e => (e.2.uri, e.2) := by
    intro v
    rw [entries_shelf]
    simp only [Keyed.mapValues, List.map_map]
    rfl
  exact Keyed.eq_of_entries (by rw [hentries w', hentries w, hsame])

variable {w : Workspace} (h : w.Consistent)
include h

/-- The shelf lists the addresses of the workspace. -/
theorem keys_shelf : w.shelf.keys = w.byUri.keys := by
  rw [Keyed.keys, entries_shelf, Keyed.keys, h.byUri_eq]
  simp [Keyed.mapValues, Function.comp_def]

/-- Nothing lies at an address on the shelf exactly if the address has no number. -/
theorem mem_keys_shelf_iff {uri : String} : uri ∈ w.shelf.keys ↔ (w.idOf? uri).isSome := by
  rw [keys_shelf h, idOf?, Keyed.get?_isSome_iff_mem_keys]

/-- Setting a document puts on the shelf what was written. -/
theorem shelf_insert (d : Document) : (w.insert d).2.shelf = w.shelf.insert d.uri d.asWritten := by
  have hnodup : w.shelf.keys.Nodup := by
    rw [keys_shelf h]
    exact h.nodup_uris
  cases hid : w.idOf? d.uri with
  | some id =>
    obtain ⟨old, hold, -, -⟩ := h.exists_of_idOf? hid
    have hmem : d.uri ∈ w.shelf.keys := by
      rw [mem_keys_shelf_iff h, hid]
      rfl
    have hentries := Keyed.entries_insert_of_mem h.nodup_ids (Keyed.mem_keys_of_get? hold)
      { d with id }
    refine Keyed.eq_of_entries ?_
    rw [Keyed.entries_insert_of_mem hnodup hmem, entries_shelf, entries_shelf,
      insert_of_idOf? hid, hentries, List.map_map, List.map_map]
    refine List.map_congr_left fun e he => ?_
    have hiff := h.uri_eq_iff hid he
    by_cases hk : e.1 = id
    · simp [hk, hiff.2 hk]
    · have huri : ¬ e.2.uri = d.uri := fun huri => hk (hiff.1 huri)
      simp [hk, huri]
  | none =>
    have hnew : d.uri ∉ w.shelf.keys := by
      rw [mem_keys_shelf_iff h, hid]
      simp
    have hentries := Keyed.entries_insert_of_notMem h.nextId_notMem { d with id := ⟨w.nextId⟩ }
    refine Keyed.eq_of_entries ?_
    rw [Keyed.entries_insert_of_notMem hnew, entries_shelf, entries_shelf,
      insert_of_idOf?_eq_none hid, hentries, List.map_append]
    rfl

/-- Taking out a document takes it off the shelf. -/
theorem shelf_remove (uri : String) : (w.remove uri).2.shelf = w.shelf.erase uri := by
  refine Keyed.eq_of_entries ?_
  show (w.remove uri).2.shelf.entries = w.shelf.entries.filter _
  cases hid : w.idOf? uri with
  | some id =>
    have hremove : (w.remove uri).2.documents = w.documents.erase id := by
      simp only [remove, hid]
    rw [entries_shelf, entries_shelf, hremove, List.filter_map]
    refine congrArg (List.map _) (List.filter_congr fun e he => ?_)
    simpa using (h.uri_eq_iff hid he).symm
  | none =>
    have hremove : (w.remove uri).2 = w := by
      simp only [remove, hid]
    have hnot : uri ∉ w.shelf.keys := by
      rw [mem_keys_shelf_iff h, hid]
      simp
    rw [hremove]
    refine (List.filter_eq_self.2 fun e he => ?_).symm
    have hne : e.1 ≠ uri := fun heq => hnot (heq ▸ List.mem_map_of_mem he)
    simpa using hne

/-- What lies at an address is what its document was written as. -/
theorem get?_shelf (uri : String) : w.shelf.get? uri = (w.at? uri).map (·.asWritten) := by
  have hnodup : w.shelf.keys.Nodup := by
    rw [keys_shelf h]
    exact h.nodup_uris
  cases hid : w.idOf? uri with
  | some id =>
    obtain ⟨d, hd, huri, -⟩ := h.exists_of_idOf? hid
    rw [at?, hid, Option.bind_some, hd, Option.map_some, ← Keyed.mem_entries_iff hnodup,
      entries_shelf]
    refine List.mem_map.2 ⟨(id, d), (Keyed.mem_entries_iff h.nodup_ids).2 hd, ?_⟩
    rw [huri]
  | none =>
    have hnot : uri ∉ w.shelf.keys := by
      rw [mem_keys_shelf_iff h, hid]
      simp
    rw [at?, hid, (Keyed.get?_eq_none_iff _ _).2 hnot]
    rfl

end Workspace

namespace Session

/-- A sound action does to the shelf of a session what the telling says. -/
theorem shelf_step {s : Session} (hc : s.host.Consistent) (ha : s.Authored) {a : Action}
    (hsound : a.Sound) : (s.step a).shelf = s.shelf.step a := by
  have hset := Workspace.shelf_insert hc.workspace
  have hrebuild : s.host.rebuild.workspace.shelf = s.host.workspace.shelf :=
    Workspace.shelf_congr s.host.frame_rebuild.1 hc.workspace.nodup_ids
      (Host.written_rebuild hc ha.workspace)
  have hlookUp : ∀ t : Snapshot, s.host.rebuild.toSnapshot.Read t →
      t.workspace.shelf = s.host.workspace.shelf := by
    intro t hread
    have ht := hread.resetReferences_eq hc.rebuild.workspace.nodup_ids
    rw [← hrebuild]
    exact Workspace.shelf_congr (Snapshot.ids_eq_of_resetReferences_eq ht)
      hc.rebuild.workspace.nodup_ids (Snapshot.written_of_resetReferences ht)
  cases a with
  | set document =>
    have hplain := Document.Drafted.plain hsound
    simp [Session.step, Shelf.step, Session.shelf, withHost, hset, hplain.asWritten_eq]
  | restore turn =>
    cases hd : s.removed[turn]? with
    | none => simp [Session.step, Shelf.step, Session.shelf, hd]
    | some d =>
      have huri : d.asWritten.uri = d.uri := rfl
      simp [Session.step, Shelf.step, Session.shelf, hd, withHost, hset, huri]
  | remove uri =>
    have hget := Workspace.get?_shelf hc.workspace uri
    have hremove := Workspace.shelf_remove hc.workspace uri
    cases hid : s.host.workspace.idOf? uri with
    | none =>
      simp only [Workspace.remove, hid] at hremove
      simp [Session.step, Shelf.step, Session.shelf, Host.removeDocument_of_idOf?_eq_none hid, hget,
        Workspace.at?, hid, ← hremove]
    | some id =>
      obtain ⟨d, hd, -, heq⟩ := hc.workspace.exists_of_idOf? hid
      simp [Session.step, Shelf.step, Session.shelf, Host.removeDocument_of_idOf? hid hd heq, hget,
        Workspace.at?, hid, hd, hremove]
  | touch uri => simp [Session.step, Shelf.step, Session.shelf, withHost]
  | setRegistry registry => simp [Session.step, Shelf.step, Session.shelf, withHost]
  | rebuild => exact congrArg (Shelf.mk · _) (hlookUp _ .refl)
  | resolveReference ptr property index =>
    exact congrArg (Shelf.mk · _) (hlookUp _ (.resolveReference .refl ptr property index))
  | link uri => exact congrArg (Shelf.mk · _) (hlookUp _ (Snapshot.read_link _ uri))
  | consult kind => rfl

/-- A session has on its shelf what the telling of its actions gives. -/
theorem shelf_run (registry : Registry) {actions : List Action}
    (hsound : ∀ a ∈ actions, a.Sound) :
    ((start registry).run actions).shelf = Shelf.run actions := by
  have hrun : ∀ (actions : List Action) (s : Session), (∀ a ∈ actions, a.Sound) →
      s.host.Consistent → s.Authored →
      (s.run actions).shelf = actions.foldl Shelf.step s.shelf := by
    intro actions
    induction actions with
    | nil => exact fun _ _ _ _ => rfl
    | cons a actions ih =>
      intro s hsound hc ha
      have hsound' := hsound a (List.mem_cons_self ..)
      rw [run_cons, List.foldl_cons, ← shelf_step hc ha hsound']
      exact ih (s.step a) (fun b hb => hsound b (List.mem_cons_of_mem _ hb)) (consistent_step hc a)
        (ha.step hc hsound')
  obtain ⟨hc, ha⟩ := (reachable_start registry).authored
  exact hrun actions (start registry) hsound hc ha

end Session

end ModelBinding
