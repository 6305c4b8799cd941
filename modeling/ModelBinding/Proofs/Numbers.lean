import ModelBinding.Proofs.Host

/-!
# The numbers a session gives out

A workspace gives a number to every address at which a document is set for the first
time, or for the first time after one was taken out there. The numbers of a whole
session, in the order in which it gives them, count up from zero
(`Workspace.Numbered`), so none is given twice, to whatever address. The books of a
host are in order at every moment of a session, whether it is up to date or not
(`Session.orderly_run`).
-/

namespace ModelBinding

/-- The two maps of the workspace, the index and the list of what is out of date fit together. -/
structure Host.Orderly (h : Host) : Prop where
  /-- An address has a number exactly if the document of the number is at the address. -/
  idOf?_iff : ∀ uri id,
    h.workspace.idOf? uri = some id ↔ ∃ d, h.workspace.get? id = some d ∧ d.uri = uri
  /-- Every document knows the number under which it is found. -/
  id_eq : ∀ id d, h.workspace.get? id = some d → d.id = id
  /-- Numbers grow in the order of the workspace. -/
  growing : h.workspace.ids.Pairwise fun i j => i.index < j.index
  /-- What is out of date is open. -/
  open_of_dirty : ∀ id ∈ h.dirty, id ∈ h.workspace.ids
  /-- What has exports is open. -/
  open_of_exports : ∀ id, (h.index.exports.get? id).isSome → id ∈ h.workspace.ids
  /-- What has container tables is open. -/
  open_of_locals : ∀ id, (h.index.locals? id).isSome → id ∈ h.workspace.ids
  /-- What is open and not out of date has exports and container tables. -/
  indexed : ∀ id ∈ h.workspace.ids, id ∉ h.dirty →
    (h.index.exports.get? id).isSome ∧ (h.index.locals? id).isSome

/-- Taking out a document takes it out of the workspace. -/
theorem Host.workspace_removeDocument (h : Host) (uri : String) :
    (h.removeDocument uri).2.workspace = (h.workspace.remove uri).2 := by
  unfold removeDocument
  split <;> simp_all

/-- The books of a consistent host are in order. -/
theorem Host.Consistent.orderly {h : Host} (hh : h.Consistent) : h.Orderly where
  idOf?_iff _ _ := hh.workspace.idOf?_eq_some_iff
  id_eq := hh.workspace.id_eq
  growing := hh.workspace.sorted
  open_of_dirty := hh.dirty_mem
  open_of_exports id hid := by
    rw [Keyed.get?_isSome_iff_mem_keys] at hid
    exact hh.exports_prefix.subset hid
  open_of_locals id hid := by
    rw [Index.locals?, Keyed.get?_isSome_iff_mem_keys, hh.locals_keys] at hid
    exact hh.exports_prefix.subset hid
  indexed id hid hclean := by
    have hmem : id ∈ h.index.exports.keys := by
      by_contra hnot
      exact hclean (hh.unexported_mem id hid hnot)
    rw [Index.locals?, Keyed.get?_isSome_iff_mem_keys, Keyed.get?_isSome_iff_mem_keys,
      hh.locals_keys]
    exact ⟨hmem, hmem⟩

namespace Workspace

/-- The address of a document with the number it gets when it is set there, unless the address has
a number already. -/
def grant? (w : Workspace) (d : Document) : Option (String × DocumentId) :=
  match w.idOf? d.uri with
  | some _ => none
  | none => some (d.uri, (w.insert d).1)

/-- The workspace has given out these numbers, to these addresses and in this order. -/
structure Numbered (w : Workspace) (given : List (String × DocumentId)) : Prop where
  /-- The numbers count up from zero. -/
  indices_eq : given.map (·.2.index) = List.range given.length
  /-- The number still to come is the next one. -/
  nextId_eq : w.nextId = given.length
  /-- An open address has a number that was given to it. -/
  mem_given : ∀ uri id, w.idOf? uri = some id → (uri, id) ∈ given

/-- The workspace without documents has given out no numbers. -/
theorem numbered_empty : empty.Numbered [] where
  indices_eq := rfl
  nextId_eq := rfl
  mem_given := by simp [idOf?, empty]

namespace Numbered

variable {w : Workspace} {given : List (String × DocumentId)} (h : w.Numbered given)
include h

/-- What gives out no number and opens no address. -/
theorem of_idOf? {w' : Workspace} (hnext : w'.nextId = w.nextId)
    (hold : ∀ uri id, w'.idOf? uri = some id → w.idOf? uri = some id) : w'.Numbered given where
  indices_eq := h.indices_eq
  nextId_eq := hnext.trans h.nextId_eq
  mem_given uri id hid := h.mem_given uri id (hold uri id hid)

/-- What leaves addresses and the number still to come alone. -/
theorem of_frame {w' : Workspace} (hbyUri : w'.byUri = w.byUri) (hnext : w'.nextId = w.nextId) :
    w'.Numbered given := by
  refine h.of_idOf? hnext fun uri id hid => ?_
  rw [idOf?, hbyUri] at hid
  exact hid

/-- Setting a document gives out the number it is granted, if it is granted one. -/
theorem insert (d : Document) : (w.insert d).2.Numbered (given ++ (w.grant? d).toList) := by
  cases hid : w.idOf? d.uri with
  | some id =>
    simp only [grant?, hid, Option.toList_none, List.append_nil, insert_of_idOf? hid]
    exact h.of_frame rfl rfl
  | none =>
    simp only [grant?, hid, insert_of_idOf?_eq_none hid, Option.toList_some]
    refine ⟨?_, ?_, fun uri id hopen => ?_⟩
    · rw [List.map_append, h.indices_eq, List.length_append, List.length_singleton,
        List.range_succ, List.map_singleton, h.nextId_eq]
    · rw [List.length_append, List.length_singleton, h.nextId_eq]
    · simp only [idOf?, Keyed.get?_insert] at hopen
      split at hopen
      · rename_i huri
        cases hopen
        exact List.mem_append_right _ (List.mem_singleton.2 (huri ▸ rfl))
      · exact List.mem_append_left _ (h.mem_given uri id hopen)

/-- Taking out a document gives out no number. -/
theorem remove (uri : String) : (w.remove uri).2.Numbered given := by
  unfold Workspace.remove
  split
  · exact h
  · refine h.of_idOf? rfl fun uri' id hopen => ?_
    simp only [idOf?, Keyed.get?_erase] at hopen
    split at hopen
    · cases hopen
    · exact hopen

/-- Every number that was given out is larger than those given out before it. -/
theorem pairwise_lt : given.Pairwise fun g g' => g.2.index < g'.2.index := by
  have hrange := h.indices_eq ▸ List.pairwise_lt_range (n := given.length)
  exact List.pairwise_map.1 hrange

/-- Every number that was given out is smaller than how many were. -/
theorem index_lt {g : String × DocumentId} (hg : g ∈ given) : g.2.index < given.length := by
  have hmem : g.2.index ∈ given.map (·.2.index) := List.mem_map_of_mem hg
  rw [h.indices_eq] at hmem
  exact List.mem_range.1 hmem

end Numbered

end Workspace

namespace Session

/-- The document that an action sets, if it sets one. -/
def document? (s : Session) : Action → Option Document
  | .set d => some d
  | .restore turn => s.removed[turn]?
  | _ => none

/-- The number that an action gives out, with the address it gives it to. -/
def grant? (s : Session) (a : Action) : Option (String × DocumentId) :=
  (s.document? a).bind s.host.workspace.grant?

/-- The numbers that a sequence of actions gives out, in order. -/
def grants (s : Session) : List Action → List (String × DocumentId)
  | [] => []
  | a :: actions => (s.grant? a).toList ++ (s.step a).grants actions

variable {s : Session} {given : List (String × DocumentId)}

/-- An action that sets a document gives out the number the document is granted. -/
theorem numbered_set (h : s.host.workspace.Numbered given) (d : Document) :
    (s.host.setDocument d).2.workspace.Numbered
      (given ++ (s.host.workspace.grant? d).toList) := by
  rw [congrArg Snapshot.workspace (Host.toSnapshot_setDocument s.host d)]
  exact h.insert d

/-- A rebuild and look-ups after it give out no number. -/
theorem numbered_read (hc : s.host.Consistent) (h : s.host.workspace.Numbered given) {t : Snapshot}
    (hread : s.host.rebuild.toSnapshot.Read t) : t.workspace.Numbered given := by
  obtain ⟨-, hbyUri, hnext, -⟩ := s.host.frame_rebuild
  have hsame := hread.resetReferences_eq hc.rebuild.workspace.nodup_ids
  have hbyUri' : t.workspace.byUri = s.host.rebuild.workspace.byUri :=
    congrArg (·.workspace.byUri) hsame
  have hnext' : t.workspace.nextId = s.host.rebuild.workspace.nextId :=
    congrArg (·.workspace.nextId) hsame
  exact h.of_frame (hbyUri'.trans hbyUri) (hnext'.trans hnext)

/-- An action that sets no document need give out no number. -/
theorem numbered_of_document?_eq_none {a : Action} (ha : s.document? a = none)
    (h : (s.step a).host.workspace.Numbered given) :
    (s.step a).host.workspace.Numbered (given ++ (s.grant? a).toList) := by
  rw [grant?, ha, Option.bind_none, Option.toList_none, List.append_nil]
  exact h

/-- Every action gives out the number it is said to give out and no other. -/
theorem numbered_step (hc : s.host.Consistent) (h : s.host.workspace.Numbered given) (a : Action) :
    (s.step a).host.workspace.Numbered (given ++ (s.grant? a).toList) := by
  cases a with
  | set d => exact numbered_set h d
  | restore turn =>
    cases hd : s.removed[turn]? with
    | none =>
      refine numbered_of_document?_eq_none hd ?_
      simp only [step, hd]
      exact h
    | some d =>
      simp only [step, grant?, document?, hd, Option.bind_some]
      exact numbered_set h d
  | remove uri =>
    refine numbered_of_document?_eq_none rfl ?_
    simp only [step, Host.workspace_removeDocument]
    exact h.remove uri
  | touch uri =>
    refine numbered_of_document?_eq_none rfl ?_
    simp only [step, withHost, Host.toSnapshot_touchDocument]
    exact h
  | setRegistry registry =>
    refine numbered_of_document?_eq_none rfl ?_
    simp only [step, withHost, Host.toSnapshot_setRegistry]
    exact h
  | rebuild => exact numbered_of_document?_eq_none rfl (numbered_read hc h .refl)
  | resolveReference ptr p i =>
    exact numbered_of_document?_eq_none rfl
      (numbered_read hc h (.resolveReference .refl ptr p i))
  | link uri =>
    exact numbered_of_document?_eq_none rfl (numbered_read hc h (Snapshot.read_link _ uri))
  | consult kind => exact numbered_of_document?_eq_none rfl h

/-- A sequence of actions gives out the numbers it is said to give out and no others. -/
theorem numbered_run (hc : s.host.Consistent) (h : s.host.workspace.Numbered given)
    (actions : List Action) :
    (s.run actions).host.workspace.Numbered (given ++ s.grants actions) := by
  induction actions generalizing s given with
  | nil => simpa [grants] using h
  | cons a actions ih =>
    rw [run_cons, grants, ← List.append_assoc]
    exact ih (consistent_step hc a) (numbered_step hc h a)

/-- At every moment of a session that has given out fewer than 2³² - 1 numbers the books of its host
are in order. Every open document has a number that was given to its address; every number is larger
than those given out before it, whatever was taken out in between, so it is given once and to one
address; and all are smaller than the number of a document that was never set. -/
theorem orderly_run {registry : Registry} {actions : List Action}
    (hfew : ((start registry).grants actions).length < 4294967295) :
    ((start registry).run actions).host.Orderly ∧
      (∀ uri id, ((start registry).run actions).host.workspace.idOf? uri = some id →
        (uri, id) ∈ (start registry).grants actions) ∧
      ((start registry).grants actions).Pairwise (fun g g' => g.2.index < g'.2.index) ∧
      ∀ g ∈ (start registry).grants actions, g.2.index < DocumentId.unassigned.index := by
  have hc : (start registry).host.Consistent := Host.consistent_new registry
  have hnumbered := numbered_run hc Workspace.numbered_empty actions
  rw [List.nil_append] at hnumbered
  refine ⟨(consistent_run registry actions).orderly, hnumbered.mem_given, hnumbered.pairwise_lt,
    fun g hg => Nat.lt_trans (hnumbered.index_lt hg) hfew⟩

/-- A document is taken out, another one is set, and the first one is put back. -/
def reopenings : List Action :=
  [.set (.ofDrafts "file:///a.cm" []), .remove "file:///a.cm",
    .set (.ofDrafts "file:///b.cm" []), .restore 0, .set (.ofDrafts "file:///b.cm" [])]

/-- The address that was taken out gets a third number and stands last; the books are in order. -/
theorem orderly_run_reopenings :
    (start {}).grants reopenings =
        [("file:///a.cm", ⟨0⟩), ("file:///b.cm", ⟨1⟩), ("file:///a.cm", ⟨2⟩)] ∧
      ((start {}).run reopenings).host.workspace.ids = [⟨1⟩, ⟨2⟩] ∧
      ((start {}).run reopenings).host.Orderly ∧
      ∀ g ∈ (start {}).grants reopenings, g.2.index < DocumentId.unassigned.index := by
  have hgrants : (start {}).grants reopenings =
      [("file:///a.cm", ⟨0⟩), ("file:///b.cm", ⟨1⟩), ("file:///a.cm", ⟨2⟩)] := by
    decide +kernel
  have hfew : ((start {}).grants reopenings).length < 4294967295 := by
    rw [hgrants]
    decide
  obtain ⟨horderly, -, -, hlt⟩ := orderly_run hfew
  exact ⟨hgrants, by decide +kernel, horderly, hlt⟩

end Session

end ModelBinding
