import ModelBinding.Proofs.Host

/-!
# Where documents come from

Documents are set, or put back as they were taken out, and from then on only builds and
look-ups touch them. So what is known of all documents that are set is known of all
documents of a session, if it is one of the properties that builds keep
(`Document.Lasting`, `all_step`). One of them is to be what some author wrote with what
builds added. Neither a rebuild nor a look-up changes what was written
(`written_rebuild`, `written_of_resetReferences`).
-/

namespace ModelBinding

/-- What was written at a number. -/
def Workspace.written? (w : Workspace) (id : DocumentId) : Option Document :=
  (w.get? id).map (·.asWritten)

/-- Every document is what was written with what builds added. -/
def Workspace.Authored (w : Workspace) : Prop := ∀ id d, w.get? id = some d → d.asWritten.Plain

/-- Every document that is open or was taken out is what was written with what builds added. -/
structure Session.Authored (s : Session) : Prop where
  /-- The open documents. -/
  workspace : s.host.workspace.Authored
  /-- The documents that were taken out. -/
  removed : ∀ d ∈ s.removed, d.asWritten.Plain

/-- What a build that resolves with `r` makes of a document. -/
def Document.builtWith (d : Document) (r : Resolver) : Derivation :=
  (r.plan (d.prepare r.registry)).apply r.registry (d.prepare r.registry)
    ((d.prepare r.registry).localTables r.registry)

/-- A property of documents that depends neither on numbers nor on what references remember, and
that builds keep. -/
structure Document.Lasting (ok : Document → Prop) : Prop where
  /-- Another number keeps it. -/
  withId : ∀ d id, ok d → ok { d with id }
  /-- Looking up references keeps it. -/
  congr : ∀ d e, e.resetReferences = d.resetReferences → ok d → ok e
  /-- A build keeps it. -/
  builtWith : ∀ d r, ok d → ok (d.builtWith r).document

/-- A build does not change what was written. -/
theorem Document.asWritten_builtWith {d : Document} (h : d.parsedLen ≤ d.size) (r : Resolver) :
    (d.builtWith r).document.asWritten = d.asWritten := by
  have hprepared := Nat.le_of_eq (d.parsedLen_prepare r.registry h)
  rw [builtWith, DerivationPlan.asWritten_apply _ hprepared, asWritten_prepare]

/-- To have been written by an author lasts. -/
theorem Document.lasting_plain : Lasting fun d => d.asWritten.Plain where
  withId _ _ h := h
  congr _ _ heq h := asWritten_congr heq ▸ h
  builtWith d r h := d.asWritten_builtWith h.parsedLen_le_size r ▸ h

/-- The property of every document lasts. -/
theorem Document.lasting_true : Lasting fun _ => True :=
  ⟨fun _ _ h => h, fun _ _ _ h => h, fun _ _ h => h⟩

/-- All documents of a workspace have a property. -/
def Workspace.All (ok : Document → Prop) (w : Workspace) : Prop :=
  ∀ id d, w.get? id = some d → ok d

/-- Whatever document an action sets has a property. -/
def Action.Sets (ok : Document → Prop) (a : Action) : Prop := ∀ d, a = .set d → ok d

namespace Snapshot

/-- What a rebuild makes of a document that is out of date, it makes with the resolver that the
exports of all these documents give. -/
theorem rebuilt_eq (s : Snapshot) (ids : List DocumentId) (d : Document) :
    s.rebuilt ids d = d.builtWith (s.exportAll ids).resolver := by
  have hregistry : (s.exportAll ids).resolver.registry = s.registry :=
    registry_exportAll s ids
  rw [rebuilt, Document.builtWith, hregistry]

/-- Where parts differ at most in what references remember, so do the documents. -/
theorem exists_get?_of_reset_eq {s t : Snapshot} {id : DocumentId}
    (hpart : (t.part id).reset = (s.part id).reset) {d : Document}
    (hd : t.workspace.get? id = some d) :
    ∃ e, s.workspace.get? id = some e ∧ d.resetReferences = e.resetReferences := by
  have hreset : (t.workspace.get? id).map (·.resetReferences) =
      (s.workspace.get? id).map (·.resetReferences) := congrArg Part.document hpart
  rw [hd, Option.map_some] at hreset
  obtain ⟨e, he, heq⟩ := Option.map_eq_some_iff.1 hreset.symm
  exact ⟨e, he, heq.symm⟩

/-- Look-ups do not change what was written. -/
theorem written_of_resetReferences {s t : Snapshot} (h : t.resetReferences = s.resetReferences)
    (id : DocumentId) : t.workspace.written? id = s.workspace.written? id := by
  have hget := congrArg (Option.map (·.asWritten)) (get?_of_resetReferences_eq h id)
  simpa [Workspace.written?, Option.map_map, Function.comp_def] using hget

end Snapshot

namespace Host

variable {h : Host} (hh : h.Consistent)
include hh

/-- What a rebuild makes of a document that is out of date. -/
theorem part_rebuild_of_mem {id : DocumentId} (hid : id ∈ h.dirty) {d : Document}
    (hd : h.workspace.get? id = some d) :
    h.rebuild.part id = ⟨some (h.rebuilt h.dirty d).document.resetReferences,
      some ((d.prepare h.registry).exports h.registry), some (h.rebuilt h.dirty d).tables⟩ := by
  rw [rebuild_of_isDirty (isDirty_of_mem hid)]
  exact Snapshot.part_build_of_mem hh.workspace hh.nodup_dirty hid hd

/-- What a rebuild does to a document that is not out of date: its references may be forgotten. -/
theorem part_rebuild_of_notMem {id : DocumentId} (hid : id ∉ h.dirty) :
    (h.rebuild.part id).reset = (h.part id).reset := by
  cases hclean : h.isDirty with
  | true =>
    rw [rebuild_of_isDirty hclean]
    have hpart := Snapshot.part_build_of_notMem hh.workspace hh.nodup_dirty hid
    refine (congrArg Part.reset hpart).trans ?_
    simp [Part.reset, Function.comp_def]
  | false => rw [rebuild_of_not_isDirty hclean]

/-- A rebuild does not change what was written. -/
theorem written_rebuild (ha : h.workspace.Authored) (id : DocumentId) :
    h.rebuild.workspace.written? id = h.workspace.written? id := by
  by_cases hid : id ∈ h.dirty
  · obtain ⟨d, hd⟩ := Workspace.exists_get?_of_mem_ids (hh.dirty_mem id hid)
    have hpart := congrArg Part.document (part_rebuild_of_mem hh hid hd)
    have hget : h.rebuild.workspace.get? id =
        some (h.rebuilt h.dirty d).document.resetReferences := hpart
    rw [Workspace.written?, Workspace.written?, hget, hd, Option.map_some, Option.map_some,
      Document.asWritten_resetReferences, Snapshot.rebuilt_eq,
      Document.asWritten_builtWith (ha id d hd).parsedLen_le_size]
  · have hpart := congrArg Part.document (part_rebuild_of_notMem hh hid)
    have hget := congrArg (Option.map (·.asWritten)) hpart
    simpa [Workspace.written?, Part.reset, Snapshot.part, Function.comp_def] using hget

/-- A rebuild makes documents with a lasting property of such documents. -/
theorem all_rebuild {ok : Document → Prop} (hok : Document.Lasting ok)
    (ha : h.workspace.All ok) : h.rebuild.workspace.All ok := by
  intro id d hd
  by_cases hid : id ∈ h.dirty
  · obtain ⟨e, he⟩ := Workspace.exists_get?_of_mem_ids (hh.dirty_mem id hid)
    have hpart := congrArg Part.document (part_rebuild_of_mem hh hid he)
    have hget : some d = some (h.rebuilt h.dirty e).document.resetReferences :=
      hd.symm.trans hpart
    rw [Option.some.inj hget, Snapshot.rebuilt_eq]
    exact hok.congr _ _ (Document.resetReferences_resetReferences _)
      (hok.builtWith e _ (ha id e he))
  · obtain ⟨e, he, heq⟩ := Snapshot.exists_get?_of_reset_eq (part_rebuild_of_notMem hh hid) hd
    exact hok.congr e d heq (ha id e he)

end Host

/-- Sound actions set documents as their authors wrote them. -/
theorem Action.Sound.sets_plain {a : Action} (h : a.Sound) : a.Sets fun d => d.asWritten.Plain := by
  rintro d rfl
  have hplain := Document.Drafted.plain h
  exact hplain.asWritten_eq.symm ▸ hplain

namespace Session

/-- Where an action leaves a document that is not out of date, it has left alone one that was not,
or has brought up to date what was out of date; the registry is the same. -/
theorem part_step {s : Session} (hc : s.host.Consistent) (a : Action) {id : DocumentId}
    (hid : id ∈ (s.step a).host.workspace.ids) (hclean : id ∉ (s.step a).host.dirty) :
    (s.step a).host.registry = s.host.registry ∧
      ((id ∈ s.host.workspace.ids ∧ id ∉ s.host.dirty ∧
          ((s.step a).host.part id).reset = (s.host.part id).reset) ∨
        (id ∈ s.host.rebuild.workspace.ids ∧
          ((s.step a).host.part id).reset = (s.host.rebuild.part id).reset)) := by
  have hmove := move_step hc a
  generalize s.step a = s' at hmove hid hclean ⊢
  cases hmove with
  | idle => exact ⟨rfl, Or.inl ⟨hid, hclean, rfl⟩⟩
  | set d =>
    have hsnapshot := Host.toSnapshot_setDocument s.host d
    have hclean' : ¬ (id ∈ s.host.dirty ∨ id = (s.host.workspace.insert d).1) :=
      fun hmem => hclean (Host.mem_dirty_setDocument.2 hmem)
    obtain ⟨hold, hne⟩ := not_or.1 hclean'
    replace hid : id ∈ (s.host.setDocument d).2.toSnapshot.workspace.ids := hid
    rw [hsnapshot] at hid
    refine ⟨(congrArg Snapshot.registry hsnapshot :), Or.inl ⟨?_, hold, ?_⟩⟩
    · replace hid : id ∈ (s.host.workspace.insert d).2.ids := hid
      rw [Workspace.ids_insert] at hid
      split at hid
      · exact hid
      · simpa [hne] using hid
    · exact congrArg Part.reset (s.host.part_setDocument d hne)
  | remove uri j d hj hd heq =>
    have hpart := Host.part_removeDocument (j := id) hj hd heq
    simp only [Host.removeDocument_of_idOf? hj hd heq] at hpart hid hclean ⊢
    rw [Host.ids_remove hj, List.mem_filter, decide_eq_true_eq] at hid
    obtain ⟨hid, hne⟩ := hid
    refine ⟨trivial, Or.inl ⟨hid, fun hmem => hclean ?_, congrArg Part.reset (hpart hne)⟩⟩
    exact List.mem_filter.2 ⟨hmem, by simpa using hne⟩
  | touch uri =>
    have hsnapshot := Host.toSnapshot_touchDocument s.host uri
    refine ⟨congrArg Snapshot.registry hsnapshot, Or.inl ⟨?_, fun hmem => ?_, ?_⟩⟩
    · replace hid : id ∈ (s.host.touchDocument uri).2.toSnapshot.workspace.ids := hid
      rw [hsnapshot] at hid
      exact hid
    · exact hclean (Host.mem_dirty_touchDocument hmem)
    · exact congrArg (fun t : Snapshot => (t.part id).reset) hsnapshot
  | setRegistry registry =>
    obtain ⟨d, hd⟩ := Workspace.exists_get?_of_mem_ids hid
    exact absurd (Host.mem_dirty_setRegistry_of_get? hd) hclean
  | lookUp t hread =>
    have ht := hread.resetReferences_eq hc.rebuild.workspace.nodup_ids
    have hindex : t.index = s.host.rebuild.index := (congrArg Snapshot.index ht :)
    have hregistry : t.registry = s.host.rebuild.registry := (congrArg Snapshot.registry ht :)
    have hids := Snapshot.ids_eq_of_resetReferences_eq ht
    refine ⟨hregistry.trans s.host.frame_rebuild.2.2.2, Or.inr ⟨hids ▸ hid, ?_⟩⟩
    show (t.part id).reset = _
    simp only [Part.reset, Snapshot.part, hindex, Snapshot.get?_of_resetReferences_eq ht id]
  | consult kind => exact ⟨rfl, Or.inl ⟨hid, hclean, rfl⟩⟩

/-- An action that sets no document without a lasting property keeps it of all documents. -/
theorem all_step {ok : Document → Prop} (hok : Document.Lasting ok) {s : Session}
    (hc : s.host.Consistent) (hworkspace : s.host.workspace.All ok)
    (hremoved : ∀ d ∈ s.removed, ok d) {a : Action} (ha : a.Sets ok) :
    (s.step a).host.workspace.All ok ∧ ∀ d ∈ (s.step a).removed, ok d := by
  have hrebuilt := Host.all_rebuild hc hok hworkspace
  have hmove := move_step hc a
  generalize s.step a = s' at hmove ⊢
  cases hmove with
  | idle => exact ⟨hworkspace, hremoved⟩
  | set d horigin =>
    have hd : ok d := horigin.elim (fun heq => ha d heq) (hremoved d)
    refine ⟨fun id e he => ?_, hremoved⟩
    replace he : (s.host.setDocument d).2.toSnapshot.workspace.get? id = some e := he
    rw [Host.toSnapshot_setDocument, Workspace.get?_insert_eq] at he
    split at he
    · cases he
      exact hok.withId d _ hd
    · exact hworkspace id e he
  | remove uri id d hid hd heq =>
    simp only [Host.removeDocument_of_idOf? hid hd heq]
    refine ⟨fun j e he => ?_, fun e he => ?_⟩
    · simp only [Workspace.remove, hid, Workspace.get?, Keyed.get?_erase] at he
      split at he
      · cases he
      · exact hworkspace j e he
    · rcases List.mem_append.1 he with he | he
      · exact hremoved e he
      · rw [List.mem_singleton.1 he]
        exact hworkspace id d hd
  | touch uri =>
    refine ⟨?_, hremoved⟩
    show (s.host.touchDocument uri).2.workspace.All ok
    rw [Host.toSnapshot_touchDocument]
    exact hworkspace
  | setRegistry registry =>
    refine ⟨?_, hremoved⟩
    show (s.host.setRegistry registry).workspace.All ok
    rw [Host.toSnapshot_setRegistry]
    exact hworkspace
  | lookUp t hread =>
    refine ⟨fun id d hd => ?_, hremoved⟩
    have ht := hread.resetReferences_eq hc.rebuild.workspace.nodup_ids
    have hget := Snapshot.get?_of_resetReferences_eq ht id
    replace hd : t.workspace.get? id = some d := hd
    rw [hd, Option.map_some] at hget
    obtain ⟨e, he, heq⟩ := Option.map_eq_some_iff.1 hget.symm
    exact hok.congr e d heq.symm (hrebuilt id e he)
  | consult kind => exact ⟨hworkspace, hremoved⟩

/-- A sound action leaves a session authored. -/
theorem Authored.step {s : Session} (h : s.Authored) (hc : s.host.Consistent) {a : Action}
    (ha : a.Sound) : (s.step a).Authored := by
  obtain ⟨hworkspace, hremoved⟩ :=
    all_step Document.lasting_plain hc h.workspace h.removed ha.sets_plain
  exact ⟨hworkspace, hremoved⟩

/-- Drafts that stand under the root or under drafts before them make a document that can be set. -/
theorem drafted_ofDrafts {uri : String} {drafts : List (NodeId × Draft)}
    (h : ∀ place ∈ drafts.zipIdx, place.1.1.index ≤ place.2) :
    (Document.ofDrafts uri drafts).Drafted :=
  ⟨uri, drafts, fun i draft hi => h (draft, i) (List.mk_mem_zipIdx_iff_getElem?.2 hi), rfl⟩

/-- Drafts that all stand under the root make a document that can be set. -/
theorem drafted_flat (uri : String) (drafts : List Draft) :
    (Document.ofDrafts uri (drafts.map fun draft => (.root, draft))).Drafted := by
  refine ⟨uri, _, fun i draft hi => ?_, rfl⟩
  rw [List.getElem?_map] at hi
  obtain ⟨draft', -, rfl⟩ := Option.map_eq_some_iff.1 hi
  exact Nat.zero_le i

/-- What every sound action keeps, in sessions that are consistent and authored, holds of all
reachable sessions. -/
theorem reachable_induction {P : Session → Prop} (hstart : ∀ registry, P (start registry))
    (hstep : ∀ s a, s.host.Consistent → s.Authored → a.Sound → P s → P (s.step a)) {s : Session}
    (hs : s.Reachable) : s.host.Consistent ∧ s.Authored ∧ P s := by
  obtain ⟨registry, actions, hsound, rfl⟩ := hs
  have hauthored : (start registry).Authored :=
    ⟨fun id d hd => (by cases hd), fun d hd => (by cases hd)⟩
  refine run_induction_of (P := fun s => s.host.Consistent ∧ s.Authored ∧ P s) (fun s a ha h => ?_)
    ⟨Host.consistent_new registry, hauthored, hstart registry⟩ hsound
  obtain ⟨hc, hauthored, hp⟩ := h
  exact ⟨consistent_step hc a, hauthored.step hc ha, hstep s a hc hauthored ha hp⟩

/-- Reachable sessions are consistent and authored. -/
theorem Reachable.authored {s : Session} (hs : s.Reachable) : s.host.Consistent ∧ s.Authored := by
  obtain ⟨hc, ha, -⟩ := reachable_induction (P := fun _ => True) (fun _ => trivial)
    (fun _ _ _ _ _ _ => trivial) hs
  exact ⟨hc, ha⟩

/-- A registry with one data model. -/
def shopRegistry : Registry :=
  { models := [{ id := ⟨"shop"⟩, referenceName := "shop", root := "file:///shop" }] }

/-- A document of that data model with one entity. -/
def shopDocument (file entity : String) : Document :=
  .ofDrafts ("file:///shop/" ++ file)
    (List.map (fun draft => (NodeId.root, draft)) [{ kind := .logicalEntity, id := some entity }])

/-- A document is built, taken out and put back. -/
def restoredActions : List Action :=
  [.set (shopDocument "a.cm" "Customer"), .set (shopDocument "b.cm" "Order"), .rebuild,
    .remove "file:///shop/a.cm", .restore 0]

/-- These actions are sound. -/
theorem sound_restored : ∀ a ∈ restoredActions, a.Sound := by
  intro a ha
  simp only [restoredActions, List.mem_cons, List.not_mem_nil, or_false] at ha
  rcases ha with rfl | rfl | rfl | rfl | rfl
  · exact drafted_flat _ _
  · exact drafted_flat _ _
  all_goals trivial

/-- A session in which a document was built, taken out and put back. -/
def restored : Session := (start shopRegistry).run restoredActions

/-- That session is one of those that statements about sessions speak of. -/
theorem reachable_restored : restored.Reachable := ⟨_, _, sound_restored, rfl⟩

end Session

end ModelBinding
