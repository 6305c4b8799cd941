import ModelBinding.Proofs.BuiltTree
import ModelBinding.Proofs.Coherence
import ModelBinding.Proofs.Hanging
import ModelBinding.Proofs.Moved
import ModelBinding.Proofs.Planned

/-!
# Settled documents

Plans are made before any copy is there, but nothing that a build appends changes what is
planned. So a document that a rebuild has made is what a build that resolves with the
rebuilt snapshot would make of it again (`Host.settled_rebuild`), and it stays so as long
as references are only looked up (`Session.settled_of_asks`). Of such a document it is
known which nodes were written and which are the copies of its plan.
-/

namespace ModelBinding

/-- A resolver holds for a document what a build that resolves with it makes of another one. -/
structure Resolver.Settles (r : Resolver) (d e : Document) : Prop where
  /-- The other one is well formed. -/
  wellFormed : e.WellFormed
  /-- It was built from drafts. -/
  drafted : e.asWritten.Drafted
  /-- It has the same number. -/
  id_eq : e.id = d.id
  /-- The document is what the build makes of it. -/
  document_eq : d.resetReferences = (e.builtWith r).document.resetReferences
  /-- So are its container tables. -/
  tables_eq : r.index.localsOf d.id = (e.builtWith r).tables

/-- Building the document of a number again would change nothing but what references remember. -/
def Snapshot.Settled (s : Snapshot) (id : DocumentId) : Prop :=
  ∀ d, s.workspace.get? id = some d → ∃ e, s.resolver.Settles d e

/-- The copies that a build which resolves with `r` appends. -/
def Document.copiesWith (e : Document) (r : Resolver) : List (NodeId × Node) :=
  (r.plan (e.prepare r.registry)).copies

/-- Where the plans are the same, so is what builds make of a document. -/
theorem Document.builtWith_congr {e : Document} {r t : Resolver} (hregistry : t.registry = r.registry)
    (hplan : t.plan (e.prepare r.registry) = r.plan (e.prepare r.registry)) :
    e.builtWith t = e.builtWith r := by
  rw [builtWith, builtWith, hregistry, hplan]

namespace Resolver.Settles

open ModelBinding.Derivation

variable {r : Resolver} {d e : Document} (h : r.Settles d e)
include h

theorem planned : Planned r (e.prepare r.registry) (e.builtWith r) :=
  h.wellFormed.planned_builtWith r

/-- Both documents were written alike. -/
theorem asWritten_eq : d.asWritten = e.asWritten := by
  rw [Document.asWritten_congr h.document_eq, e.asWritten_builtWith h.wellFormed.parsedLen_le]

/-- What was written is what the build began with. -/
theorem size_prepare : (e.prepare r.registry).size = d.asWritten.size := by
  rw [h.asWritten_eq, ← e.asWritten_prepare r.registry, Document.asWritten, Document.size_bare,
    Document.dropDerived_prepare]

theorem uri_eq : d.uri = e.uri := by
  have huri := congrArg Document.uri h.document_eq
  exact huri.trans h.planned.copied.uri_eq

/-- As much is written as was. -/
theorem parsedLen_eq : d.parsedLen = d.asWritten.size := by
  have hlen := congrArg Document.parsedLen h.document_eq
  rw [← h.size_prepare, ← h.planned.parsedLen_eq]
  exact hlen.trans h.planned.copied.parsedLen_eq

/-- Every copy takes one place behind what was written. -/
theorem size_eq : d.size = d.asWritten.size + (e.copiesWith r).length := by
  rw [(Document.alike_of_resetReferences_eq h.document_eq).size, h.planned.copied.size_eq,
    h.size_prepare]
  rfl

theorem isTree : d.IsTree :=
  (h.wellFormed.isTree_builtWith r).of_resetReferences_eq h.document_eq

/-- What was written is a tree. -/
theorem isTree_asWritten : d.asWritten.IsTree := h.asWritten_eq ▸ h.wellFormed.tree

/-- No build had touched what was written. -/
theorem plain : d.asWritten.Plain := h.asWritten_eq ▸ h.drafted.plain

section Places

variable {n : NodeId}

private theorem detached?_eq (n : NodeId) :
    d.detached? n = (e.builtWith r).document.detached? n := by
  have hnode := congrArg (fun d : Document => (d.node? n).map (·.detached)) h.document_eq
  simpa [Document.detached?, Function.comp_def] using hnode

/-- What was written stands where it stood. -/
theorem detached?_of_lt (hn : n.index < d.asWritten.size) :
    d.detached? n = d.asWritten.detached? n := by
  have hlt : n.index < (e.prepare r.registry).size := h.size_prepare ▸ hn
  rw [h.detached?_eq, Document.detached?, h.planned.copied.map_node?_old (fun _ _ => rfl) hlt,
    h.asWritten_eq]
  exact e.detached?_prepare r.registry n

theorem parent?_of_lt (hn : n.index < d.asWritten.size) :
    d.parent? n = d.asWritten.parent? n := by
  have halike := Document.alike_of_resetReferences_eq h.document_eq
  rw [halike.parent?, h.planned.copied.parent?_old (h.size_prepare ▸ hn), h.asWritten_eq,
    Document.parent?_prepare]

/-- A node that was written contains what it contained and then the copies for it. -/
theorem children_of_lt (hn : n.index < d.asWritten.size) :
    d.children n =
      d.asWritten.children n ++ copyPlaces d.asWritten.size (e.copiesWith r) n := by
  have halike := Document.alike_of_resetReferences_eq h.document_eq
  rw [halike.children, h.planned.children_old (h.size_prepare ▸ hn), h.size_prepare,
    Document.children_prepare, h.asWritten_eq]
  rfl

/-- Of a kind that no derived attribute has a node that was written contains what it contained. -/
theorem childrenOfKind_of_lt (hn : n.index < d.asWritten.size) {k : NodeKind}
    (hk : k.isDerivedAttribute = false) :
    d.childrenOfKind n k = d.asWritten.childrenOfKind n k := by
  have halike := Document.alike_of_resetReferences_eq h.document_eq
  have hgrown := e.grownTo_builtWith r
  have hkind : ∀ c, (e.prepare r.registry).kind? c = e.asWritten.kind? c := fun c =>
    Document.kind?_of_detached? (e.detached?_prepare r.registry c)
  rw [halike.childrenOfKind, hgrown.childrenOfKind hk (h.size_prepare ▸ hn), h.asWritten_eq]
  simp only [Document.childrenOfKind, Document.children_prepare, hkind]

variable {i : Nat} {c : NodeId × Node} (hc : (e.copiesWith r)[i]? = some c)
include hc

private theorem exists_node?_add : ∃ g, ((e.builtWith r).document.node? ⟨d.asWritten.size + i⟩) =
    some { c.2 with parent := some c.1, globalId := g } := by
  have hnode := h.planned.copied.node?_new i c hc
  rwa [h.size_prepare] at hnode

/-- Behind what was written stand the copies, in order. -/
theorem detached?_add : d.detached? ⟨d.asWritten.size + i⟩ = some c.2.detached := by
  obtain ⟨g, hg⟩ := h.exists_node?_add hc
  rw [h.detached?_eq, Document.detached?, hg]
  rfl

/-- Each is inside the node that it is for. -/
theorem parent?_add : d.parent? ⟨d.asWritten.size + i⟩ = some c.1 := by
  have halike := Document.alike_of_resetReferences_eq h.document_eq
  obtain ⟨g, hg⟩ := h.exists_node?_add hc
  rw [halike.parent?, Document.parent?, hg]
  rfl

/-- A copy contains nothing. -/
theorem children_add : d.children ⟨d.asWritten.size + i⟩ = [] := by
  have halike := Document.alike_of_resetReferences_eq h.document_eq
  obtain ⟨g, hg⟩ := h.exists_node?_add hc
  obtain ⟨_, _, _, _, -, -, hcopy⟩ :=
    Resolver.exists_derive_of_mem_copies_plan (List.mem_of_getElem? hc)
  rw [halike.children, Document.children, hg, hcopy]
  rfl

end Places

/-- The tables are those of what was written, with the entries for the copies behind them. -/
theorem entries_eq : (r.index.localsOf d.id).entries =
    ((e.prepare r.registry).localTables r.registry).entries ++
      ((e.copiesWith r).zipIdx d.asWritten.size).flatMap fun c =>
        copyEntries r.registry (e.prepare r.registry) c.1 ⟨c.2⟩ := by
  rw [h.tables_eq, h.planned.copied.tables_eq, ← h.size_prepare]
  rfl

/-- Those entries say nothing of kinds that no derived attribute has. -/
theorem ofKind_tableOf {k : NodeKind} (hk : k.isSubtypeOf .logicalAttribute = false) (n : NodeId) :
    Description.ofKind k (r.tableOf d n) =
      Description.ofKind k (((e.prepare r.registry).localTables r.registry).table n) := by
  obtain ⟨more, hmore, hkinds⟩ := e.tables_builtWith r
  have hnil : Description.ofKind k ((LocalTables.mk more).table n) = [] := by
    refine Index.ofKind_eq_nil fun x hx => ?_
    obtain ⟨entry, hentry, rfl⟩ := List.mem_map.1 hx
    exact NodeKind.isSubtypeOf_eq_false_of_isDerivedAttribute
      (hkinds entry (List.mem_filter.1 hentry).1).2.2.1 hk
  rw [Resolver.tableOf, h.tables_eq, hmore, LocalTables.table_append, Description.ofKind_append,
    hnil, List.append_nil]

end Resolver.Settles

namespace Host

variable {h : Host}

/-- What a rebuild makes of a document that was out of date is settled. -/
theorem settled_rebuild (hh : h.Consistent)
    (hall : h.workspace.All fun d => d.WellFormed ∧ d.asWritten.Drafted) {id : DocumentId}
    (hid : id ∈ h.dirty) : h.rebuild.toSnapshot.Settled id := by
  intro d hd
  obtain ⟨e, he⟩ := Workspace.exists_get?_of_mem_ids (hh.dirty_mem id hid)
  have hpart := part_rebuild_of_mem hh hid he
  have hgrown := grownTo_rebuild hh
  have hregistry : (h.exportAll h.dirty).resolver.registry = h.registry :=
    Snapshot.registry_exportAll h.toSnapshot h.dirty
  have hexported : (h.exportAll h.dirty).resolver.document? (e.prepare h.registry).id =
      some (e.prepare h.registry) := by
    rw [Document.id_prepare, hh.workspace.id_eq id e he]
    exact congrArg Part.document (Snapshot.part_exportAll_of_mem hid he)
  -- What was planned before the copies were there is what is planned now.
  have hbuilt : e.builtWith h.rebuild.resolver = h.rebuilt h.dirty e := by
    rw [Snapshot.rebuilt_eq]
    refine Document.builtWith_congr hgrown.registry ?_
    rw [hregistry]
    exact hgrown.plan hexported
  have hdocument : h.rebuild.workspace.get? id =
      some (h.rebuilt h.dirty e).document.resetReferences := congrArg Part.document hpart
  have htables : h.rebuild.index.locals? id = some (h.rebuilt h.dirty e).tables :=
    congrArg Part.tables hpart
  have hreset : d.resetReferences = (e.builtWith h.rebuild.resolver).document.resetReferences := by
    rw [hbuilt, Option.some.inj (hd.symm.trans hdocument),
      Document.resetReferences_resetReferences]
  have hids : d.id = id := hh.rebuild.workspace.id_eq id d hd
  refine ⟨e, (hall id e he).1, (hall id e he).2, ?_, hreset, ?_⟩
  · rw [hids, hh.workspace.id_eq id e he]
  · show h.rebuild.index.localsOf d.id = _
    rw [hids, Index.localsOf, htables, hbuilt]
    rfl

end Host

namespace Snapshot

variable {s t : Snapshot}

/-- What is settled stays so where resolvers are alike and the same is held for it. -/
theorem Settled.congr {id : DocumentId} (h : s.Settled id)
    (halike : Resolver.Alike (fun i => i) s.resolver t.resolver)
    (hpart : (t.part id).reset = (s.part id).reset) : t.Settled id := by
  intro d hd
  obtain ⟨old, hold, heq⟩ := exists_get?_of_reset_eq hpart hd
  obtain ⟨e, he⟩ := h old hold
  have hregistry : t.resolver.registry = s.resolver.registry := halike.registry
  have hbuilt : e.builtWith t.resolver = e.builtWith s.resolver := by
    have hviews := halike.views_plan (Document.alike_of_resetReferences_eq
      (rfl : (e.prepare s.resolver.registry).resetReferences = _))
    have hsame : (fun v : ViewPlan => (⟨v.view, v.attributes.map (·.renumber fun i => i)⟩ :
        ViewPlan)) = fun v => v := by
      funext v
      rw [show (fun n : Node => n.renumber fun i => i) = fun n => n from funext Node.renumber_self,
        List.map_id']
    rw [hsame, List.map_id'] at hviews
    exact Document.builtWith_congr hregistry (congrArg (DerivationPlan.mk _) hviews)
  have hid : d.id = old.id := (congrArg Document.id heq :)
  have hlocals : t.resolver.index.localsOf old.id = s.resolver.index.localsOf old.id := by
    have htables := halike.locals old.id
    rw [show (fun l : LocalTables => l.renumber fun i => i) = fun l => l from
      funext LocalTables.renumber_self, Option.map_id'] at htables
    rw [Index.localsOf, Index.localsOf, htables]
  exact ⟨e, he.wellFormed, he.drafted, he.id_eq.trans hid.symm, by rw [heq, he.document_eq, hbuilt],
    by rw [hid, hlocals, he.tables_eq, hbuilt]⟩

/-- Look-ups leave what is settled settled. -/
theorem Settled.read {id : DocumentId} (h : s.Settled id) (hs : s.workspace.ids.Nodup)
    (hread : s.Read t) : t.Settled id := by
  have hreset := hread.resetReferences_eq hs
  have hindex : t.index = s.index := (congrArg Snapshot.index hreset :)
  have hregistry : t.registry = s.registry := (congrArg Snapshot.registry hreset :)
  have hdocuments := get?_of_resetReferences_eq hreset
  refine h.congr (alike_resolver hregistry (fun k => ?_) ?_ hdocuments) ?_
  · rw [hindex]
  · rw [hindex]
  · simp only [Part.reset, part, hdocuments, hindex]

end Snapshot

/-- Whether an action only asks: it brings everything up to date, or looks something up. -/
def Action.Asks : Action → Prop
  | .rebuild | .resolveReference .. | .link _ | .consult _ => True
  | _ => False

/-- Asking is sound. -/
theorem Action.Asks.sound {a : Action} (h : a.Asks) : a.Sound := by
  cases a <;> trivial

namespace Session

/-- All documents of a reachable session are well formed and built from drafts. -/
theorem Reachable.all_drafted {s : Session} (hs : s.Reachable) :
    s.host.workspace.All fun d => d.WellFormed ∧ d.asWritten.Drafted := by
  obtain ⟨registry, actions, hsound, rfl⟩ := hs
  refine (lasts_run Document.lasting_drafted registry fun a ha => ?_).workspace
  rintro d rfl
  have hdrafted : d.Drafted := hsound _ ha
  refine ⟨hdrafted.wellFormed, ?_⟩
  rw [hdrafted.plain.asWritten_eq]
  exact hdrafted

/-- A session in which all is up to date and settled. -/
structure Rests (s : Session) : Prop where
  /-- It can be reached. -/
  reachable : s.Reachable
  /-- Nothing is out of date. -/
  clean : s.host.isDirty = false
  /-- All is settled. -/
  settled : ∀ id, s.host.toSnapshot.Settled id

/-- Where all was out of date, a rebuild leaves all settled. -/
theorem rests_rebuild {s : Session} (hs : s.Reachable)
    (hdirty : ∀ id ∈ s.host.workspace.ids, id ∈ s.host.dirty) : (s.step .rebuild).Rests where
  reachable := hs.step trivial
  clean := Host.isDirty_rebuild s.host
  settled := by
    intro id d hd
    have hmem := Workspace.mem_ids_of_get? (show s.host.rebuild.workspace.get? id = some d from hd)
    rw [s.host.frame_rebuild.1] at hmem
    exact Host.settled_rebuild hs.authored.1 hs.all_drafted (hdirty id hmem) d hd

/-- Asking leaves all settled. -/
theorem Rests.step {s : Session} (h : s.Rests) {a : Action} (ha : a.Asks) : (s.step a).Rests := by
  have hclean := Host.rebuild_of_not_isDirty h.clean
  have hnodup := h.reachable.authored.1.workspace.nodup_ids
  have hread : ∀ t : Snapshot, s.host.toSnapshot.Read t → (s.step a).host =
      { s.host with toSnapshot := t } → (s.step a).Rests := by
    intro t hread heq
    refine ⟨h.reachable.step ha.sound, ?_, fun id => ?_⟩
    · rw [heq]
      exact h.clean
    · rw [heq]
      exact (h.settled id).read hnodup hread
  cases a with
  | rebuild => exact hread _ .refl hclean
  | resolveReference ptr p i =>
    refine hread _ (.resolveReference .refl ptr p i) ?_
    simp only [Session.step, hclean]
    rfl
  | link uri =>
    refine hread _ (Snapshot.read_link _ uri) ?_
    simp only [Session.step, hclean]
    rfl
  | consult kind =>
    refine ⟨h.reachable.step trivial, h.clean, fun id => (h.settled id).congr ?_ rfl⟩
    exact Snapshot.alike_resolver rfl (s.host.index.globalScope_remember kind) rfl fun _ => rfl
  | set | restore | remove | touch | setRegistry => cases ha

/-- Where all was out of date, after a rebuild and whatever is only asked then, all is settled. -/
theorem rests_of_asks {s : Session} (hs : s.Reachable)
    (hdirty : ∀ id ∈ s.host.workspace.ids, id ∈ s.host.dirty) {asks : List Action}
    (hasks : ∀ a ∈ asks, a.Asks) : ((s.step .rebuild).run asks).Rests :=
  run_induction_of (fun _ _ ha h => h.step ha) (rests_rebuild hs hdirty) hasks

end Session

end ModelBinding
