import ModelBinding.Proofs.Duplicates
import ModelBinding.Proofs.Extended
import ModelBinding.Proofs.FreshNames

/-!
# Allocated identifiers and duplicates

An identifier is allocated for a kind: it is free among the Local IDs of the nodes that
may stand where the kind is asked for. Duplicates are found among the Global IDs of all
nodes of a data model, whatever their kinds. So a node that gets the allocated identifier
brings a new duplicate exactly if a node of a kind that was not looked at has it already
(`Snapshot.Collides`, `duplicates_of_allocation`).
-/

namespace ModelBinding

/-- In a document of a data model just the nodes other than data models have Global IDs that qualify
a name by the reference name, and then the name is the Local ID. -/
theorem Registry.globalId?_eq_qualify_iff {r : Registry} {d : Document} {m : DataModelId}
    (hm : r.modelOf? d = some m) {reference : String}
    (hreference : r.referenceName? m = some reference) {n : NodeId} {k : NodeKind}
    (hk : d.kind? n = some k) {name : String} :
    r.globalId? d n = some (Name.qualify reference name) ↔
      k ≠ .dataModel ∧ d.localId? n = some name := by
  rw [globalId?_of_modelOf? hm hreference, Document.qualifiedId?, hk, Option.bind_some]
  by_cases hkind : k = .dataModel
  · have hlonger : reference ≠ Name.qualify reference name := fun heq => by
      have hlength := congrArg String.length heq
      simp only [Name.qualify, String.length_append, String.length_singleton] at hlength
      omega
    simp [hkind, hlonger]
  · have hinj : ∀ l, Name.qualify reference l = Name.qualify reference name ↔ l = name :=
      fun l => String.append_right_inj _
    simp [hkind, hinj]

namespace Index

variable {i j : Index} {new : Description} {front back : List Description}
  (hi : i.globals = front ++ back) (hj : j.globals = front ++ new :: back)
include hi hj

/-- With one export more there are the old ones and that one. -/
theorem mem_globals_of_cons {e : Description} : e ∈ j.globals ↔ e = new ∨ e ∈ i.globals := by
  rw [hi, hj, List.mem_append, List.mem_append, List.mem_cons, or_left_comm]

/-- One export more leaves alone what shares the names that it does not have. -/
theorem sharing_of_ne {m : Option DataModelId} {g : String}
    (hne : ¬ (new.name = g ∧ new.dataModel = m)) : j.sharing m g = i.sharing m g := by
  have hnew : (decide (new.name = g) && decide (new.dataModel = m)) = false := by
    simpa using hne
  rw [sharing, sharing, hi, hj, List.filter_append, List.filter_append,
    List.filter_cons_of_neg (by simp [hnew])]

/-- One export more leaves alone the reports about exports of other names. -/
theorem checkDuplicate_of_ne {e : Description}
    (hne : ¬ (new.name = e.name ∧ new.dataModel = e.dataModel)) :
    j.checkDuplicate e = i.checkDuplicate e := by
  rw [checkDuplicate, checkDuplicate, firstDeclared?_eq, firstDeclared?_eq,
    sharing_of_ne hi hj hne]

end Index

namespace Snapshot

/-- Whether a written node of the data model of an identified kind, neither the given one nor one of
its subtypes nor that of data models, has a name as its Local ID. -/
def Collides (s : Snapshot) (m : DataModelId) (k : NodeKind) (name : String) : Prop :=
  ∃ d ∈ s.workspace.list, s.registry.modelOf? d = some m ∧ ∃ n ∈ d.written,
    (d.kind? n).any (fun k' => k'.isIdentified && k' ≠ .dataModel && !k'.isSubtypeOf k) = true ∧
      d.localId? n = some name

section Added

variable {s t : Snapshot} (hs : s.Publishes) (ht : t.Publishes) {new : Description}
  {front back : List Description} (hi : s.index.globals = front ++ back)
  (hj : t.index.globals = front ++ new :: back)

include ht hi hj in
/-- Another export in Global form is about a node about which none was. -/
theorem node_ne_of_mem_globals {e : Description} (he : e ∈ s.index.globals) :
    e.node ≠ new.node := by
  have hnodup : (front ++ new :: back).Nodup :=
    hj ▸ List.Nodup.of_map _ (ht.nodup_nodes.sublist ht.globals_sublist)
  have hnew : new ∉ front ++ back := (List.nodup_cons.1 (List.nodup_middle.1 hnodup)).1
  have hmem := fun e => Index.mem_globals_of_cons hi hj (e := e)
  intro hnode
  have heq := ht.eq_of_mem_globals ((hmem e).2 (Or.inr he)) ((hmem new).2 (Or.inl rfl)) hnode
  exact hnew (hi ▸ heq ▸ he)

include hs ht hi hj

/-- If one export more in Global form brings no new finding about a taken identifier, no other has
its name in its data model. -/
theorem name_ne_of_forall_duplicate_mem
    (hall : ∀ uri, ∀ x ∈ t.diagnostics uri, x.isDuplicate = true → x ∈ s.diagnostics uri)
    {e : Description} (he : e ∈ s.index.globals) :
    ¬ (e.name = new.name ∧ e.dataModel = new.dataModel) := by
  rintro ⟨hname, hmodel⟩
  have hne : ∀ f ∈ s.index.globals, f.node ≠ new.node := fun f =>
    node_ne_of_mem_globals ht hi hj
  have hmem := fun e => Index.mem_globals_of_cons hi hj (e := e)
  have heShares : e ∈ t.index.sharing new.dataModel new.name :=
    Index.mem_sharing.2 ⟨(hmem e).2 (Or.inr he), hname, hmodel⟩
  have hnewShares : new ∈ t.index.sharing new.dataModel new.name :=
    Index.mem_sharing.2 ⟨(hmem new).2 (Or.inl rfl), rfl, rfl⟩
  cases hsharing : t.index.sharing new.dataModel new.name with
  | nil => simp [hsharing] at heShares
  | cons first rest =>
    -- Whatever is reported was reported before, so both nodes of the finding were exported before.
    have hreported : ∀ y ∈ t.index.sharing new.dataModel new.name, first.node ≠ y.node →
        y.node ≠ new.node ∧ first.node ≠ new.node := by
      intro y hy hfirst
      have hreport : t.index.checkDuplicate y = some (.duplicate y.node new.name first.node) := by
        rw [Index.checkDuplicate_eq hsharing hy, if_neg hfirst]
      obtain ⟨hx, hduplicate⟩ := ht.isDuplicate_mem_diagnostics_iff.2
        ⟨y, (Index.mem_sharing.1 hy).1, rfl, hreport⟩
      obtain ⟨e', he', -, hreport'⟩ :=
        hs.isDuplicate_mem_diagnostics_iff.1 ⟨hall y.uri _ hx hduplicate, hduplicate⟩
      obtain ⟨f, hf, -, heq⟩ := Index.exists_of_checkDuplicate hreport'
      obtain ⟨hnode, hfirstNode⟩ := Diagnostic.of_duplicate_eq heq
      exact ⟨hnode ▸ hne e' he', hfirstNode ▸ hne f (Index.mem_sharing.1 hf).1⟩
    by_cases hfirst : first.node = new.node
    · exact (hreported e heShares fun heq => hne e he (heq.symm.trans hfirst)).2 hfirst
    · exact (hreported new hnewShares hfirst).1 rfl

/-- One export more in Global form brings no new finding about a taken identifier exactly if no
other has its name in its data model. -/
theorem forall_duplicate_mem_iff :
    (∀ uri, ∀ x ∈ t.diagnostics uri, x.isDuplicate = true → x ∈ s.diagnostics uri) ↔
      ∀ e ∈ s.index.globals, ¬ (e.name = new.name ∧ e.dataModel = new.dataModel) := by
  refine ⟨fun hall e => name_ne_of_forall_duplicate_mem hs ht hi hj hall,
    fun hfree uri x hx hduplicate => ?_⟩
  have hmem := fun e => Index.mem_globals_of_cons hi hj (e := e)
  obtain ⟨e, he, huri, hreport⟩ := ht.isDuplicate_mem_diagnostics_iff.1 ⟨hx, hduplicate⟩
  have hold : e ∈ s.index.globals := by
    refine ((hmem e).1 he).resolve_left ?_
    rintro rfl
    obtain ⟨first, hfirst, hne, -⟩ := Index.exists_of_checkDuplicate hreport
    obtain ⟨hfirstMem, hname, hmodel⟩ := Index.mem_sharing.1 hfirst
    have hother := ((hmem first).1 hfirstMem).resolve_left fun heq => hne (heq ▸ rfl)
    exact hfree first hother ⟨hname, hmodel⟩
  have hne : ¬ (new.name = e.name ∧ new.dataModel = e.dataModel) := fun hsame =>
    hfree e hold ⟨hsame.1.symm, hsame.2.symm⟩
  rw [Index.checkDuplicate_of_ne hi hj hne] at hreport
  exact (hs.isDuplicate_mem_diagnostics_iff.2 ⟨e, hold, huri, hreport⟩).1

end Added

section Collision

variable {s : Snapshot} (h : s.Publishes) {m : DataModelId} {reference : String}
  (hreference : s.registry.referenceName? m = some reference) {k : NodeKind}
  (hk : k.isIdentified = true) {proposal name : String}
  (hname : name = s.index.freshLocalName k proposal (some m))
include h hreference hk hname

/-- A Global ID that qualifies an allocated name is exported in the data model exactly if the
allocated name collides. -/
theorem Publishes.exists_global_iff_collides :
    (∃ e ∈ s.index.globals, e.name = Name.qualify reference name ∧ e.dataModel = some m) ↔
      s.Collides m k name := by
  constructor
  · rintro ⟨e, he, hename, hemodel⟩
    obtain ⟨hall, hform⟩ := Index.mem_globals.1 he
    obtain ⟨d, hd, hwritten, hpublished⟩ := h.exists_of_mem_all hall
    obtain ⟨k', l, g, hk', hidentified, -, hg, hx⟩ := Document.mem_published_iff.1 hpublished
    have hm : s.registry.modelOf? d = some m := by
      rcases hx with hx | hx <;> exact (congrArg Description.dataModel hx).symm.trans hemodel
    have hgname : g = Name.qualify reference name := by
      rcases hx with hx | hx
      · have hlocal : e.form = .localForm := congrArg Description.form hx
        simp [Description.isGlobal, hlocal] at hform
      · exact (congrArg Description.name hx).symm.trans hename
    rw [hgname, Registry.globalId?_eq_qualify_iff hm hreference hk'] at hg
    have hother : k'.isSubtypeOf k = false := by
      by_contra hsubtype
      exact h.localId?_ne_freshLocalName hk hd hm hwritten hk' (by simpa using hsubtype) proposal
        (hname ▸ hg.2)
    have hwalk := (h.current.isTree hd).mem_walk_iff.2 (Document.index_lt_of_kind? hk')
    exact ⟨d, h.current.workspace.mem_list_of_get? hd, hm, e.node.node,
      Document.mem_written.2 ⟨hwalk, hwritten⟩, by simp [hk', hidentified, hg.1, hother], hg.2⟩
  · rintro ⟨d, hd, hm, n, hn, hkind, hl⟩
    have hget := h.current.workspace.mem_list_iff.1 hd
    obtain ⟨k', hk', hkind⟩ := (Option.any_eq_true ..).1 hkind
    simp only [Bool.and_eq_true, decide_eq_true_eq] at hkind
    obtain ⟨⟨hidentified, hne⟩, -⟩ := hkind
    obtain ⟨g, hg, hpublished⟩ := Document.published_eq_of_localId? hm hk' hidentified hl
    have hgname := hg.symm.trans
      ((Registry.globalId?_eq_qualify_iff hm hreference hk').2 ⟨hne, hl⟩)
    have hall : d.describe (some m) n k' g .globalForm ∈ s.index.all :=
      h.mem_all hget (Document.mem_written.1 hn).2 (by simp [hpublished])
    exact ⟨_, Index.mem_globals.2 ⟨hall, rfl⟩, Option.some.inj hgname, rfl⟩

end Collision

end Snapshot

namespace Session

/-- After any sound actions and a rebuild, let a document of a data model be set again with one more
top-level node that has as its identifier what is allocated for its kind there. After another
rebuild there is a finding about a taken identifier that was not there before exactly if a node of
the data model of another kind has the allocated identifier as its Local ID. -/
theorem duplicates_of_allocation {s : Session} (hs : s.Reachable) {uri : String} {d : Document}
    (hd : s.host.rebuild.workspace.at? uri = some d) {m : DataModelId}
    (hm : s.host.rebuild.registry.modelOf? d = some m) {draft : Draft}
    (hidentified : draft.kind.isIdentified = true) (hkind : draft.kind ≠ .dataModel)
    {proposal name : String} (hproposal : proposal ≠ "")
    (hname : name = s.host.rebuild.freshId draft.kind proposal (.forDocument uri))
    (hdraft : draft.id = some name) :
    (d.extended draft).Drafted ∧
      ((∀ u, ∀ x ∈ ((s.step .rebuild).step (.set (d.extended draft))).host.rebuild.diagnostics u,
          x.isDuplicate = true → x ∈ s.host.rebuild.diagnostics u) ↔
        ¬ s.host.rebuild.Collides m draft.kind name) := by
  obtain ⟨hget, rfl⟩ := hs.current.workspace.at?_eq_some_iff.1 hd
  have hfresh : name = s.host.rebuild.index.freshLocalName draft.kind proposal (some m) := by
    rw [hname, Snapshot.freshId, ← hm]
    rfl
  have hown : draft.toNode.ownId? = some name := by
    refine (Node.ownId?_eq_some_iff _ _).2 ⟨hdraft, ?_⟩
    rw [hfresh]
    exact Name.fresh_ne_empty hproposal _
  obtain ⟨reference, hreference⟩ := Registry.exists_referenceName?_of_owner? hm
  refine ⟨Document.drafted_extended (hs.drafted hget) draft, ?_⟩
  generalize ht : ((s.step .rebuild).step (.set (d.extended draft))).host.rebuild.toSnapshot = t
  have hpublishes : t.Publishes := ht ▸ (hs.reachable_extended hget draft).publishes
  obtain ⟨front, back, hbefore, hafter⟩ :=
    hs.exists_all_extended hget draft hm hreference hidentified hkind hown ht.symm
  have hi : s.host.rebuild.index.globals =
      front.filter (·.isGlobal) ++ back.filter (·.isGlobal) := by
    rw [Index.globals, hbefore, List.filter_append]
  have hj : t.index.globals = front.filter (·.isGlobal) ++
      d.describe (some m) d.source.nextNode draft.kind (Name.qualify reference name) .globalForm ::
        back.filter (·.isGlobal) := by
    rw [Index.globals, hafter, List.filter_append,
      List.filter_cons_of_neg (by simp [Document.describe, Description.isGlobal]),
      List.filter_cons_of_pos (by simp [Document.describe, Description.isGlobal])]
  rw [Snapshot.forall_duplicate_mem_iff hs.publishes hpublishes hi hj,
    ← hs.publishes.exists_global_iff_collides hreference hidentified hfresh, not_exists]
  exact forall_congr' fun e => not_and.symm

/-- Beside the entity of a data model another one gets its identifier with a suffix, and there is no
new finding about a taken identifier. -/
theorem duplicates_of_allocation_dependent :
    ∃ d, dependent.host.rebuild.workspace.at? "file:///core/a.cm" = some d ∧
      dependent.host.rebuild.freshId .logicalEntity "Party" (.forDocument "file:///core/a.cm") =
        "Party-2" ∧
      ∀ u, ∀ x ∈ ((dependent.step .rebuild).step (.set (d.extended
          { kind := .logicalEntity, id := some "Party-2" }))).host.rebuild.diagnostics u,
        x.isDuplicate = true → x ∈ dependent.host.rebuild.diagnostics u := by
  obtain ⟨d, hd⟩ := Option.isSome_iff_exists.1
    (show (dependent.host.rebuild.workspace.at? "file:///core/a.cm").isSome by decide +kernel)
  have hmodel : (dependent.host.rebuild.workspace.at? "file:///core/a.cm").bind
      dependent.host.rebuild.registry.modelOf? = some ⟨"core"⟩ := by
    decide +kernel
  rw [hd, Option.bind_some] at hmodel
  have hfresh : "Party-2" = dependent.host.rebuild.freshId .logicalEntity "Party"
      (.forDocument "file:///core/a.cm") := by
    decide +kernel
  have hfree : ¬ dependent.host.rebuild.Collides ⟨"core"⟩ .logicalEntity "Party-2" := by
    unfold Snapshot.Collides
    decide +kernel
  exact ⟨d, hd, hfresh.symm, (@duplicates_of_allocation _ reachable_dependent _ d hd _ hmodel
    { kind := .logicalEntity, id := some "Party-2" } rfl (by decide) "Party" _ (by decide) hfresh
    rfl).2.2 hfree⟩

/-- A session with a data model that has a relationship. -/
def relating : Session :=
  (start { models := [{ id := ⟨"core"⟩, referenceName := "core", root := "file:///core" }] }).run
    [.set (.ofDrafts "file:///core/a.cm"
      (List.map (fun draft => (NodeId.root, draft)) [{ kind := .relationship, id := some "X" }]))]

/-- It is reachable. -/
theorem reachable_relating : relating.Reachable := by
  refine ⟨_, _, fun a ha => ?_, rfl⟩
  rw [List.mem_singleton.1 ha]
  exact drafted_flat _ _

/-- Beside a relationship an entity gets the same identifier, and is then reported. -/
theorem duplicate_of_allocation :
    relating.Reachable ∧ ∃ d,
      relating.host.rebuild.workspace.at? "file:///core/a.cm" = some d ∧
      relating.host.rebuild.registry.modelOf? d = some ⟨"core"⟩ ∧
      relating.host.rebuild.freshId .logicalEntity "X" (.forDocument "file:///core/a.cm") = "X" ∧
      ¬ ∀ u, ∀ x ∈ ((relating.step .rebuild).step (.set (d.extended
          { kind := .logicalEntity, id := some "X" }))).host.rebuild.diagnostics u,
        x.isDuplicate = true → x ∈ relating.host.rebuild.diagnostics u := by
  have hreport : (relating.host.rebuild.workspace.at? "file:///core/a.cm").map (fun d =>
      (relating.host.rebuild.registry.modelOf? d,
        ((relating.step .rebuild).step (.set (d.extended
          { kind := .logicalEntity, id := some "X" }))).host.rebuild.diagnostics
            "file:///core/a.cm")) =
        some (some ⟨"core"⟩, [.duplicate ⟨⟨0⟩, ⟨2⟩⟩ "core.X" ⟨⟨0⟩, ⟨1⟩⟩]) := by
    decide +kernel
  have hclean : relating.host.rebuild.diagnostics "file:///core/a.cm" = [] := by decide +kernel
  obtain ⟨d, hd, hreport⟩ := Option.map_eq_some_iff.1 hreport
  obtain ⟨hmodel, hreport⟩ := Prod.mk.inj hreport
  refine ⟨reachable_relating, d, hd, hmodel, by decide +kernel, fun hall => ?_⟩
  have hold := hall "file:///core/a.cm" _ (hreport ▸ List.mem_singleton_self _)
    (Diagnostic.isDuplicate_duplicate ..)
  rw [hclean] at hold
  cases hold

end Session

end ModelBinding
