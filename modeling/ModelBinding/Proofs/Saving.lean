import ModelBinding.Proofs.SavedScopes

/-!
# Saving an imagined chain

In a session in which all is settled an imagined chain is saved: its document is set once
more with the chain in it, or a new document with the chain, and all is rebuilt. If the
nodes of the chain have no identifiers and are no targets, nothing else is exported than
before (`Session.Rests.all_eq_of_saved`), so the chain sees what the imagined chain saw
(`Session.scope?_saved`).
-/

namespace ModelBinding

open Snapshot

namespace Document

variable {d e : Document} {r : Registry} {a : NodeId} {nodes : List ImaginedNode}

/-- A move of the nodes of a document that leaves the written ones where they are and takes the
derived ones to derived ones of another document, in order. -/
structure MovesDerived (d e : Document) (ρ : NodeId → NodeId) : Prop where
  /-- What was written stays. -/
  written : ∀ n, d.isDerived n = false → ρ n = n
  /-- What was derived is derived. -/
  derived : ∀ n, d.isDerived n = true → n.index < d.size →
    e.isDerived (ρ n) = true ∧ (ρ n).index < e.size
  /-- It stays in order. -/
  ordered : ∀ n m, d.isDerived n = true → n.index < m.index → m.index < d.size →
    (ρ n).index < (ρ m).index

/-- A node without identifier is not published. -/
theorem published_eq_nil_of_unnamed {n : NodeId} (h : d.ownId? n = none) : d.published r n = [] := by
  have hlocal : d.localId? n = none := by rw [localId?, h, Option.map_none]
  unfold published
  rw [hlocal]
  split
  · rename_i heq _
    cases heq
  · rfl

/-- A document publishes what it did with a chain in it whose nodes have no identifiers. -/
theorem flatMap_published_continued (hd : d.asWritten.Drafted) (ha : a.index < d.asWritten.size)
    (hunnamed : ∀ v ∈ nodes, (nodeOfImagined v).ownId? = none)
    (he : e.source = { d.continued a nodes with id := d.id }) :
    e.written.flatMap (e.published r) = d.written.flatMap (d.published r) := by
  have hnode : ∀ n, e.source.node? n = (hang d.asWritten a nodes).1.node? n := fun n =>
    congrArg (·.node? n) he
  have hwalk : e.source.walk = (hang d.asWritten a nodes).1.walk :=
    descendants_congr (fun n => congrArg (Option.map _) (hnode n)) .root
  have hwalk' : d.asWritten.walk = d.source.walk :=
    descendants_congr (d := d.source) (e := d.asWritten) (fun _ => rfl) .root
  have hbehind : ∀ n, d.asWritten.size ≤ n.index → e.source.published r n = [] := by
    intro n hn
    refine published_eq_nil_of_unnamed ?_
    rw [ownId?, hnode]
    exact ownId?_hang_of_le ha hunnamed hn
  have hdetached : ∀ n, n.index < d.asWritten.size → e.source.detached? n = d.source.detached? n := by
    intro n hn
    rw [detached?, hnode]
    exact detached?_hang_of_lt ha hn nodes
  rw [← flatMap_published_source, ← flatMap_published_source, hwalk,
    flatMap_walk_hang hd.plain a nodes hbehind, hwalk']
  refine List.flatMap_congr fun n hn => ?_
  have hid : e.source.id = d.source.id := by rw [he]; rfl
  have huri : e.source.uri = d.source.uri := by
    rw [he]
    exact (frame_hang d.asWritten a nodes).2.1
  refine published_congr_below hid huri (fun m hm => ?_) (fun m hm => ?_) (fun m hm => ?_)
    ((isTree_source hd).mem_walk_iff.1 hn)
  · exact kind?_of_detached? (hdetached m hm)
  · rw [parent?, hnode]
    exact parent?_hang_of_lt ha hm nodes
  · exact ownId?_of_detached? (hdetached m hm)

end Document

namespace Resolver.Saves

variable {a : NodeId} {nodes : List ImaginedNode} {r t : Resolver} {d d₀ e e₀ : Document}
  (h : Saves a nodes r t d d₀ e e₀) {place : Nat → Nat} {ρ : NodeId → NodeId}
  (hm : Moves nodes r t d d₀ e e₀ place ρ)
include h hm

/-- A derived node is a copy, and moves to the place of a copy. -/
theorem exists_copy_moved {n : NodeId} (hn : d.isDerived n = true) (hlt : n.index < d.size) :
    ∃ i, n = ⟨d.asWritten.size + i⟩ ∧ ρ n = ⟨e.asWritten.size + place i⟩ ∧
      e.asWritten.size + place i < e.size := by
  have hlen : d.asWritten.size ≤ n.index := by
    simpa [Document.isDerived, h.before.parsedLen_eq] using hn
  rcases h.cases_node n with hn | ⟨i, c, hc, rfl⟩ | ⟨k, v, -, rfl⟩ | hn
  · exact absurd hlen (Nat.not_le.2 hn)
  · have hplace := (List.getElem?_eq_some_iff.1 ((hm.places.getElem?_eq i).trans hc)).1
    refine ⟨i, rfl, hm.copy i c hc, ?_⟩
    rw [h.after.size_eq]
    exact Nat.add_lt_add_left hplace _
  · exact absurd hlt (Nat.not_lt.2 (Nat.le_add_right _ k))
  · exact absurd hlt (Nat.not_lt.2 (Nat.le_trans (Nat.le_add_right _ _) hn))

theorem movesDerived : d.MovesDerived e ρ where
  written n hn := hm.written n (by simpa [Document.isDerived, h.before.parsedLen_eq] using hn)
  derived n hn hlt := by
    obtain ⟨i, -, hρ, hsize⟩ := h.exists_copy_moved hm hn hlt
    rw [hρ]
    exact ⟨by simp [Document.isDerived, h.after.parsedLen_eq], hsize⟩
  ordered n m hn hnm hlt := by
    have hm' : d.isDerived m = true := by
      simp only [Document.isDerived, decide_eq_true_eq] at hn ⊢
      omega
    obtain ⟨i, hi, hρ, -⟩ := h.exists_copy_moved hm hn (Nat.lt_trans hnm hlt)
    obtain ⟨j, hj, hρ', -⟩ := h.exists_copy_moved hm hm' hlt
    rw [hi, hj] at hnm
    rw [hρ, hρ']
    exact Nat.add_lt_add_left (hm.places.strictMono (Nat.lt_of_add_lt_add_left hnm)) _

end Resolver.Saves

section Blank

variable {uri : String} {n : NodeId}

namespace Document

theorem node?_blank {node : Node} (hn : (blank uri).node? n = some node) :
    node = { kind := .root } := by
  obtain ⟨i⟩ := n
  cases i with
  | zero => exact (Option.some.inj hn).symm
  | succ i => cases hn

theorem derivedAttributeKind?_blank {k : NodeKind} (hk : (blank uri).kind? n = some k) :
    k.derivedAttributeKind? = none := by
  obtain ⟨node, hnode, rfl⟩ := Option.map_eq_some_iff.1 hk
  rw [node?_blank hnode]
  rfl

theorem ownId?_blank (uri : String) (n : NodeId) : (blank uri).ownId? n = none := by
  rw [ownId?, Option.bind_eq_none_iff]
  intro node hnode
  rw [node?_blank hnode]
  rfl

end Document

/-- A document with nothing but its root is settled where its number has no tables. -/
theorem Resolver.settles_blank {r : Resolver} (hr : r.index.locals? .unassigned = none)
    (uri : String) : r.Settles (.blank uri) (.blank uri) := by
  have hdrafted := Document.drafted_blank uri
  have hprepare : (Document.blank uri).prepare r.registry = .blank uri := rfl
  have hcopies : (r.plan (.blank uri)).copies = [] := by
    refine List.eq_nil_iff_forall_not_mem.2 fun c hc => ?_
    obtain ⟨k, hk, hderived⟩ := of_mem_copies_plan hc
    rw [Document.derivedAttributeKind?_blank hk] at hderived
    cases hderived
  have htables : (Document.blank uri).localTables r.registry = .empty := by
    refine congrArg LocalTables.mk (List.flatMap_eq_nil_iff.2 fun n _ => ?_)
    exact Document.tableEntries_eq_nil_of_unnamed (Document.ownId?_blank uri n) _
  have hbuilt : (Document.blank uri).builtWith r =
      { document := .blank uri, tables := .empty } := by
    rw [Document.builtWith, hprepare, Derivation.apply_eq_foldl, hcopies, htables]
    rfl
  refine ⟨hdrafted.wellFormed, hdrafted.plain.asWritten_eq.symm ▸ hdrafted, rfl, ?_, ?_⟩
  · rw [hbuilt]
  · rw [hbuilt, Index.localsOf]
    exact congrArg (Option.getD · LocalTables.empty) hr

end Blank

namespace Session.Rests

variable {s : Session} (h : s.Rests) {d : Document} {a : NodeId} {nodes : List ImaginedNode}
include h

theorem rebuild_eq : s.host.rebuild = s.host := Host.rebuild_of_not_isDirty h.clean

theorem current : s.host.toSnapshot.Current Document.WellFormed := by
  have hcurrent := h.reachable.current
  rwa [h.rebuild_eq] at hcurrent

theorem current_plain : s.host.toSnapshot.Current fun d => d.asWritten.Plain := by
  have hcurrent := h.reachable.current_plain
  rwa [h.rebuild_eq] at hcurrent

theorem publishes : s.host.toSnapshot.Publishes := by
  have hpublishes := h.reachable.publishes
  rwa [h.rebuild_eq] at hpublishes

/-- What the tables of a document show is about nodes that are there. A document that is not there
has no tables. -/
theorem fits_tableOf (hknown : s.host.workspace.get? d.id = some d ∨ d.id ∉ s.host.workspace.ids)
    {n : NodeId} {x : Description} (hx : x ∈ s.host.resolver.tableOf d n) :
    s.host.workspace.get? x.node.document = some d ∧ d.kind? x.node.node = some x.kind := by
  obtain ⟨entry, hentry, rfl⟩ := List.mem_map.1 hx
  replace hentry : entry ∈ (s.host.index.localsOf d.id).entries := (List.mem_filter.1 hentry).1
  obtain ⟨y, hy, hfits, -⟩ := h.current_plain.fits_of_mem_localsOf hentry
  rcases hknown with hget | hnot
  · obtain rfl := Option.some.inj (hget.symm.trans hy)
    rw [hfits.document_eq]
    exact ⟨hget, hfits.kind_eq⟩
  · exact absurd (Workspace.mem_ids_of_get? hy) hnot

section Saved

variable (hd : d.asWritten.Drafted) (ha : a.index < d.asWritten.size)
include hd ha

/-- Setting a document with a chain in it is sound. -/
theorem reachable_set (nodes : List ImaginedNode) : (s.step (.set (d.continued a nodes))).Reachable :=
  h.reachable.step (a := .set (d.continued a nodes)) (Document.drafted_continued hd ha nodes)

variable {t : Snapshot} (ht : t = (s.step (.set (d.continued a nodes))).host.rebuild.toSnapshot)
  {id : DocumentId} (hid : id = (s.host.workspace.insert (d.continued a nodes)).1)
include ht hid

/-- After a document was set and a rebuild, other documents are as they were. -/
theorem differAt : DifferAt id d.uri s.host.toSnapshot t := by
  have hany : ∀ {s : Session}, s.Reachable → s.host.rebuild.toSnapshot.Current fun _ => True := by
    rintro _ ⟨registry, actions, -, rfl⟩
    exact current_rebuild_of_run registry actions
  have hleft := hany h.reachable
  rw [h.rebuild_eq] at hleft
  have huri := d.continued_uri a nodes
  rw [ht, hid, ← huri]
  exact Host.differAt_setDocument h.reachable.authored.1 h.clean hleft (d.continued a nodes)
    (hany (h.reachable_set hd ha nodes))

/-- The document is as it was set, and settled. -/
theorem exists_settled : ∃ e e₀, t.workspace.get? id = some e ∧ e.id = id ∧ e.uri = d.uri ∧
    e.asWritten = d.continued a nodes ∧ t.resolver.Settles e e₀ := by
  have hafter := h.reachable_set hd ha nodes
  have hplain := (Document.drafted_continued hd ha nodes).plain
  have hdiffer := h.differAt hd ha ht hid
  obtain ⟨hconsistent, hauthored⟩ := hafter.authored
  have hdirty : id ∈ (s.step (.set (d.continued a nodes))).host.dirty :=
    Host.mem_dirty_setDocument.2 (Or.inr hid)
  have hsettled := Host.settled_rebuild hconsistent hafter.all_drafted hdirty
  have hwritten := Host.written_rebuild hconsistent hauthored.workspace id
  have hset : (s.step (.set (d.continued a nodes))).host.workspace.written? id =
      some (d.continued a nodes) := by
    have hworkspace : (s.step (.set (d.continued a nodes))).host.workspace =
        (s.host.workspace.insert (d.continued a nodes)).2 :=
      congrArg Snapshot.workspace (Host.toSnapshot_setDocument _ _)
    rw [hworkspace, Workspace.written?, hid, Workspace.get?_insert, Option.map_some,
      Document.asWritten_withId, hplain.asWritten_eq]
  rw [← ht] at hsettled
  rw [hset] at hwritten
  obtain ⟨e, he, hwritten⟩ := Option.map_eq_some_iff.1 hwritten
  replace he : t.workspace.get? id = some e := ht ▸ he
  obtain ⟨e₀, hsettles⟩ := hsettled e he
  exact ⟨e, e₀, he, hdiffer.right.workspace.id_eq id e he, hdiffer.right_uri e he, hwritten,
    hsettles⟩

omit hd ha ht in
/-- A document at a known address keeps its number. -/
theorem eq_of_get? (hget : s.host.workspace.get? d.id = some d) : id = d.id := by
  have hknown : s.host.workspace.idOf? (d.continued a nodes).uri = some d.id :=
    h.current.workspace.idOf?_eq_some_iff.2 ⟨d, hget, (d.continued_uri a nodes).symm⟩
  rw [hid, Workspace.insert_of_idOf? hknown]

/-- Nothing else is exported than before, if the document was there, or nothing in it has an
identifier. -/
theorem all_eq (hunnamed : ∀ v ∈ nodes, (nodeOfImagined v).ownId? = none)
    (hknown : s.host.workspace.get? d.id = some d ∨
      (id ∉ s.host.workspace.ids ∧ ∀ n, d.asWritten.ownId? n = none)) :
    t.index.all = s.host.index.all := by
  have hpublishes : t.Publishes := ht ▸ (h.reachable_set hd ha nodes).publishes
  have hdiffer := h.differAt hd ha ht hid
  obtain ⟨e, -, he, hide, -, hwritten, -⟩ := h.exists_settled hd ha ht hid
  have hown := hpublishes.exportsOf_eq id e he
  have hids : t.workspace.ids =
      if id ∈ s.host.workspace.ids then s.host.workspace.ids else s.host.workspace.ids ++ [id] := by
    have hframe := (s.step (.set (d.continued a nodes))).host.frame_rebuild.1
    have hworkspace : (s.step (.set (d.continued a nodes))).host.workspace =
        (s.host.workspace.insert (d.continued a nodes)).2 :=
      congrArg Snapshot.workspace (Host.toSnapshot_setDocument _ _)
    rw [ht, hframe, hworkspace, Workspace.ids_insert, ← hid]
  rw [hpublishes.current.all_eq, h.current.all_eq, hids]
  rcases hknown with hget | ⟨hnew, hnames⟩
  · have hsame := h.eq_of_get? hid hget
    have hsource : e.source = { d.continued a nodes with id := d.id } := by
      rw [Document.source, hwritten, hide, hsame]
    rw [if_pos (hsame ▸ Workspace.mem_ids_of_get? hget)]
    refine List.flatMap_congr fun j _ => ?_
    by_cases hj : j = id
    · rw [hj, hown, Document.flatMap_published_continued hd ha hunnamed hsource, hdiffer.registry,
        hsame, h.publishes.exportsOf_eq _ d hget]
    · exact hdiffer.exportsOf hj
  · have hnone : t.index.exportsOf id = [] := by
      rw [hown, ← Document.flatMap_published_source]
      refine List.flatMap_eq_nil_iff.2 fun n _ => Document.published_eq_nil_of_unnamed ?_
      have hnode : e.source.ownId? n = (hang d.asWritten a nodes).1.ownId? n :=
        congrArg (·.ownId? n) hwritten
      rw [hnode]
      rcases Nat.lt_or_ge n.index d.asWritten.size with hlt | hge
      · rw [Document.ownId?_of_detached? (detached?_hang_of_lt ha hlt nodes), hnames]
      · exact ownId?_hang_of_le ha hunnamed hge
    rw [if_neg hnew, List.flatMap_append, List.flatMap_singleton, hnone, List.append_nil]
    refine List.flatMap_congr fun j hj => hdiffer.exportsOf ?_
    rintro rfl
    exact hnew hj

/-- What resolvers see of a document in which nothing else is out of date, or of a new one with
nothing in it, before and after a chain was saved in it. -/
theorem exists_saves {d₀ : Document} (hsettles : s.host.resolver.Settles d d₀)
    (hunnamed : ∀ v ∈ nodes, (nodeOfImagined v).ownId? = none)
    (huntargeted : ∀ v ∈ nodes, v.kind ≠ .targetObject)
    (hknown : s.host.workspace.get? d.id = some d ∨
      (d.id ∉ s.host.workspace.ids ∧ id ∉ s.host.workspace.ids ∧
        (∀ n, d.asWritten.ownId? n = none) ∧
        ∀ n k, d.asWritten.kind? n = some k → k.derivedAttributeKind? = none)) :
    ∃ e e₀, t.workspace.at? d.uri = some e ∧
      Resolver.Saves a nodes s.host.resolver t.resolver d d₀ e e₀ := by
  have hdiffer := h.differAt hd ha ht hid
  have hall : t.index.all = s.host.index.all :=
    h.all_eq hd ha ht hid hunnamed (hknown.imp_right fun hnew => ⟨hnew.2.1, hnew.2.2.1⟩)
  obtain ⟨e, e₀, he, hide, huri, hwritten, hafter⟩ := h.exists_settled hd ha ht hid
  refine ⟨e, e₀, huri ▸ hdiffer.right.workspace.at?_of_get? he, ?_⟩
  exact {
    before := hsettles
    after := hafter
    written := hwritten
    uri_eq := huri
    anchor_lt := ha
    unnamed := hunnamed
    untargeted := huntargeted
    registry := hdiffer.registry
    globalScope := fun k => by
      rw [show t.resolver.index = t.index from rfl, hdiffer.right.index.globalScope_eq, hall]
      exact (h.current.index.globalScope_eq k).symm
    document_eq := by
      rw [hide]
      exact he
    others := fun j _ hj => congrArg Part.document (hdiffer.part j (hide ▸ hj))
    known := by
      rcases hknown with hget | ⟨hnone, hnew, hnames, hviews⟩
      · exact Or.inl ⟨hget, hide.trans (h.eq_of_get? hid hget)⟩
      · refine Or.inr ⟨(Workspace.get?_eq_none_iff _ _).2 hnone, ?_, hnames, hviews⟩
        rw [hide]
        exact (Workspace.get?_eq_none_iff _ _).2 hnew
    fits_table := fun n x hx => h.fits_tableOf (hknown.imp_right (·.1)) hx
    fits_global := fun k x hx => by
      obtain ⟨hmem, hkind⟩ := h.current.index.mem_globalScope_iff.1 hx
      obtain ⟨y, hy, hfits, -⟩ := h.current_plain.fits_of_mem_all hmem
      exact ⟨hkind, y, hy, hfits.document_eq.symm, hfits.kind_eq,
        h.current.isDerived_of_mem_all hmem hy⟩ }

end Saved

/-- Where an imagined chain hangs in a written node, the document is settled. It was there and built
from drafts, or there was none and it has nothing but its root. -/
theorem exists_settles_of_base {c : ImaginedChain}
    (hbase : s.host.toSnapshot.base c = .ok (d, a))
    (hfew : c.unsaved = true → s.host.workspace.nextId ≤ DocumentId.unassigned.index) :
    d.uri = c.uri ∧ d.asWritten.Drafted ∧ (∃ d₀, s.host.resolver.Settles d d₀) ∧
      (s.host.workspace.get? d.id = some d ∨
        (d.id ∉ s.host.workspace.ids ∧
          (s.host.workspace.insert (d.continued a nodes)).1 ∉ s.host.workspace.ids ∧
          (∀ n, d.asWritten.ownId? n = none) ∧
          ∀ n k, d.asWritten.kind? n = some k → k.derivedAttributeKind? = none)) := by
  rcases of_base hbase with ⟨hat, -⟩ | ⟨hnone, hunsaved, -, hblank⟩
  · obtain ⟨hget, huri⟩ := h.current.workspace.at?_eq_some_iff.1 hat
    exact ⟨huri, (h.reachable.all_drafted d.id d hget).2, h.settled d.id d hget, Or.inl hget⟩
  · obtain ⟨rfl, rfl⟩ := Prod.mk.inj hblank
    have hwritten := (Document.drafted_blank c.uri).plain.asWritten_eq
    have hfree : DocumentId.unassigned ∉ s.host.workspace.ids := fun hmem =>
      Nat.not_lt.2 (hfew hunsaved) (h.current.workspace.lt_nextId _ hmem)
    have hlocals : s.host.index.locals? .unassigned = none := by
      refine (Keyed.get?_eq_none_iff _ _).2 ?_
      rw [h.current.locals_keys]
      exact hfree
    have hnew : s.host.workspace.idOf? c.uri = none := by
      cases hid : s.host.workspace.idOf? c.uri with
      | none => rfl
      | some id =>
        obtain ⟨e, he, -⟩ := h.current.workspace.exists_of_idOf? hid
        rw [Workspace.at?, hid, Option.bind_some, he] at hnone
        cases hnone
    have hinsert : (s.host.workspace.insert
        ((Document.blank c.uri).continued .root nodes)).1 = ⟨s.host.workspace.nextId⟩ := by
      rw [Workspace.insert_of_idOf?_eq_none (by rwa [Document.continued_uri])]
    refine ⟨rfl, hwritten.symm ▸ Document.drafted_blank c.uri,
      ⟨_, Resolver.settles_blank hlocals c.uri⟩, Or.inr ⟨hfree, ?_, ?_, ?_⟩⟩
    · rw [hinsert]
      exact h.current.workspace.nextId_notMem
    · rw [hwritten]
      exact Document.ownId?_blank c.uri
    · rw [hwritten]
      exact fun n k => Document.derivedAttributeKind?_blank

end Session.Rests

/-- A site in an imagined chain sees what the node sees once the chain is saved. In a session in
which all documents were out of date at the last rebuild and that has only been asked since, take a
chain, not empty, of nodes that have no identifiers and are no targets, and that hangs in a written
node. Its document as it was written, with the chain in it, is built from drafts; when it is set and
all is rebuilt, the last node of the chain has under each property the scope that the site had, or
none for the same reason. The derived nodes of the document may have moved, in their order, and no
scope shows a node of the imagined chain. For a chain in an unsaved document the number of unsaved
documents, the last one, must not have been given out. -/
theorem Session.scope?_saved {s : Session} (hs : s.Reachable)
    (hdirty : ∀ id ∈ s.host.workspace.ids, id ∈ s.host.dirty) {asks : List Action}
    (hasks : ∀ ask ∈ asks, ask.Asks) {t : Session} (ht : t = (s.step .rebuild).run asks)
    {c : ImaginedChain} {d : Document} {a : NodeId}
    (hbase : t.host.toSnapshot.base c = .ok (d, a)) (hwritten : d.isDerived a = false)
    (hnodes : c.nodes ≠ []) (hunnamed : ∀ v ∈ c.nodes, (nodeOfImagined v).ownId? = none)
    (huntargeted : ∀ v ∈ c.nodes, v.kind ≠ .targetObject)
    (hfew : c.unsaved = true → t.host.workspace.nextId ≤ DocumentId.unassigned.index)
    (p : Property) (i : Nat) :
    (d.continued a c.nodes).Drafted ∧
    ∃ e ρ, (t.step (.set (d.continued a c.nodes))).host.rebuild.workspace.at? c.uri = some e ∧
      e.asWritten = d.continued a c.nodes ∧ (t.host.workspace.at? c.uri = some d → e.id = d.id) ∧
      d.MovesDerived e ρ ∧
      (t.step (.set (d.continued a c.nodes))).host.rebuild.scope?
          (.ofNode (e.ptr (hang d.asWritten a c.nodes).2) p i) =
        (t.host.scope? ⟨.imagined c, p, i⟩).map (·.moved (·.movedIn d.id ρ)) ∧
      ∀ scope, t.host.scope? ⟨.imagined c, p, i⟩ = .ok scope → ∀ x ∈ scope.elements,
        x.node.document = d.id → x.node.node.index < d.size := by
  have hrests : t.Rests := ht ▸ rests_of_asks hs hdirty hasks
  obtain ⟨huri, hd, ⟨d₀, hsettles⟩, hknown⟩ := hrests.exists_settles_of_base hbase hfew
  have ha : a.index < d.asWritten.size := by
    simpa [Document.isDerived, hsettles.parsedLen_eq] using hwritten
  obtain ⟨e, e₀, he, hsaves⟩ :=
    hrests.exists_saves hd ha rfl rfl hsettles hunnamed huntargeted hknown
  obtain ⟨place, ρ, hmoves⟩ := hsaves.exists_moves
  have himagined : t.host.scope? ⟨.imagined c, p, i⟩ =
      (t.host.resolver.overlay (hang d a c.nodes).1).scopeAt
        ((hang d a c.nodes).1.ptr (hang d a c.nodes).2) p := by
    simp only [Snapshot.scope?, Snapshot.place, materialize, hbase, Except.map]
  have hlast : (hang d.asWritten a c.nodes).2 = ⟨e.asWritten.size - 1⟩ := by
    have hlen := List.length_pos_iff.2 hnodes
    rw [snd_hang_of_ne_nil hnodes, hsaves.size_asWritten, NodeId.mk.injEq]
    omega
  refine ⟨Document.drafted_continued hd ha c.nodes, e, ρ, huri ▸ he, hsaves.written,
    fun hat => ?_, hsaves.movesDerived hmoves, ?_, fun scope hscope x hx hown => ?_⟩
  · exact hsaves.id_eq_of_document? (hrests.current.workspace.at?_eq_some_iff.1 hat).1
  · rw [himagined, hlast]
    exact hsaves.scopeAt_moved hmoves hnodes p
  · rw [himagined] at hscope
    exact hsaves.lt_of_mem_scopeAt hscope hx hown

/-- A chain in the mapping of a document, for the target of an attribute mapping. -/
def Session.viewedChain : ImaginedChain where
  uri := "file:///core/a.cm"
  anchor := some "core.Load"
  nodes := [{ kind := .attributeMapping }, { kind := .attributeMappingTarget }]

/-- The session in which the document was built and then asked about. -/
def Session.viewedAsked : Session :=
  (viewed.step .rebuild).run [.consult .targetObjectAttribute, .link "file:///core/a.cm"]

/-- The imagined target of an attribute mapping is shown the derived attribute of the mapping's
target. So is the saved one, and the attribute has moved behind it. -/
theorem Session.scope?_saved_viewed :
    ∃ d e ρ, viewedAsked.host.toSnapshot.base viewedChain = .ok (d, ⟨3⟩) ∧ d.MovesDerived e ρ ∧
      (viewedAsked.step (.set (d.continued ⟨3⟩ viewedChain.nodes))).host.rebuild.scope?
          (.ofNode (e.ptr (hang d.asWritten ⟨3⟩ viewedChain.nodes).2) .value 0) =
        (viewedAsked.host.scope? ⟨.imagined viewedChain, .value, 0⟩).map
          (·.moved (·.movedIn d.id ρ)) ∧
      (viewedAsked.host.resolveText ⟨.imagined viewedChain, .value, 0⟩ "T.Name").map (·.node) =
        some ⟨⟨0⟩, ⟨5⟩⟩ ∧
      ((viewedAsked.step (.set (d.continued ⟨3⟩ viewedChain.nodes))).host.rebuild.resolveText
          (.ofNode ⟨⟨0⟩, ⟨6⟩⟩ .value) "T.Name").map (·.node) = some ⟨⟨0⟩, ⟨7⟩⟩ := by
  have hplace : ((viewedAsked.host.toSnapshot.base viewedChain).toOption.map fun b =>
      (b.2, b.1.isDerived b.2)) = some (⟨3⟩, false) := by
    decide +kernel
  have hafter : ((viewedAsked.host.toSnapshot.base viewedChain).toOption.bind fun b =>
      ((viewedAsked.step (.set (b.1.continued ⟨3⟩ viewedChain.nodes))).host.rebuild.resolveText
        (.ofNode ⟨⟨0⟩, ⟨6⟩⟩ .value) "T.Name").map (·.node)) = some ⟨⟨0⟩, ⟨7⟩⟩ := by
    decide +kernel
  have hasks : ∀ ask ∈ [Action.consult .targetObjectAttribute, .link "file:///core/a.cm"],
      ask.Asks := by
    simp [Action.Asks]
  cases hbase : viewedAsked.host.toSnapshot.base viewedChain with
  | error err =>
    rw [hbase] at hplace
    cases hplace
  | ok b =>
    obtain ⟨d, a⟩ := b
    rw [hbase] at hplace hafter
    rw [Except.toOption, Option.bind_some] at hafter
    obtain ⟨rfl, hwritten⟩ := Prod.mk.inj (Option.some.inj hplace)
    obtain ⟨-, e, ρ, -, -, -, hmoves, hscope, -⟩ := Session.scope?_saved reachable_viewed
      (by decide +kernel) hasks rfl hbase hwritten (by decide) (by decide) (by decide) (by decide)
      .value 0
    exact ⟨d, e, ρ, rfl, hmoves, hscope, by decide +kernel, hafter⟩

end ModelBinding
