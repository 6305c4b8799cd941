import ModelBinding.Proofs.BuiltTree
import ModelBinding.Proofs.Freshness
import ModelBinding.Proofs.Leftovers

/-!
# What the index publishes

After a rebuild the index holds of every document what its written nodes publish: each
node of an identified kind that has an identifier, in a document that a data model owns,
under its Local ID and under its Global ID (`Document.published`), in the order of the
walk. Nothing that earlier builds left behind shows in it. So all exports follow from the
documents, in the order of the workspace (`Snapshot.Publishes.all_eq`).
-/

namespace ModelBinding

namespace Document

variable {d : Document} {r : Registry} {n : NodeId} {x : Description}

/-- The nodes that the author wrote, in the order of the walk. -/
def written (d : Document) : List NodeId := d.walk.filter (!d.isDerived ·)

@[simp] theorem mem_written : n ∈ d.written ↔ n ∈ d.walk ∧ d.isDerived n = false := by
  simp [written]

/-- What is published of a node, case by case. -/
theorem mem_published_iff : x ∈ d.published r n ↔
    ∃ k l g, d.kind? n = some k ∧ k.isIdentified = true ∧ d.localId? n = some l ∧
      r.globalId? d n = some g ∧
      (x = d.describe (r.modelOf? d) n k l .localForm ∨
        x = d.describe (r.modelOf? d) n k g .globalForm) := by
  unfold published
  split
  · rename_i k l g hk hl hg
    by_cases hidentified : k.isIdentified = true <;> simp [hk, hl, hg, hidentified]
  · rename_i hnone
    constructor
    · intro hx
      cases hx
    · rintro ⟨k, l, g, hk, -, hl, hg, -⟩
      exact absurd hg (hnone k l g hk hl)

/-- A node of an identified kind with a Local ID is published under it and under its Global ID, if a
data model owns the document. -/
theorem published_eq_of_localId? {m : DataModelId} (hm : r.modelOf? d = some m) {k : NodeKind}
    (hk : d.kind? n = some k) (hidentified : k.isIdentified = true) {l : String}
    (hl : d.localId? n = some l) :
    ∃ g, r.globalId? d n = some g ∧ d.published r n =
      [d.describe (some m) n k l .localForm, d.describe (some m) n k g .globalForm] := by
  obtain ⟨g, hg⟩ := Registry.exists_globalId? hm hk hl
  exact ⟨g, hg, by simp [published, hk, hl, hg, hidentified, hm]⟩

/-- The document as its author wrote it is the document written afresh. -/
theorem renews_source (hd : d.asWritten.Plain) : d.source.Renews d where
  id_eq := rfl
  uri_eq := rfl
  parsedLen_eq := rfl
  globalId_eq n node hn := (hd.nodes n node hn).globalId_eq
  map_node? n := by
    have hnode : d.source.node? n = (d.dropDerived.node? n).map (·.bare) := node?_bare _ n
    rw [hnode, Option.map_map]
    refine congrArg (Option.map · _) (funext fun node => ?_)
    simp only [Function.comp_apply, Node.shape, Node.bare]
    split <;> rfl

/-- The walk of the document as it was written meets what is written. -/
theorem walk_source (d : Document) : d.source.walk = d.written := by
  rw [written, ← walk_dropDerived]
  refine descendants_congr (fun n => ?_) .root
  have hnode : d.source.node? n = (d.dropDerived.node? n).map (·.bare) := node?_bare _ n
  rw [hnode, Option.map_map]
  exact congrArg (Option.map · _) (funext fun m => m.children_bare)

/-- What is published of a node follows from the number and the address of the document and from
the kinds, containers and identifiers of the nodes up to it. -/
theorem published_congr_below {e : Document} (hid : e.id = d.id) (huri : e.uri = d.uri) {k : Nat}
    (hkind : ∀ n, n.index < k → e.kind? n = d.kind? n)
    (hparent : ∀ n, n.index < k → e.parent? n = d.parent? n)
    (hown : ∀ n, n.index < k → e.ownId? n = d.ownId? n) (hn : n.index < k) :
    e.published r n = d.published r n := by
  have hlocal : e.localId? n = d.localId? n := localId?_congr_below hparent hown hn
  have hmodel : r.modelOf? e = r.modelOf? d := by rw [Registry.modelOf?, Registry.modelOf?, huri]
  have hqualified : e.qualifiedId? n = d.qualifiedId? n := by
    refine funext fun name => ?_
    simp only [qualifiedId?, hkind n hn, hlocal]
  have hglobal : r.globalId? e n = r.globalId? d n := by
    rw [Registry.globalId?, Registry.globalId?, hmodel, hqualified]
  have hdescribe : ∀ k name form, e.describe (r.modelOf? e) n k name form =
      d.describe (r.modelOf? d) n k name form := by
    simp only [describe, ptr, hid, huri, hmodel, implies_true]
  simp only [published, hkind n hn, hlocal, hglobal, hdescribe]

/-- A written node is published as it is in the document as it was written. -/
theorem published_source (hn : d.isDerived n = false) :
    d.source.published r n = d.published r n := by
  have hlt : n.index < d.parsedLen := by simpa [isDerived] using hn
  refine published_congr_below rfl rfl (fun m hm => ?_) (fun m hm => ?_) (fun m hm => ?_) hlt
  · rw [kind?_source, kind?, node?_dropDerived, if_pos hm, Option.map_map]
    rfl
  · rw [parent?_source, parent?_dropDerived hm]
  · rw [ownId?_source, ownId?_dropDerived hm]

/-- The written nodes publish what the document as it was written does. -/
theorem flatMap_published_source (d : Document) (r : Registry) :
    d.source.walk.flatMap (d.source.published r) = d.written.flatMap (d.published r) := by
  rw [walk_source]
  exact List.flatMap_congr fun n hn => published_source (mem_written.1 hn).2

/-- No written node of a document that only builds have touched is left over. -/
theorem isLeftover_eq_false (hd : d.asWritten.Plain) (hn : d.isDerived n = false) :
    d.isLeftover n = false := by
  have hlt : n.index < d.parsedLen := by simpa [isDerived] using hn
  cases hnode : d.node? n with
  | none => simp [isLeftover, hnode]
  | some node =>
    by_cases hidentified : node.kind.isIdentified = true
    · simp [isLeftover, hnode, hidentified]
    · have hbare : d.asWritten.node? n = some
          (Node.bare { node with children := node.children.filter (·.index < d.parsedLen) }) := by
        rw [asWritten, node?_bare, node?_dropDerived, if_pos hlt, hnode]
        rfl
      have hglobal := (hd.nodes n _ hbare).globalId_eq
      rw [Node.bare, if_neg hidentified] at hglobal
      have hglobal' : node.globalId = none := hglobal
      simp [isLeftover, hnode, hglobal']

/-- A document that only builds have touched exports what its written nodes publish. -/
theorem exports_prepare_eq (hd : d.asWritten.Plain) (r : Registry) :
    (d.prepare r).exports r = d.written.flatMap (d.published r) := by
  have hwritten : ∀ n ∈ d.source.walk, d.isDerived n = false := fun n hn =>
    (mem_written.1 (d.walk_source ▸ hn)).2
  rw [((renews_source hd).exports_prepare_iff r).2 fun n hn =>
    isLeftover_eq_false hd (hwritten n hn), flatMap_published_source]

end Document

/-- What a document exports is a part of the exports. -/
theorem Snapshot.Current.exportsOf_sublist_all {ok : Document → Prop} {s : Snapshot}
    (h : s.Current ok) (id : DocumentId) : (s.index.exportsOf id).Sublist s.index.all := by
  by_cases hid : id ∈ s.workspace.ids
  · rw [h.all_eq, List.flatMap_def]
    exact List.sublist_flatten_of_mem (List.mem_map_of_mem hid)
  · rw [← h.exports_keys, ← Keyed.get?_eq_none_iff] at hid
    rw [Index.exportsOf, hid]
    exact List.nil_sublist _

/-- A snapshot with nothing out of date whose index holds of every document what its written nodes
publish. -/
structure Snapshot.Publishes (s : Snapshot) : Prop where
  /-- Nothing is out of date. -/
  current : s.Current Document.WellFormed
  /-- The exports of a document are what its written nodes publish. -/
  exportsOf_eq : ∀ id d, s.workspace.get? id = some d →
    s.index.exportsOf id = d.written.flatMap (d.published s.registry)

namespace Snapshot.Publishes

variable {s : Snapshot} (h : s.Publishes) {x : Description}
include h

/-- The exports are what the written nodes of the documents publish, in order. -/
theorem all_eq : s.index.all =
    s.workspace.list.flatMap fun d => d.written.flatMap (d.published s.registry) := by
  rw [h.current.all_eq]
  exact h.current.workspace.flatMap_ids h.exportsOf_eq

/-- Whatever a written node publishes is among the exports. -/
theorem mem_all {id : DocumentId} {d : Document} (hd : s.workspace.get? id = some d) {n : NodeId}
    (hn : d.isDerived n = false) (hx : x ∈ d.published s.registry n) : x ∈ s.index.all := by
  obtain ⟨k, l, g, hk, -⟩ := Document.mem_published_iff.1 hx
  have hlist := h.current.workspace.mem_list_of_get? hd
  have hwalk : n ∈ d.walk :=
    (h.current.isTree hd).mem_walk_iff.2 (Document.index_lt_of_kind? hk)
  rw [h.all_eq]
  exact List.mem_flatMap.2 ⟨d, hlist,
    List.mem_flatMap.2 ⟨n, Document.mem_written.2 ⟨hwalk, hn⟩, hx⟩⟩

/-- Whatever is exported is published by the written node that it is about. -/
theorem exists_of_mem_all (hx : x ∈ s.index.all) :
    ∃ d, s.workspace.get? x.node.document = some d ∧ d.isDerived x.node.node = false ∧
      x ∈ d.published s.registry x.node.node := by
  obtain ⟨d, hd, hexported, -⟩ := h.current.of_mem_all hx
  rw [h.exportsOf_eq _ d hd] at hexported
  obtain ⟨n, hn, hpublished⟩ := List.mem_flatMap.1 hexported
  have hnode : x.node.node = n := by
    obtain ⟨k, l, g, -, -, -, -, rfl | rfl⟩ := Document.mem_published_iff.1 hpublished <;> rfl
  rw [hnode]
  exact ⟨d, hd, (Document.mem_written.1 hn).2, hpublished⟩

/-- What a document exports is at its address. -/
theorem uri_of_mem_exportsOf {id : DocumentId} {d : Document} (hd : s.workspace.get? id = some d)
    (hx : x ∈ s.index.exportsOf id) : x.uri = d.uri := by
  rw [h.exportsOf_eq id d hd] at hx
  obtain ⟨n, -, hpublished⟩ := List.mem_flatMap.1 hx
  obtain ⟨k, l, g, -, -, -, -, rfl | rfl⟩ := Document.mem_published_iff.1 hpublished <;> rfl

/-- Whatever is exported is exported by the document at its address. -/
theorem exists_at?_of_mem_all (hx : x ∈ s.index.all) :
    ∃ d, s.workspace.at? x.uri = some d ∧ x ∈ s.index.exportsOf d.id := by
  obtain ⟨d, hd, hexported, -⟩ := h.current.of_mem_all hx
  refine ⟨d, ?_, (h.current.workspace.id_eq _ d hd).symm ▸ hexported⟩
  rw [h.uri_of_mem_exportsOf hd hexported]
  exact h.current.workspace.at?_of_get? hd

/-- A document of no data model exports nothing. -/
theorem exportsOf_eq_nil {id : DocumentId} {d : Document} (hd : s.workspace.get? id = some d)
    (hnone : s.registry.modelOf? d = none) : s.index.exportsOf id = [] := by
  rw [h.exportsOf_eq id d hd]
  refine List.flatMap_eq_nil_iff.2 fun n _ => List.eq_nil_iff_forall_not_mem.2 fun x hx => ?_
  obtain ⟨k, l, g, -, -, -, hg, -⟩ := Document.mem_published_iff.1 hx
  rw [Registry.globalId?_eq_none_of_modelOf?_eq_none hnone] at hg
  cases hg

/-- Whatever is exported belongs to a data model. -/
theorem exists_dataModel (hx : x ∈ s.index.all) : ∃ m, x.dataModel = some m := by
  obtain ⟨d, hd, hexported, hmodel⟩ := h.current.of_mem_all hx
  rw [hmodel, ← Option.isSome_iff_exists, Option.isSome_iff_ne_none]
  intro hnone
  rw [h.exportsOf_eq_nil hd hnone] at hexported
  cases hexported

end Snapshot.Publishes

/-- After any sound actions and a rebuild the index holds what the written nodes publish. -/
theorem Session.Reachable.publishes {s : Session} (hs : s.Reachable) :
    s.host.rebuild.toSnapshot.Publishes where
  current := hs.current
  exportsOf_eq id d hd := by
    obtain ⟨hconsistent, hauthored, hfresh⟩ := hs.fresh
    have hplain := hs.current_plain.all Document.lasting_plain id d hd
    have hexports : s.host.rebuild.index.exports.get? id =
        some ((d.prepare s.host.rebuild.registry).exports s.host.rebuild.registry) :=
      (Host.upToDate_rebuild hconsistent hauthored.workspace hfresh hd).exports_eq
    rw [Index.exportsOf, hexports, Option.getD_some, Document.exports_prepare_eq hplain]

end ModelBinding
