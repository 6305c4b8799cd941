import ModelBinding.Proofs.Isolation
import ModelBinding.Proofs.Published

/-!
# One more top-level node

Appending a node under the root (`Document.extended`) puts it at the end of the walk and
leaves all other nodes as they are, so the document publishes what it did and then the two
names of the new node. Set in place of the document, after a rebuild it adds these two
descriptions to the exports and changes nothing else in them
(`Session.Reachable.exists_all_extended`).
-/

namespace ModelBinding

namespace Document

variable {d : Document} {r : Registry} {parent n : NodeId} {node : Node}

/-- The document as its author wrote it with one more node, the last one under the root. -/
def extended (d : Document) (draft : Draft) : Document :=
  (d.asWritten.push .root draft.toNode).markParsed

section Push

/-- What no appended child changes of a node is the same after a node was appended. -/
theorem map_node?_push_of_lt {α : Type} {g : Node → α}
    (hg : ∀ m children, g { m with children } = g m) (hn : n.index < d.size) (parent : NodeId)
    (node : Node) : ((d.push parent node).node? n).map g = (d.node? n).map g := by
  rw [node?_push_of_lt hn, Option.map_map]
  refine congrArg (Option.map · _) (funext fun m => ?_)
  simp only [Function.comp_apply]
  split
  · exact hg m _
  · rfl

theorem kind?_push_of_lt (hn : n.index < d.size) (parent : NodeId) (node : Node) :
    (d.push parent node).kind? n = d.kind? n :=
  map_node?_push_of_lt (g := (·.kind)) (fun _ _ => rfl) hn parent node

theorem ownId?_push_of_lt (hn : n.index < d.size) (parent : NodeId) (node : Node) :
    (d.push parent node).ownId? n = d.ownId? n := by
  have hown := map_node?_push_of_lt (g := (·.ownId?)) (fun _ _ => rfl) hn parent node
  simpa only [ownId?, Option.bind_map, Function.comp_def] using
    congrArg (Option.bind · fun own => own) hown

/-- Old nodes publish what they did. -/
theorem published_push_of_lt (hn : n.index < d.size) (parent : NodeId) (node : Node) :
    (d.push parent node).published r n = d.published r n := by
  refine published_congr_below rfl rfl (fun m hm => kind?_push_of_lt hm parent node)
    (fun m hm => ?_) (fun m hm => ownId?_push_of_lt hm parent node) hn
  have hne : m ≠ d.nextNode := fun heq => Nat.lt_irrefl _ (heq ▸ hm)
  rw [parent?_push, if_neg hne]

/-- The root of a tree is there. -/
theorem IsTree.root_lt (h : d.IsTree) : NodeId.root.index < d.size := h.size_pos

/-- The root of a tree is not the node to come. -/
theorem IsTree.root_ne_nextNode (h : d.IsTree) : NodeId.root ≠ d.nextNode := fun heq =>
  Nat.lt_irrefl d.size (heq ▸ h.root_lt :)

/-- A node inside another is not the root. -/
theorem IsTree.ne_root_of_mem_children (h : d.IsTree) {c : NodeId} (hc : c ∈ d.children n) :
    c ≠ .root := by
  rintro rfl
  exact Nat.not_lt_zero _ (h.index_lt_of_mem_children hc)

/-- A node inside another is there. -/
theorem IsTree.lt_of_mem_children (h : d.IsTree) {c : NodeId} (hc : c ∈ d.children n) :
    c.index < d.size :=
  h.mem_walk_iff.1 ((h.children_sublist_walk n).subset hc)

variable (h : d.IsTree) (hnode : node.children = [])
include h hnode

/-- Below other nodes than its container an appended node does not show. -/
theorem IsTree.descendants_push (hroot : n ≠ .root) (hn : n.index < d.size) :
    (d.push .root node).descendants n = d.descendants n := by
  have hpush := h.push h.root_lt hnode
  induction hk : d.size - n.index using Nat.strongRecOn generalizing n with
  | ind k ih =>
    have hlt : n.index < (d.push .root node).size := by
      rw [size_push]
      exact Nat.lt_succ_of_lt hn
    rw [h.descendants_eq hn, hpush.descendants_eq hlt, children_push h.root_lt hnode, if_neg hroot]
    refine congrArg (n :: ·) (List.flatMap_congr fun c hc => ?_)
    have hindex := h.index_lt_of_mem_children hc
    have hc' := h.lt_of_mem_children hc
    exact ih _ (by omega) (h.ne_root_of_mem_children hc) hc' rfl

/-- A node appended under the root comes last in the walk. -/
theorem IsTree.walk_push : (d.push .root node).walk = d.walk ++ [d.nextNode] := by
  have hpush := h.push h.root_lt hnode
  have hnext : (d.push .root node).descendants d.nextNode = [d.nextNode] := by
    have hlt : d.nextNode.index < (d.push .root node).size := by
      rw [size_push]
      exact Nat.lt_succ_self _
    have hchildren : (d.push .root node).children d.nextNode = [] := by
      rw [children_push h.root_lt hnode, if_neg h.root_ne_nextNode.symm, children,
        show d.node? d.nextNode = none from List.getElem?_eq_none (Nat.le_refl _)]
      rfl
    rw [hpush.descendants_eq hlt, hchildren, List.flatMap_nil]
  rw [walk, walk, h.descendants_eq h.root_lt, hpush.descendants_eq hpush.root_lt,
    children_push h.root_lt hnode, if_pos rfl, List.flatMap_append, List.flatMap_singleton, hnext,
    List.cons_append]
  refine congrArg (NodeId.root :: · ++ [d.nextNode]) (List.flatMap_congr fun c hc => ?_)
  exact h.descendants_push hnode (h.ne_root_of_mem_children hc) (h.lt_of_mem_children hc)

/-- A node appended under a root without identifier is published under its own identifier and,
qualified by the reference name of the data model, under its Global ID. -/
theorem IsTree.published_push_nextNode (hroot : d.ownId? .root = none) {m : DataModelId}
    (hm : r.modelOf? d = some m) {reference : String}
    (hreference : r.referenceName? m = some reference) (hidentified : node.kind.isIdentified = true)
    (hkind : node.kind ≠ .dataModel) {own : String} (hown : node.ownId? = some own) :
    (d.push .root node).published r d.nextNode =
      [d.describe (some m) d.nextNode node.kind own .localForm,
        d.describe (some m) d.nextNode node.kind (Name.qualify reference own) .globalForm] := by
  have hpush := h.push h.root_lt hnode
  have hnext : (d.push .root node).node? d.nextNode = some { node with parent := some .root } := by
    rw [node?_push, if_pos rfl, Option.map_some, if_neg h.root_ne_nextNode]
  have hk : (d.push .root node).kind? d.nextNode = some node.kind := by
    rw [kind?, hnext, Option.map_some]
  have hlocal : (d.push .root node).localId? d.nextNode = some own := by
    have hparent : (d.push .root node).parent? d.nextNode = some .root := by
      rw [parent?_push, if_pos rfl]
    have hown' : (d.push .root node).ownId? d.nextNode = some own := by
      rw [ownId?, hnext, Option.bind_some]
      exact hown
    have hroot' : (d.push .root node).ownId? .root = none :=
      (ownId?_push_of_lt h.root_lt .root node).trans hroot
    have houter : (d.push .root node).containerIds .root = [] := by
      rw [containerIds, ancestors, hpush.parent?_root]
      rfl
    rw [hpush.localId?_eq hparent hown', houter, hroot']
    simp
  have hmodel : r.modelOf? (d.push .root node) = some m := hm
  have hglobal :
      r.globalId? (d.push .root node) d.nextNode = some (Name.qualify reference own) := by
    rw [Registry.globalId?_of_modelOf? hmodel hreference, qualifiedId?, hk, Option.bind_some,
      if_neg hkind, hlocal, Option.map_some]
  obtain ⟨g, hg, hpublished⟩ := published_eq_of_localId? hmodel hk hidentified hlocal
  rw [hpublished, ← Option.some.inj (hglobal.symm.trans hg)]
  rfl

end Push

/-- A document built from drafts with one more node is built from drafts. -/
theorem drafted_extended (hd : d.asWritten.Drafted) (draft : Draft) :
    (d.extended draft).Drafted := by
  obtain ⟨uri, drafts, hfirst, hdrafts⟩ := hd
  refine ⟨uri, drafts ++ [(.root, draft)], fun i entry hi => ?_, ?_⟩
  · rw [List.getElem?_append] at hi
    split at hi
    · exact hfirst i entry hi
    · rw [List.mem_singleton.1 (List.mem_of_getElem? hi)]
      exact Nat.zero_le i
  · rw [extended, hdrafts, ofDrafts, ofDrafts, List.foldl_append]
    rfl

/-- What is built from drafts is a tree under any number. -/
theorem isTree_source (hd : d.asWritten.Drafted) : d.source.IsTree := by
  obtain ⟨uri, drafts, hfirst, hdrafts⟩ := hd
  have htree : d.asWritten.IsTree := hdrafts ▸ isTree_ofDrafts uri hfirst
  exact htree.congr rfl (fun _ => rfl) fun _ => rfl

/-- What a document, built from drafts, publishes with one more node: what it published and the two
names of the node. -/
theorem flatMap_published_extended (hd : d.asWritten.Drafted) {m : DataModelId}
    (hm : r.modelOf? d = some m) {reference : String}
    (hreference : r.referenceName? m = some reference) {draft : Draft}
    (hidentified : draft.kind.isIdentified = true) (hkind : draft.kind ≠ .dataModel) {own : String}
    (hown : draft.toNode.ownId? = some own) {e : Document}
    (he : e.source = { d.extended draft with id := d.id }) :
    e.written.flatMap (e.published r) = d.written.flatMap (d.published r) ++
      [d.describe (some m) d.source.nextNode draft.kind own .localForm,
        d.describe (some m) d.source.nextNode draft.kind (Name.qualify reference own)
          .globalForm] := by
  have htree := isTree_source hd
  obtain ⟨children, hnode⟩ := node?_root_of_drafted hd
  have hroot : d.source.ownId? .root = none := by
    show (d.asWritten.node? .root).bind _ = none
    rw [hnode]
    rfl
  have hpushed : e.source = (d.source.push .root draft.toNode).markParsed := he
  have hwalk : e.source.walk = (d.source.push .root draft.toNode).walk := by
    rw [hpushed]
    exact descendants_congr (d := d.source.push .root draft.toNode)
      (e := (d.source.push .root draft.toNode).markParsed) (fun _ => rfl) .root
  have hpublished : ∀ n, e.source.published r n =
      (d.source.push .root draft.toNode).published r n := fun n =>
    hpushed ▸ published_congr_below rfl rfl (fun _ _ => rfl) (fun _ _ => rfl) (fun _ _ => rfl)
      (Nat.lt_succ_self n.index)
  rw [← flatMap_published_source, ← flatMap_published_source, hwalk, htree.walk_push rfl,
    List.flatMap_append, List.flatMap_singleton, funext hpublished,
    htree.published_push_nextNode rfl hroot hm hreference hidentified hkind hown]
  refine congrArg (· ++ _) (List.flatMap_congr fun n hn => ?_)
  exact published_push_of_lt (htree.mem_walk_iff.1 hn) _ _

end Document

namespace Session.Reachable

variable {s : Session} (hs : s.Reachable) {d : Document}
  (hd : s.host.rebuild.workspace.get? d.id = some d) (draft : Draft)
include hs hd

/-- Setting a document with one more node is sound. -/
theorem reachable_extended :
    ((s.step .rebuild).step (.set (d.extended draft))).Reachable :=
  (hs.step (a := .rebuild) trivial).step (a := .set (d.extended draft))
    (Document.drafted_extended (hs.drafted hd) draft)

/-- After a document was set with one more node and a rebuild, the documents have the numbers they
had, the other ones export what they did, and the document is as it was set. -/
theorem frame_extended {t : Snapshot}
    (ht : t = ((s.step .rebuild).step (.set (d.extended draft))).host.rebuild.toSnapshot) :
    t.workspace.ids = s.host.rebuild.workspace.ids ∧ t.registry = s.host.rebuild.registry ∧
      (∀ id, id ≠ d.id → t.index.exportsOf id = s.host.rebuild.index.exportsOf id) ∧
      ∃ e, t.workspace.get? d.id = some e ∧ e.source = { d.extended draft with id := d.id } := by
  have hany : ∀ {s : Session}, s.Reachable → s.host.rebuild.toSnapshot.Current fun _ => True := by
    rintro _ ⟨registry, actions, -, rfl⟩
    exact current_rebuild_of_run registry actions
  have hafter := hs.reachable_extended hd draft
  have hplain := (Document.drafted_extended (hs.drafted hd) draft).plain
  have hid : s.host.rebuild.workspace.idOf? (d.extended draft).uri = some d.id :=
    hs.current.workspace.idOf?_eq_some_iff.2 ⟨d, hd, rfl⟩
  have hinserted : (s.host.rebuild.workspace.insert (d.extended draft)).1 = d.id := by
    rw [Workspace.insert_of_idOf? hid]
  have hdiffer := Host.differAt_setDocument hs.authored.1.rebuild (Host.isDirty_rebuild _)
    (hany hs) (d.extended draft) (hany hafter)
  rw [hinserted] at hdiffer
  have hworkspace : ((s.step .rebuild).step (.set (d.extended draft))).host.workspace =
      (s.host.rebuild.workspace.insert (d.extended draft)).2 :=
    congrArg Snapshot.workspace (Host.toSnapshot_setDocument _ _)
  obtain ⟨hconsistent, hauthored⟩ := hafter.authored
  subst ht
  refine ⟨?_, hdiffer.registry, fun id hne => hdiffer.exportsOf hne, ?_⟩
  · rw [(Host.frame_rebuild _).1, hworkspace, Workspace.ids_insert, hinserted,
      if_pos (Workspace.mem_ids_of_get? hd)]
  · have hwritten := Host.written_rebuild hconsistent hauthored.workspace d.id
    have hset : ((s.step .rebuild).step (.set (d.extended draft))).host.workspace.written? d.id =
        some (d.extended draft) := by
      rw [hworkspace, Workspace.written?, ← hinserted, Workspace.get?_insert, Option.map_some,
        Document.asWritten_withId, hplain.asWritten_eq]
    rw [hset] at hwritten
    obtain ⟨e, he, hsource⟩ := Option.map_eq_some_iff.1 hwritten
    refine ⟨e, he, ?_⟩
    rw [Document.source, hsource, hafter.current.workspace.id_eq d.id e he]

/-- After a document of a data model was set with one more node and a rebuild, the two names of the
node are among the exports; the other exports are as they were, in the same order. -/
theorem exists_all_extended {m : DataModelId}
    (hm : s.host.rebuild.registry.modelOf? d = some m) {reference : String}
    (hreference : s.host.rebuild.registry.referenceName? m = some reference)
    (hidentified : draft.kind.isIdentified = true) (hkind : draft.kind ≠ .dataModel) {own : String}
    (hown : draft.toNode.ownId? = some own) {t : Snapshot}
    (ht : t = ((s.step .rebuild).step (.set (d.extended draft))).host.rebuild.toSnapshot) :
    ∃ front back, s.host.rebuild.index.all = front ++ back ∧
      t.index.all = front ++
        d.describe (some m) d.source.nextNode draft.kind own .localForm ::
          d.describe (some m) d.source.nextNode draft.kind (Name.qualify reference own)
            .globalForm :: back := by
  obtain ⟨hids, hregistry, hothers, e, he, hsource⟩ := hs.frame_extended hd draft ht
  have hpublishes : t.Publishes := ht ▸ (hs.reachable_extended hd draft).publishes
  have hown := Document.flatMap_published_extended (hs.drafted hd) hm hreference hidentified hkind
    hown hsource
  rw [← hs.publishes.exportsOf_eq _ d hd, ← hregistry, ← hpublishes.exportsOf_eq _ e he] at hown
  -- The number of the document stands once among those of all documents.
  obtain ⟨before, behind, hsplit⟩ := List.append_of_mem (Workspace.mem_ids_of_get? hd)
  have hnodup := hs.current.workspace.nodup_ids
  rw [hsplit, List.nodup_append, List.nodup_cons] at hnodup
  obtain ⟨-, ⟨hbehind, -⟩, hbefore⟩ := hnodup
  have hsame : ∀ l : List DocumentId, d.id ∉ l →
      l.flatMap t.index.exportsOf = l.flatMap s.host.rebuild.index.exportsOf := fun l hl =>
    List.flatMap_congr fun id hid => hothers id fun heq => hl (heq ▸ hid)
  have hnot : d.id ∉ before := fun hmem => hbefore _ hmem _ (List.mem_cons_self ..) rfl
  refine ⟨before.flatMap s.host.rebuild.index.exportsOf ++ s.host.rebuild.index.exportsOf d.id,
    behind.flatMap s.host.rebuild.index.exportsOf, ?_, ?_⟩
  · rw [hs.current.all_eq, hsplit, List.flatMap_append, List.flatMap_cons, List.append_assoc]
  · rw [hpublishes.current.all_eq, hids, hsplit, List.flatMap_append, List.flatMap_cons, hown,
      hsame before hnot, hsame behind hbehind]
    simp

end Session.Reachable

end ModelBinding
