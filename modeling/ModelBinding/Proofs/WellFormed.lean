import ModelBinding.Proofs.Built
import Mathlib.Data.List.Nodup
import Mathlib.Data.List.Perm.Subperm

/-!
# Well-formed documents

What is built from drafts is a tree: every node but the root stands once in the list of
children of its parent, and behind it. So the walk meets every node once
(`nodup_walk`, `mem_walk`), and the nodes inside a given one in the order of its list of
children (`filter_walk_parent`). What the author wrote stays such a tree whatever builds
add to the document (`WellFormed`, `lasting_wellFormed`).
-/

namespace ModelBinding

namespace Document

variable {d e : Document}

/-- A document whose nodes form a tree. -/
structure IsTree (d : Document) : Prop where
  /-- There is a root. -/
  size_pos : 0 < d.size
  /-- The root is in no node. -/
  parent?_root : d.parent? .root = none
  /-- Every other node is inside one that stands before it. -/
  exists_parent : ∀ n, n ≠ .root → n.index < d.size →
    ∃ p, d.parent? n = some p ∧ p.index < n.index ∧ n ∈ d.children p
  /-- A child has the node as its parent. -/
  parent?_of_mem : ∀ n c, c ∈ d.children n → d.parent? c = some n
  /-- No child is listed twice. -/
  nodup_children : ∀ n, (d.children n).Nodup

/-- A document of which the author wrote what is there, and wrote a tree. -/
structure WellFormed (d : Document) : Prop where
  /-- At most what is there is written. -/
  parsedLen_le : d.parsedLen ≤ d.size
  /-- It is a tree. -/
  tree : d.asWritten.IsTree

/-- A node with a parent is there. -/
theorem index_lt_of_parent? {n p : NodeId} (h : d.parent? n = some p) : n.index < d.size := by
  obtain ⟨node, hnode, -⟩ := Option.bind_eq_some_iff.1 h
  exact (node?_isSome_iff d n).1 (by simp [hnode])

/-- Documents with the same parents and lists of children form trees alike. -/
theorem IsTree.congr (h : d.IsTree) (hsize : e.size = d.size)
    (hparent : ∀ n, e.parent? n = d.parent? n) (hchildren : ∀ n, e.children n = d.children n) :
    e.IsTree where
  size_pos := hsize ▸ h.size_pos
  parent?_root := (hparent _).trans h.parent?_root
  exists_parent n hn hlt := by
    simp only [hparent, hchildren]
    exact h.exists_parent n hn (hsize ▸ hlt)
  parent?_of_mem n c := by
    rw [hparent, hchildren]
    exact h.parent?_of_mem n c
  nodup_children n := by
    rw [hchildren]
    exact h.nodup_children n

/-- What references remember has no part in whether a document is a tree. -/
theorem IsTree.of_resetReferences_eq (h : d.IsTree) (heq : e.resetReferences = d.resetReferences) :
    e.IsTree := by
  have halike := alike_of_resetReferences_eq heq
  exact h.congr halike.size halike.parent? halike.children

namespace IsTree

variable (h : d.IsTree)
include h

/-- The parent of a node stands before it and lists it as a child. -/
theorem of_parent? {p c : NodeId} (hparent : d.parent? c = some p) :
    p.index < c.index ∧ c ∈ d.children p := by
  have hroot : c ≠ .root := by
    rintro rfl
    rw [h.parent?_root] at hparent
    cases hparent
  obtain ⟨p', hp, hlt, hmem⟩ := h.exists_parent c hroot (index_lt_of_parent? hparent)
  rw [hparent] at hp
  cases hp
  exact ⟨hlt, hmem⟩

/-- What contains a node is its parent and what contains that. -/
theorem ancestors_eq {n p : NodeId} (hp : d.parent? n = some p) :
    d.ancestors n = p :: d.ancestors p := by
  rw [ancestors, hp]
  exact if_pos (h.of_parent? hp).1

/-- The identifiers around a node are those around its parent, then that of the parent. -/
theorem containerIds_eq {n p : NodeId} (hp : d.parent? n = some p) :
    d.containerIds n = d.containerIds p ++ (d.ownId? p).toList := by
  rw [containerIds, containerIds, h.ancestors_eq hp, List.filterMap_cons]
  cases d.ownId? p <;> simp

/-- The Local ID of a node with a parent. -/
theorem localId?_eq {n p : NodeId} (hp : d.parent? n = some p) {own : String}
    (hown : d.ownId? n = some own) :
    d.localId? n = some (Name.join (d.containerIds p ++ ((d.ownId? p).toList ++ [own]))) := by
  rw [localId?, hown, Option.map_some, h.containerIds_eq hp, List.append_assoc]

/-- The Local ID of a node whose parent has one is qualified by that. -/
theorem localId?_eq_qualify {n p : NodeId} (hp : d.parent? n = some p) {own l : String}
    (hown : d.ownId? n = some own) (hl : d.localId? p = some l) :
    d.localId? n = some (Name.qualify l own) := by
  obtain ⟨parentId, hparentId, rfl⟩ := Option.map_eq_some_iff.1 hl
  rw [h.localId?_eq hp hown, hparentId, Option.toList_some, ← List.append_assoc,
    Name.join_append (by simp) (by simp), Name.join_singleton]

/-- What contains a node that is or contains another one contains that one too. -/
theorem parent_mem_ancestors {n c p : NodeId} (hc : c ∈ n :: d.ancestors n)
    (hp : d.parent? c = some p) : p ∈ d.ancestors n := by
  rcases List.mem_cons.1 hc with rfl | hc
  · rw [h.ancestors_eq hp]
    exact List.mem_cons_self ..
  · fun_induction ancestors d n with
    | case1 => cases hc
    | case2 n q _ _ ih =>
      rcases List.mem_cons.1 hc with rfl | hc
      · rw [h.ancestors_eq hp]
        exact List.mem_cons_of_mem _ (List.mem_cons_self ..)
      · exact List.mem_cons_of_mem _ (ih (List.mem_cons_of_mem _ hc) hc)
    | case3 => cases hc

/-- A node that is not of the root's kind has a parent, if the root is. -/
theorem exists_parent_of_kind? (hroot : d.kind? .root = some .root) {n : NodeId}
    {k : NodeKind} (hk : d.kind? n = some k) (hne : k ≠ .root) : ∃ p, d.parent? n = some p := by
  have hn : n ≠ .root := by
    rintro rfl
    exact hne (Option.some.inj (hk.symm.trans hroot))
  obtain ⟨p, hp, -⟩ := h.exists_parent n hn (index_lt_of_kind? hk)
  exact ⟨p, hp⟩

/-- Children stand behind the node. -/
theorem index_lt_of_mem_children {n c : NodeId} (hc : c ∈ d.children n) : n.index < c.index :=
  (h.of_parent? (h.parent?_of_mem n c hc)).1

/-- What is below a node: the node, then what is below each of its children. -/
theorem descendants_eq {n : NodeId} (hn : n.index < d.size) :
    d.descendants n = n :: (d.children n).flatMap d.descendants := by
  obtain ⟨node, hnode⟩ := Option.isSome_iff_exists.1 ((node?_isSome_iff d n).2 hn)
  have hchildren : d.children n = node.children := by simp [children, hnode]
  rw [descendants_of_node? hnode, hchildren]
  refine congrArg (n :: ·) (List.flatMap_congr fun c hc => ?_)
  rw [if_pos (h.index_lt_of_mem_children (hchildren ▸ hc))]

/-- What is below a child is below the node. -/
theorem descendants_sublist_of_mem_children {n c : NodeId} (hc : c ∈ d.children n) :
    (d.descendants c).Sublist (d.descendants n) := by
  have hn : n.index < d.size :=
    Nat.lt_trans (h.index_lt_of_mem_children hc) (index_lt_of_parent? (h.parent?_of_mem n c hc))
  rw [h.descendants_eq hn, List.flatMap_def]
  exact (List.sublist_flatten_of_mem (List.mem_map_of_mem hc)).cons n

/-- A node that is there is below itself. -/
theorem mem_descendants_self {n : NodeId} (hn : n.index < d.size) : n ∈ d.descendants n := by
  rw [h.descendants_eq hn]
  exact List.mem_cons_self ..

/-- Whatever is below a node is this node or inside a node that is below it. -/
theorem eq_or_exists_parent_of_mem_descendants {n m : NodeId} (hm : m ∈ d.descendants n) :
    m = n ∨ ∃ p ∈ d.descendants n, d.parent? m = some p := by
  induction n using descendants.induct d with
  | case1 n hnode =>
    rw [descendants_of_node?_eq_none hnode] at hm
    cases hm
  | case2 n node hnode ih =>
    have hn : n.index < d.size := (node?_isSome_iff d n).1 (by simp [hnode])
    rw [h.descendants_eq hn] at hm ⊢
    rcases List.mem_cons.1 hm with rfl | hm
    · exact Or.inl rfl
    · obtain ⟨c, hc, hm⟩ := List.mem_flatMap.1 hm
      refine Or.inr ?_
      rcases ih c (h.index_lt_of_mem_children hc) hm with rfl | ⟨p, hp, hparent⟩
      · exact ⟨n, List.mem_cons_self .., h.parent?_of_mem n m hc⟩
      · exact ⟨p, List.mem_cons_of_mem _ (List.mem_flatMap.2 ⟨c, hc, hp⟩), hparent⟩

/-- Different children have nothing below them in common. -/
theorem disjoint_descendants {n c c' : NodeId} (hc : c ∈ d.children n) (hc' : c' ∈ d.children n)
    (hne : c ≠ c') : (d.descendants c).Disjoint (d.descendants c') := by
  -- What is below both is inside something that is below both, and so on up to the children.
  intro m
  induction hk : m.index using Nat.strongRecOn generalizing m with
  | ind k ih =>
    intro hm hm'
    have hnotMem : ∀ c, c ∈ d.children n → n ∉ d.descendants c := fun c hc hn =>
      absurd (index_le_of_mem_descendants hn) (Nat.not_le.2 (h.index_lt_of_mem_children hc))
    rcases h.eq_or_exists_parent_of_mem_descendants hm with rfl | ⟨p, hp, hparent⟩
    · rcases h.eq_or_exists_parent_of_mem_descendants hm' with rfl | ⟨p, hp, hparent⟩
      · exact hne rfl
      · rw [h.parent?_of_mem n m hc] at hparent
        cases hparent
        exact hnotMem c' hc' hp
    · rcases h.eq_or_exists_parent_of_mem_descendants hm' with rfl | ⟨p', hp', hparent'⟩
      · rw [h.parent?_of_mem n m hc'] at hparent
        cases hparent
        exact hnotMem c hc hp
      · rw [hparent] at hparent'
        cases hparent'
        exact ih p.index (hk ▸ (h.of_parent? hparent).1) rfl hp hp'

/-- Going down meets nothing twice. -/
theorem nodup_descendants (n : NodeId) : (d.descendants n).Nodup := by
  induction n using descendants.induct d with
  | case1 n hnode =>
    rw [descendants_of_node?_eq_none hnode]
    exact List.nodup_nil
  | case2 n node hnode ih =>
    rw [h.descendants_eq ((node?_isSome_iff d n).1 (by simp [hnode])), List.nodup_cons,
      List.nodup_flatMap]
    refine ⟨fun hn => ?_, fun c hc => ih c (h.index_lt_of_mem_children hc), ?_⟩
    · obtain ⟨c, hc, hn⟩ := List.mem_flatMap.1 hn
      exact absurd (index_le_of_mem_descendants hn) (Nat.not_le.2 (h.index_lt_of_mem_children hc))
    · exact (h.nodup_children n).pairwise_of_forall_ne fun c hc c' hc' hne =>
        h.disjoint_descendants hc hc' hne

/-- The walk meets nothing twice. -/
theorem nodup_walk : d.walk.Nodup := h.nodup_descendants .root

/-- What is below every node that is there is part of the walk. -/
theorem descendants_sublist_walk {n : NodeId} (hn : n.index < d.size) :
    (d.descendants n).Sublist d.walk := by
  induction hk : n.index using Nat.strongRecOn generalizing n with
  | ind k ih =>
    by_cases hroot : n = .root
    · rw [hroot]
      exact List.Sublist.refl _
    · obtain ⟨p, -, hlt, hmem⟩ := h.exists_parent n hroot hn
      exact (h.descendants_sublist_of_mem_children hmem).trans
        (ih p.index (hk ▸ hlt) (Nat.lt_trans hlt hn) rfl)

/-- The walk meets every node that is there. -/
theorem mem_walk_iff {n : NodeId} : n ∈ d.walk ↔ n.index < d.size := by
  constructor
  · intro hn
    rcases h.eq_or_exists_parent_of_mem_descendants hn with rfl | ⟨p, -, hparent⟩
    · exact h.size_pos
    · exact index_lt_of_parent? hparent
  · intro hn
    exact (h.descendants_sublist_walk hn).subset (h.mem_descendants_self hn)

/-- A node and then its children are part of the walk, in order. -/
theorem cons_children_sublist_walk {n : NodeId} (hn : n.index < d.size) :
    (n :: d.children n).Sublist d.walk := by
  have hflat : ∀ cs : List NodeId, (∀ c ∈ cs, c.index < d.size) →
      cs.Sublist (cs.flatMap d.descendants) := by
    intro cs
    induction cs with
    | nil => exact fun _ => List.Sublist.refl _
    | cons c cs ih =>
      intro hcs
      rw [List.flatMap_cons, h.descendants_eq (hcs c (List.mem_cons_self ..))]
      exact ((ih fun c' hc' => hcs c' (List.mem_cons_of_mem _ hc')).trans
        (List.sublist_append_right _ _)).cons_cons c
  refine List.Sublist.trans ?_ (h.descendants_sublist_walk hn)
  rw [h.descendants_eq hn]
  exact (hflat _ fun c hc => index_lt_of_parent? (h.parent?_of_mem n c hc)).cons_cons n

/-- The children of a node are part of the walk, in order. -/
theorem children_sublist_walk (n : NodeId) : (d.children n).Sublist d.walk := by
  cases hnode : d.node? n with
  | none =>
    have hchildren : d.children n = [] := by simp [children, hnode]
    rw [hchildren]
    exact List.nil_sublist _
  | some node =>
    have hn : n.index < d.size := (node?_isSome_iff d n).1 (by simp [hnode])
    exact (List.sublist_cons_self n _).trans (h.cons_children_sublist_walk hn)

/-- The walk meets the nodes inside a given one in the order of its list of children. -/
theorem filter_walk_parent (n : NodeId) : d.walk.filter (d.parent? · = some n) = d.children n := by
  have hsublist := (h.children_sublist_walk n).filter (d.parent? · = some n)
  rw [List.filter_eq_self.2 fun c hc => by simpa using h.parent?_of_mem n c hc] at hsublist
  have hsubset : d.walk.filter (d.parent? · = some n) ⊆ d.children n := fun c hc => by
    have hparent : d.parent? c = some n := by simpa using (List.mem_filter.1 hc).2
    exact (h.of_parent? hparent).2
  exact (hsublist.eq_of_length_le ((h.nodup_walk.filter _).subperm hsubset).length_le).symm

end IsTree

section Drafts

/-- An appended node has the parent that it was given, and the others keep theirs. -/
theorem parent?_push (d : Document) (parent : NodeId) (node : Node) (n : NodeId) :
    (d.push parent node).parent? n = if n = d.nextNode then some parent else d.parent? n := by
  rw [parent?, node?_push, Option.bind_map]
  have hparent : (Node.parent ∘ fun m : Node =>
      if parent = n then { m with children := m.children ++ [d.nextNode] } else m) =
        Node.parent := by
    funext m
    simp only [Function.comp_apply]
    split <;> rfl
  rw [hparent]
  split
  · rfl
  · rfl

/-- Appending a node that contains nothing adds one child to its parent. -/
theorem children_push {parent : NodeId} (hparent : parent.index < d.size) {node : Node}
    (hnode : node.children = []) (n : NodeId) : (d.push parent node).children n =
      if n = parent then d.children n ++ [d.nextNode] else d.children n := by
  have hnext : d.node? d.nextNode = none := List.getElem?_eq_none (Nat.le_refl _)
  have hne : parent ≠ d.nextNode := by
    rintro rfl
    exact Nat.lt_irrefl _ hparent
  rw [children, node?_push, Option.map_map]
  by_cases hn : n = d.nextNode
  · subst hn
    simp [hne, Ne.symm hne, hnode, children, hnext]
  · by_cases hp : n = parent
    · subst hp
      obtain ⟨m, hm⟩ := Option.isSome_iff_exists.1 ((node?_isSome_iff d n).2 hparent)
      simp [hn, children, hm]
    · simp [hn, hp, Ne.symm hp, children, Function.comp_def]

/-- A tree with nothing but its root. -/
theorem isTree_blank (uri : String) : (blank uri).IsTree where
  size_pos := Nat.zero_lt_one
  parent?_root := rfl
  exists_parent := by
    rintro ⟨i⟩ hroot hlt
    have hi : i < 1 := hlt
    obtain rfl : i = 0 := by omega
    exact absurd rfl hroot
  parent?_of_mem := by
    rintro ⟨i⟩ c hc
    cases i <;> simp [blank, children, node?] at hc
  nodup_children := by
    rintro ⟨i⟩
    cases i <;> simp [blank, children, node?]

/-- A tree stays one when a node that contains nothing is appended. -/
theorem IsTree.push (h : d.IsTree) {parent : NodeId} (hparent : parent.index < d.size) {node : Node}
    (hnode : node.children = []) : (d.push parent node).IsTree := by
  have hnext : ∀ n : NodeId, n.index < d.size → n ≠ d.nextNode := by
    rintro n hn rfl
    exact Nat.lt_irrefl _ hn
  have hchild : ∀ n c, c ∈ d.children n → c ≠ d.nextNode := fun n c hc =>
    hnext c (index_lt_of_parent? (h.parent?_of_mem n c hc))
  refine ⟨by simp, ?_, fun n hroot hlt => ?_, fun n c hc => ?_, fun n => ?_⟩
  · rw [parent?_push, if_neg (hnext .root h.size_pos)]
    exact h.parent?_root
  · rw [size_push] at hlt
    simp only [parent?_push, children_push hparent hnode]
    by_cases hn : n = d.nextNode
    · subst hn
      exact ⟨parent, if_pos rfl, hparent, by simp⟩
    · have hlt' : n.index < d.size := by
        refine Nat.lt_of_le_of_ne (Nat.le_of_lt_succ hlt) fun heq => hn ?_
        cases n
        exact congrArg NodeId.mk heq
      obtain ⟨p, hp, hlt, hmem⟩ := h.exists_parent n hroot hlt'
      refine ⟨p, by rw [if_neg hn, hp], hlt, ?_⟩
      split
      · exact List.mem_append_left _ hmem
      · exact hmem
  · rw [children_push hparent hnode] at hc
    rw [parent?_push]
    by_cases hcn : c = d.nextNode
    · subst hcn
      split at hc
      · rename_i heq
        rw [if_pos rfl, heq]
      · exact absurd rfl (hchild n _ hc)
    · rw [if_neg hcn]
      split at hc
      · exact h.parent?_of_mem n c (by simpa [hcn] using hc)
      · exact h.parent?_of_mem n c hc
  · rw [children_push hparent hnode]
    split
    · refine List.nodup_append.2 ⟨h.nodup_children n, List.nodup_singleton _, ?_⟩
      intro c hc c' hc'
      rw [List.mem_singleton.1 hc']
      exact hchild n c hc
    · exact h.nodup_children n

/-- Drafts that stand under the root or under drafts before them make a tree. -/
theorem isTree_ofDrafts (uri : String) {drafts : List (NodeId × Draft)}
    (h : ParentsFirst drafts) : (ofDrafts uri drafts).IsTree := by
  suffices hfold : (drafts.foldl (fun d n => d.push n.1 n.2.toNode) (blank uri)).IsTree ∧
      (drafts.foldl (fun d n => d.push n.1 n.2.toNode) (blank uri)).size = drafts.length + 1 from
    hfold.1.congr rfl (fun _ => rfl) fun _ => rfl
  induction drafts using List.reverseRecOn with
  | nil => exact ⟨isTree_blank uri, rfl⟩
  | append_singleton drafts draft ih =>
    obtain ⟨htree, hsize⟩ := ih fun i draft' hdraft => h i draft'
      (by rw [List.getElem?_append_left (List.getElem?_eq_some_iff.1 hdraft).1, hdraft])
    have hparent : draft.1.index ≤ drafts.length := h drafts.length draft (by simp)
    rw [List.foldl_append, List.foldl_cons, List.foldl_nil]
    refine ⟨htree.push (by omega) rfl, ?_⟩
    rw [size_push, hsize, List.length_append, List.length_singleton]

/-- A document with nothing but its root is built from no drafts. -/
theorem drafted_blank (uri : String) : (blank uri).Drafted :=
  ⟨uri, [], fun _ _ hi => absurd hi (by simp), rfl⟩

/-- A document just as its author wrote it is well formed. -/
theorem Drafted.wellFormed (h : d.Drafted) : d.WellFormed := by
  have hplain := h.plain
  refine ⟨Nat.le_of_eq hplain.parsedLen_eq, ?_⟩
  rw [hplain.asWritten_eq]
  obtain ⟨uri, drafts, hfirst, rfl⟩ := h
  exact isTree_ofDrafts uri hfirst

end Drafts

/-- Without the derived nodes a well-formed document is a tree. -/
theorem WellFormed.isTree_dropDerived (h : d.WellFormed) : d.dropDerived.IsTree :=
  h.tree.congr (size_bare _).symm (fun n => (d.parent?_asWritten n).symm) fun n =>
    (d.children_asWritten n).symm

/-- A prepared document is a tree. -/
theorem WellFormed.isTree_prepare (h : d.WellFormed) (r : Registry) : (d.prepare r).IsTree := by
  have hprepared : (d.prepare r).WellFormed :=
    ⟨Nat.le_of_eq (d.parsedLen_prepare r h.parsedLen_le), d.asWritten_prepare r ▸ h.tree⟩
  exact d.dropDerived_prepare r ▸ hprepared.isTree_dropDerived

/-- Documents stay well formed. -/
theorem lasting_wellFormed : Lasting WellFormed where
  withId d id h := ⟨h.parsedLen_le, h.tree⟩
  congr d e heq h := by
    have hlen : e.parsedLen = d.parsedLen := (congrArg Document.parsedLen heq :)
    have hsize : e.size = d.size := (alike_of_resetReferences_eq heq).size
    exact ⟨by rw [hlen, hsize]; exact h.parsedLen_le, asWritten_congr heq ▸ h.tree⟩
  builtWith d r h := by
    have hcopied := d.copied_builtWith r
    refine ⟨?_, d.asWritten_builtWith h.parsedLen_le r ▸ h.tree⟩
    rw [hcopied.parsedLen_eq, hcopied.size_eq, d.parsedLen_prepare _ h.parsedLen_le]
    exact Nat.le_add_right _ _

end Document

/-- Sound actions set well-formed documents. -/
theorem Action.Sound.sets_wellFormed {a : Action} (h : a.Sound) : a.Sets Document.WellFormed := by
  rintro d rfl
  exact Document.Drafted.wellFormed h

/-- After a rebuild everything in a reachable session was built from well-formed documents. -/
theorem Session.Reachable.current {s : Session} (hs : s.Reachable) :
    s.host.rebuild.toSnapshot.Current Document.WellFormed := by
  obtain ⟨registry, actions, hsound, rfl⟩ := hs
  exact current_rebuild Document.lasting_wellFormed registry
    fun a ha => (hsound a ha).sets_wellFormed

/-- So is every document of one that remembers nothing its author did not write. -/
theorem Session.Reachable.current_plain {s : Session} (hs : s.Reachable) :
    s.host.rebuild.toSnapshot.Current fun d => d.asWritten.Plain := by
  obtain ⟨registry, actions, hsound, rfl⟩ := hs
  exact current_rebuild Document.lasting_plain registry fun a ha => (hsound a ha).sets_plain

end ModelBinding
