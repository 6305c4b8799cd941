import ModelBinding.Proofs.Chains

/-!
# Chains made real

What a document is with an imagined chain in it: the nodes of the chain stand behind all
that was there, each in the one before it (`node?_hang_add`), and the node that the chain
hangs in has got one more child (`node?_hang_of_lt`). A document may also be written with
the chain in it (`Document.continued`). Without derived nodes the two walks differ by the
chain alone (`walk_hang`).
-/

namespace ModelBinding

/-- The node as its author wrote it, outside any tree. -/
def Node.detached (n : Node) : Node :=
  { n.resetReferences with parent := none, children := [], globalId := none }

namespace Node

@[simp] theorem detached_resetReferences (n : Node) : n.resetReferences.detached = n.detached := by
  rw [detached, resetReferences_resetReferences]
  rfl

@[simp] theorem detached_bare (n : Node) : n.bare.detached = n.detached := by
  have hreset := n.detached_resetReferences
  unfold bare
  split
  · rw [← hreset]
    rfl
  · exact hreset

/-- The texts of references are written. -/
@[simp] theorem texts_detached (n : Node) (p : Property) :
    (n.detached.referencesOf p).map (·.text) = (n.referencesOf p).map (·.text) :=
  n.texts_resetReferences p

end Node

namespace Document

variable {d e : Document} {n m : NodeId}

/-- What stands at a place, outside the tree. -/
def detached? (d : Document) (n : NodeId) : Option Node := (d.node? n).map (·.detached)

section Detached

variable (h : e.detached? m = d.detached? n)
include h

/-- What is written in a node shows outside the tree. -/
theorem map_node?_of_detached? {α : Type} {g : Node → α} (hg : ∀ x, g x.detached = g x) :
    (e.node? m).map g = (d.node? n).map g := by
  have hmap := congrArg (·.map g) h
  simpa [detached?, Function.comp_def, hg] using hmap

theorem kind?_of_detached? : e.kind? m = d.kind? n :=
  map_node?_of_detached? (g := (·.kind)) h fun _ => rfl

theorem ownId?_of_detached? : e.ownId? m = d.ownId? n := by
  have hown := map_node?_of_detached? (g := (·.ownId?)) h fun _ => rfl
  simpa only [ownId?, Option.bind_map, Function.comp_def] using
    congrArg (Option.bind · fun own => own) hown

theorem text?_of_detached? (p : Property) (i : Nat) :
    ((e.node? m).bind (·.referenceAt? p i)).map (·.text) =
      ((d.node? n).bind (·.referenceAt? p i)).map (·.text) :=
  text?_of_texts (map_node?_of_detached? (g := fun x => (x.referencesOf p).map (·.text)) h
    fun x => x.texts_detached p) i

end Detached

/-- What a build and look-ups remember does not show outside the tree. -/
theorem detached?_asWritten (d : Document) (n : NodeId) :
    d.asWritten.detached? n = d.dropDerived.detached? n := by
  simp [detached?, asWritten, Function.comp_def]

/-- Outside the tree a prepared document shows what was written. -/
theorem detached?_prepare (d : Document) (r : Registry) (n : NodeId) :
    (d.prepare r).detached? n = d.asWritten.detached? n := by
  rw [← d.asWritten_prepare r, detached?_asWritten, dropDerived_prepare]

theorem parent?_prepare (d : Document) (r : Registry) (n : NodeId) :
    (d.prepare r).parent? n = d.asWritten.parent? n := by
  rw [← d.asWritten_prepare r, parent?_asWritten, dropDerived_prepare]

theorem children_prepare (d : Document) (r : Registry) (n : NodeId) :
    (d.prepare r).children n = d.asWritten.children n := by
  rw [← d.asWritten_prepare r, children_asWritten, dropDerived_prepare]

theorem walk_asWritten (d : Document) : d.asWritten.walk = d.dropDerived.walk := by
  refine descendants_congr (fun n => ?_) .root
  rw [asWritten, node?_bare, Option.map_map]
  exact congrArg (Option.map · _) (funext Node.children_bare)

theorem walk_prepare (d : Document) (r : Registry) : (d.prepare r).walk = d.asWritten.walk := by
  rw [← d.asWritten_prepare r, walk_asWritten, dropDerived_prepare]

end Document

namespace Snapshot

variable {d : Document} {a n : NodeId} {nodes : List ImaginedNode}

/-- The place of the node that contains the `k`-th node of a chain which hangs in `a` and begins at
`first`; for a `k` behind the chain, the place of its last node. -/
def chainParent (a : NodeId) (first : Nat) : Nat → NodeId
  | 0 => a
  | k + 1 => ⟨first + k⟩

/-- The rest of a chain hangs in its first node. -/
theorem chainParent_rest (a : NodeId) (first k : Nat) :
    chainParent ⟨first⟩ (first + 1) k = chainParent a first (k + 1) := by
  cases k with
  | zero => rfl
  | succ k =>
    simp only [chainParent, NodeId.mk.injEq]
    omega

/-- A chain ends in its last node, or where it hangs. -/
theorem snd_hang (d : Document) (a : NodeId) (nodes : List ImaginedNode) :
    (hang d a nodes).2 = chainParent a d.size nodes.length := by
  induction nodes generalizing d a with
  | nil => rfl
  | cons v nodes ih =>
    rw [hang, ih, Document.size_push]
    cases nodes with
    | nil => rfl
    | cons _ nodes =>
      simp only [List.length_cons, chainParent, NodeId.mk.injEq]
      omega

theorem snd_hang_of_ne_nil (hnodes : nodes ≠ []) :
    (hang d a nodes).2 = ⟨d.size + (nodes.length - 1)⟩ := by
  rw [snd_hang]
  cases nodes with
  | nil => exact absurd rfl hnodes
  | cons v nodes => rfl

/-- A chain changes neither the address of a document nor how much of it is written, nor its
number. -/
theorem frame_hang (d : Document) (a : NodeId) (nodes : List ImaginedNode) :
    (hang d a nodes).1.id = d.id ∧ (hang d a nodes).1.uri = d.uri ∧
      (hang d a nodes).1.parsedLen = d.parsedLen := by
  induction nodes generalizing d a with
  | nil => exact ⟨rfl, rfl, rfl⟩
  | cons v nodes ih => exact ih _ _

/-- A chain is gone when the derived nodes are dropped. -/
theorem dropDerived_hang (hlen : d.parsedLen ≤ d.size) (a : NodeId) (nodes : List ImaginedNode) :
    (hang d a nodes).1.dropDerived = d.dropDerived := by
  induction nodes generalizing d a with
  | nil => rfl
  | cons v nodes ih =>
    have hpushed : (d.push a (nodeOfImagined v)).parsedLen ≤
        (d.push a (nodeOfImagined v)).size := by
      rw [Document.size_push]
      exact Nat.le_succ_of_le hlen
    rw [hang, ih hpushed, Document.dropDerived_push hlen]

/-- The walk through what was written without the chain is the walk that passes over the chain. -/
theorem walk_hang (hd : d.Plain) (a : NodeId) (nodes : List ImaginedNode) :
    (hang d a nodes).1.walk.filter (!d.isDerived ·) = d.walk := by
  have hlen := Nat.le_of_eq hd.parsedLen_eq
  have hwalk := (hang d a nodes).1.walk_dropDerived
  rwa [dropDerived_hang hlen, hd.dropDerived_eq, isDerived_hang, eq_comm] at hwalk

/-- What is gathered along the walk, and from nothing behind what was there, is not changed by a
chain. -/
theorem flatMap_walk_hang {α : Type} (hd : d.Plain) (a : NodeId) (nodes : List ImaginedNode)
    {g : NodeId → List α} (hg : ∀ n, d.size ≤ n.index → g n = []) :
    (hang d a nodes).1.walk.flatMap g = d.walk.flatMap g := by
  rw [Document.flatMap_written (d := d) (fun n hn => hg n ?_), walk_hang hd]
  simpa [Document.isDerived, hd.parsedLen_eq] using hn

variable (ha : a.index < d.size)
include ha

/-- What stands at an old place: the node that the chain hangs in has got its first node as a
child. -/
theorem node?_hang_of_lt (hn : n.index < d.size) (nodes : List ImaginedNode) :
    (hang d a nodes).1.node? n = (d.node? n).map fun m =>
      { m with children := m.children ++ if n = a ∧ nodes ≠ [] then [d.nextNode] else [] } := by
  induction nodes generalizing d a with
  | nil => simp
  | cons v nodes ih =>
    have hsize := d.size_push a (nodeOfImagined v)
    have hnext : d.nextNode.index = d.size := rfl
    have hne : n ≠ d.nextNode := by
      rintro rfl
      omega
    rw [hang, ih (by omega) (by omega), Document.node?_push_of_lt hn, Option.map_map]
    refine congrArg (Option.map · _) (funext fun m => ?_)
    by_cases hna : a = n
    · simp [hne, hna]
    · simp [hne, hna, Ne.symm hna]

/-- What stands at the places of the chain: its nodes, each in the one before it. -/
theorem node?_hang_add {k : Nat} {v : ImaginedNode} (hv : nodes[k]? = some v) :
    (hang d a nodes).1.node? ⟨d.size + k⟩ = some { nodeOfImagined v with
      parent := some (chainParent a d.size k)
      children := if k + 1 < nodes.length then [⟨d.size + (k + 1)⟩] else [] } := by
  induction nodes generalizing d a k with
  | nil => simp at hv
  | cons w nodes ih =>
    have hsize := d.size_push a (nodeOfImagined w)
    have hnext : d.nextNode.index < (d.push a (nodeOfImagined w)).size := by
      rw [hsize]
      exact Nat.lt_succ_self _
    cases k with
    | zero =>
      obtain rfl : w = v := by simpa using hv
      have hne : a ≠ d.nextNode := by
        rintro rfl
        exact Nat.lt_irrefl _ ha
      have hplace : (⟨d.size + 0⟩ : NodeId) = d.nextNode := rfl
      rw [hang, hplace, node?_hang_of_lt hnext hnext, Document.node?_push, if_pos rfl]
      simp only [Option.map_some, if_neg hne, chainParent, List.length_cons, Option.some.injEq,
        Node.mk.injEq, true_and, and_true]
      cases nodes with
      | nil => rfl
      | cons _ _ =>
        have hlater : (d.push a (nodeOfImagined w)).nextNode = ⟨d.size + (0 + 1)⟩ :=
          congrArg NodeId.mk hsize
        simpa [nodeOfImagined] using hlater
    | succ k =>
      rw [List.getElem?_cons_succ] at hv
      have hplace : (⟨d.size + (k + 1)⟩ : NodeId) =
          ⟨(d.push a (nodeOfImagined w)).size + k⟩ := by
        rw [hsize, NodeId.mk.injEq]
        omega
      rw [hang, hplace, ih hnext hv, hsize]
      have hparent : chainParent d.nextNode (d.size + 1) k = chainParent a d.size (k + 1) :=
        chainParent_rest a d.size k
      have hchild : (⟨d.size + 1 + (k + 1)⟩ : NodeId) = ⟨d.size + (k + 1 + 1)⟩ := by
        rw [NodeId.mk.injEq]
        omega
      have hlength : k + 1 < nodes.length ↔ k + 1 + 1 < (w :: nodes).length := by
        rw [List.length_cons]
        omega
      simp only [hparent, hchild, hlength]

omit ha in
/-- Behind the chain there is nothing. -/
theorem node?_hang_eq_none (hn : d.size + nodes.length ≤ n.index) :
    (hang d a nodes).1.node? n = none := by
  rw [← Option.not_isSome_iff_eq_none, Document.node?_isSome_iff, size_hang]
  omega

theorem detached?_hang_of_lt (hn : n.index < d.size) (nodes : List ImaginedNode) :
    (hang d a nodes).1.detached? n = d.detached? n := by
  rw [Document.detached?, node?_hang_of_lt ha hn, Option.map_map]
  rfl

theorem parent?_hang_of_lt (hn : n.index < d.size) (nodes : List ImaginedNode) :
    (hang d a nodes).1.parent? n = d.parent? n := by
  rw [Document.parent?, node?_hang_of_lt ha hn, Option.bind_map]
  rfl

theorem children_hang_of_lt (hn : n.index < d.size) (nodes : List ImaginedNode) :
    (hang d a nodes).1.children n =
      d.children n ++ if n = a ∧ nodes ≠ [] then [d.nextNode] else [] := by
  obtain ⟨m, hm⟩ := Option.isSome_iff_exists.1 ((Document.node?_isSome_iff d n).2 hn)
  simp [Document.children, node?_hang_of_lt ha hn, hm]

theorem detached?_hang_add {k : Nat} {v : ImaginedNode} (hv : nodes[k]? = some v) :
    (hang d a nodes).1.detached? ⟨d.size + k⟩ = some (nodeOfImagined v).detached := by
  rw [Document.detached?, node?_hang_add ha hv, Option.map_some]
  rfl

theorem parent?_hang_add {k : Nat} (hk : k < nodes.length) :
    (hang d a nodes).1.parent? ⟨d.size + k⟩ = some (chainParent a d.size k) := by
  rw [Document.parent?, node?_hang_add ha (List.getElem?_eq_getElem hk), Option.bind_some]

theorem children_hang_add {k : Nat} (hk : k < nodes.length) :
    (hang d a nodes).1.children ⟨d.size + k⟩ =
      if k + 1 < nodes.length then [⟨d.size + (k + 1)⟩] else [] := by
  rw [Document.children, node?_hang_add ha (List.getElem?_eq_getElem hk), Option.map_some,
    Option.getD_some]

/-- A chain in a tree makes a tree. -/
theorem isTree_hang (h : d.IsTree) (nodes : List ImaginedNode) : (hang d a nodes).1.IsTree := by
  induction nodes generalizing d a with
  | nil => exact h
  | cons v nodes ih =>
    have hnext : d.nextNode.index < (d.push a (nodeOfImagined v)).size := by
      rw [Document.size_push]
      exact Nat.lt_succ_self _
    exact ih hnext (h.push ha rfl)

/-- A chain of nodes without identifiers has none behind what was there. -/
theorem ownId?_hang_of_le (hnodes : ∀ v ∈ nodes, (nodeOfImagined v).ownId? = none)
    (hn : d.size ≤ n.index) : (hang d a nodes).1.ownId? n = none := by
  obtain ⟨k, hk⟩ := Nat.exists_eq_add_of_le hn
  obtain rfl : n = ⟨d.size + k⟩ := congrArg NodeId.mk hk
  cases hv : nodes[k]? with
  | none =>
    have hlen := List.getElem?_eq_none_iff.1 hv
    rw [Document.ownId?, node?_hang_eq_none (Nat.add_le_add_left hlen _), Option.bind_none]
  | some v =>
    rw [Document.ownId?, node?_hang_add ha hv, Option.bind_some]
    exact hnodes v (List.mem_of_getElem? hv)

end Snapshot

namespace Document

open Snapshot

variable {d e : Document} {a n : NodeId} {nodes : List ImaginedNode}

/-- The document as its author would have written it with a chain of nodes in it, at the end of what
a node contains. -/
def continued (d : Document) (a : NodeId) (nodes : List ImaginedNode) : Document :=
  (hang d.asWritten a nodes).1.markParsed

theorem continued_uri (d : Document) (a : NodeId) (nodes : List ImaginedNode) :
    (d.continued a nodes).uri = d.uri := (frame_hang d.asWritten a nodes).2.1

/-- The draft of an imagined node. -/
def draftOfImagined (v : ImaginedNode) : Draft :=
  { kind := v.kind, id := v.id, references := v.references }

/-- Every draft takes one place. -/
theorem size_foldl_push (drafts : List (NodeId × Draft)) (d : Document) :
    (drafts.foldl (fun d n => d.push n.1 n.2.toNode) d).size = d.size + drafts.length := by
  induction drafts generalizing d with
  | nil => rfl
  | cons draft drafts ih =>
    rw [List.foldl_cons, ih, size_push, List.length_cons]
    omega

/-- Drafts may go on with a chain below one of them. -/
theorem exists_drafts_hang (nodes : List ImaginedNode) (uri : String)
    {drafts : List (NodeId × Draft)} (hfirst : ParentsFirst drafts)
    (ha : a.index ≤ drafts.length) :
    ∃ more, ParentsFirst more ∧
      (hang (drafts.foldl (fun d n => d.push n.1 n.2.toNode) (blank uri)) a nodes).1 =
        more.foldl (fun d n => d.push n.1 n.2.toNode) (blank uri) := by
  induction nodes generalizing drafts a with
  | nil => exact ⟨drafts, hfirst, rfl⟩
  | cons v nodes ih =>
    have hlast : ParentsFirst (drafts ++ [(a, draftOfImagined v)]) := by
      intro i draft hi
      rw [List.getElem?_append] at hi
      split at hi
      · exact hfirst i draft hi
      · rw [List.mem_singleton.1 (List.mem_of_getElem? hi)]
        show a.index ≤ i
        omega
    have hnext : (drafts.foldl (fun d n => d.push n.1 n.2.toNode) (blank uri)).nextNode.index ≤
        (drafts ++ [(a, draftOfImagined v)]).length := by
      have hsize := size_foldl_push drafts (blank uri)
      have hblank : (blank uri).size = 1 := rfl
      rw [List.length_append, List.length_singleton]
      show Document.size _ ≤ _
      omega
    obtain ⟨more, hmore, heq⟩ := ih hlast hnext
    refine ⟨more, hmore, ?_⟩
    rw [← heq, List.foldl_append]
    rfl

/-- How much of a document is written has no part in what a chain makes of it. -/
theorem hang_withParsedLen (d : Document) (k : Nat) (a : NodeId) (nodes : List ImaginedNode) :
    (hang { d with parsedLen := k } a nodes).1 = { (hang d a nodes).1 with parsedLen := k } := by
  induction nodes generalizing d a with
  | nil => rfl
  | cons v nodes ih => exact ih (d.push a (nodeOfImagined v)) d.nextNode

/-- A document built from drafts is so with a chain in it. -/
theorem drafted_continued (hd : d.asWritten.Drafted) (ha : a.index < d.asWritten.size)
    (nodes : List ImaginedNode) : (d.continued a nodes).Drafted := by
  obtain ⟨uri, drafts, hfirst, hdrafts⟩ := hd
  have hsize : (ofDrafts uri drafts).size = 1 + drafts.length := size_foldl_push drafts (blank uri)
  rw [hdrafts, hsize] at ha
  have hle : a.index ≤ drafts.length := by omega
  obtain ⟨more, hmore, heq⟩ := exists_drafts_hang nodes uri hfirst hle
  refine ⟨uri, more, hmore, ?_⟩
  rw [continued, hdrafts, ofDrafts, ofDrafts, ← heq]
  exact (congrArg markParsed (hang_withParsedLen _ _ a nodes) :)

end Document

end ModelBinding
