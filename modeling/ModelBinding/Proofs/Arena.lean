import ModelBinding.Proofs.BuiltTree
import ModelBinding.Proofs.Hanging

/-!
# What is kept of the arena

A document stays a tree whatever is done to it after its author wrote it: derived nodes
and imagined ones are only appended, behind nodes that are there, and dropped again
(`Document.Keeps.step` for one step, `Document.keeps_of_treated` for all). In a tree the
way up and the way down end without looking at the order of the arena
(`IsTree.climbs_ancestors`, `IsTree.traverses_descendants`), and they are inverse to each
other (`IsTree.mem_descendants_iff`).
-/

namespace ModelBinding

namespace Document

variable {d e d₀ : Document} {n : NodeId}

section Walks

/-- That the way up from a node ends and leads through certain nodes: each time it goes on to the
parent, until there is none. -/
inductive Climbs (d : Document) : NodeId → List NodeId → Prop where
  /-- The node has no parent. -/
  | top {n : NodeId} (hn : d.parent? n = none) : d.Climbs n []
  /-- The way leads through the parent. -/
  | up {n p : NodeId} {above : List NodeId} (hn : d.parent? n = some p)
      (rest : d.Climbs p above) : d.Climbs n (p :: above)

/-- That a loop over a stack of nodes ends and meets certain nodes in this order: it takes the node
on top and puts its children in its place. -/
inductive Traverses (d : Document) : List NodeId → List NodeId → Prop where
  /-- The stack is empty. -/
  | done : d.Traverses [] []
  /-- A node is met. -/
  | visit {n : NodeId} {stack found : List NodeId}
      (rest : d.Traverses (d.children n ++ stack) found) : d.Traverses (n :: stack) (n :: found)

/-- There is one way up. -/
theorem Climbs.unique {above above' : List NodeId} (h : d.Climbs n above)
    (h' : d.Climbs n above') : above = above' := by
  induction h generalizing above' with
  | top hn =>
    cases h' with
    | top => rfl
    | up hn' => simp [hn] at hn'
  | up hn _ ih =>
    cases h' with
    | top hn' => simp [hn] at hn'
    | up hn' rest =>
      obtain rfl := Option.some.inj (hn.symm.trans hn')
      rw [ih rest]

/-- There is one order in which the loop meets nodes. -/
theorem Traverses.unique {stack found found' : List NodeId} (h : d.Traverses stack found)
    (h' : d.Traverses stack found') : found = found' := by
  induction h generalizing found' with
  | done =>
    cases h'
    rfl
  | visit _ ih =>
    cases h' with
    | visit rest => rw [ih rest]

namespace IsTree

variable (h : d.IsTree)
include h

/-- The way up from a node is through what contains it. -/
theorem climbs_ancestors (n : NodeId) : d.Climbs n (d.ancestors n) := by
  fun_induction ancestors d n with
  | case1 n hn => exact .top hn
  | case2 n p hn _ ih => exact .up hn ih
  | case3 n p hn hlt => exact absurd (h.of_parent? hn).1 hlt

/-- It ends at the root. -/
theorem getLast?_ancestors (hn : n.index < d.size) :
    (n :: d.ancestors n).getLast? = some .root := by
  induction hk : n.index using Nat.strongRecOn generalizing n with
  | ind k ih =>
    by_cases hroot : n = .root
    · rw [hroot, ancestors, h.parent?_root]
      rfl
    · obtain ⟨p, hp, hlt, -⟩ := h.exists_parent n hroot hn
      rw [h.ancestors_eq hp, List.getLast?_cons_cons]
      exact ih p.index (hk ▸ hlt) (Nat.lt_trans hlt hn) rfl

/-- With a node on the stack the loop meets what is below the node first. -/
theorem traverses_cons (hn : n.index < d.size) {stack found : List NodeId}
    (hrest : d.Traverses stack found) : d.Traverses (n :: stack) (d.descendants n ++ found) := by
  induction n using descendants.induct d generalizing stack found with
  | case1 n hnode =>
    have hsome := (node?_isSome_iff d n).2 hn
    rw [hnode] at hsome
    cases hsome
  | case2 n node hnode ih =>
    -- The induction goes down the tree, and inside it along the children from the last one.
    have hchildren : ∀ cs : List NodeId, (∀ c ∈ cs, c ∈ d.children n) →
        d.Traverses (cs ++ stack) (cs.flatMap d.descendants ++ found) := by
      intro cs
      induction cs with
      | nil => exact fun _ => hrest
      | cons c cs ihcs =>
        intro hcs
        have hc : c ∈ d.children n := hcs c (List.mem_cons_self ..)
        rw [List.flatMap_cons, List.append_assoc]
        apply ih c (h.index_lt_of_mem_children hc)
        · exact index_lt_of_parent? (h.parent?_of_mem n c hc)
        · exact ihcs fun c' hc' => hcs c' (List.mem_cons_of_mem c hc')
    rw [h.descendants_eq hn]
    exact .visit (hchildren _ fun _ hc => hc)

/-- The loop from a node meets what is below it. -/
theorem traverses_descendants (hn : n.index < d.size) :
    d.Traverses [n] (d.descendants n) := by
  simpa using h.traverses_cons hn .done

/-- What is inside something below a node is below the node. -/
theorem mem_descendants_of_parent? {a p : NodeId} (hp : p ∈ d.descendants a)
    (hn : d.parent? n = some p) : n ∈ d.descendants a := by
  induction a using descendants.induct d with
  | case1 a hnode =>
    rw [descendants_of_node?_eq_none hnode] at hp
    cases hp
  | case2 a node hnode ih =>
    have ha : a.index < d.size := (node?_isSome_iff d a).1 (by simp [hnode])
    obtain ⟨-, hmem⟩ := h.of_parent? hn
    rw [h.descendants_eq ha] at hp ⊢
    apply List.mem_cons_of_mem
    rcases List.mem_cons.1 hp with rfl | hp
    · exact List.mem_flatMap.2 ⟨n, hmem, h.mem_descendants_self (index_lt_of_parent? hn)⟩
    · obtain ⟨c, hc, hp⟩ := List.mem_flatMap.1 hp
      exact List.mem_flatMap.2 ⟨c, hc, ih c (h.index_lt_of_mem_children hc) hp⟩

/-- Below a node are the node itself and what it contains, directly or not. -/
theorem mem_descendants_iff {a b : NodeId} (ha : a.index < d.size) :
    b ∈ d.descendants a ↔ a = b ∨ a ∈ d.ancestors b := by
  -- Both sides hold of `b` if they hold of its parent, which stands before it.
  induction hk : b.index using Nat.strongRecOn generalizing b with
  | ind k ih =>
    constructor
    · intro hb
      rcases h.eq_or_exists_parent_of_mem_descendants hb with rfl | ⟨p, hp, hparent⟩
      · exact Or.inl rfl
      · right
        rw [h.ancestors_eq hparent, List.mem_cons]
        exact (ih p.index (hk ▸ (h.of_parent? hparent).1) rfl).1 hp
    · rintro (rfl | hb)
      · exact h.mem_descendants_self ha
      · cases hparent : d.parent? b with
        | none =>
          rw [ancestors, hparent] at hb
          cases hb
        | some p =>
          rw [h.ancestors_eq hparent, List.mem_cons] at hb
          apply h.mem_descendants_of_parent? _ hparent
          exact (ih p.index (hk ▸ (h.of_parent? hparent).1) rfl).2 hb

/-- A node other than the root stands once among the children of its parent, and among those of no
other node. -/
theorem exists_parent_count (hroot : n ≠ .root) (hn : n.index < d.size) :
    ∃ p, d.parent? n = some p ∧ p.index < n.index ∧
      ∀ q, (d.children q).count n = if q = p then 1 else 0 := by
  obtain ⟨p, hp, hlt, hmem⟩ := h.exists_parent n hroot hn
  refine ⟨p, hp, hlt, ?_⟩
  intro q
  split_ifs with hq
  · rw [hq]
    exact List.count_eq_one_of_mem (h.nodup_children p) hmem
  · apply List.count_eq_zero_of_not_mem
    intro hq'
    have hparent := h.parent?_of_mem q n hq'
    exact hq (Option.some.inj (hparent.symm.trans hp))

end IsTree

end Walks

/-- What may become of a document once its author wrote it. -/
inductive Treated : Document → Document → Prop where
  /-- It gets another number. -/
  | number (d : Document) (id : DocumentId) : Treated d { d with id }
  /-- What references mean is remembered or forgotten. -/
  | lookUp {d e : Document} (heq : e.resetReferences = d.resetReferences) : Treated d e
  /-- It is exported. -/
  | exported (d : Document) (r : Registry) : Treated d (d.prepare r)
  /-- A plan is applied to it. -/
  | derived (d : Document) (r : Resolver) (planned : Document) (registry : Registry)
      (tables : LocalTables) : Treated d ((r.plan planned).apply registry d tables).document
  /-- An imagined chain is added to a copy of it. -/
  | imagined {d : Document} {a : NodeId} {m : Document × NodeId} {s : Snapshot} {c : ImaginedChain}
      (hbase : s.base c = .ok (d, a)) (hm : s.materialize c = .ok m) : Treated d m.1

/-- What is kept of a document that was written as `d₀`. -/
structure Keeps (d₀ d : Document) : Prop where
  /-- It is a tree. -/
  tree : d.IsTree
  /-- So is what was written. -/
  wellFormed : d.WellFormed
  /-- It was written so. -/
  asWritten_eq : d.asWritten = d₀

/-- A document just as its author wrote it is kept. -/
theorem Drafted.keeps (hd : d.Drafted) : Keeps d d := by
  have hwritten := hd.plain.asWritten_eq
  have htree := hd.wellFormed.tree
  rw [hwritten] at htree
  exact ⟨htree, hd.wellFormed, hwritten⟩

end Document

/-- A chain hangs in a node that is there. -/
theorem Snapshot.index_lt_of_base {s : Snapshot} {c : ImaginedChain} {d : Document} {a : NodeId}
    (h : d.IsTree) (hbase : s.base c = .ok (d, a)) : a.index < d.size := by
  rcases of_base hbase with ⟨-, ⟨-, ha⟩ | ⟨globalId, -, ha⟩⟩ | ⟨-, -, -, hblank⟩
  · rw [show a = .root from ha]
    exact h.size_pos
  · exact h.mem_walk_iff.1 (List.mem_of_find?_eq_some ha)
  · rw [(Prod.mk.inj hblank).2]
    exact h.size_pos

namespace Document

variable {d e d₀ : Document} {n : NodeId}

/-- It is kept where there is a tree still, written in the same way. -/
theorem Keeps.of_asWritten_eq (h : Keeps d₀ d) (htree : e.IsTree) (hle : e.parsedLen ≤ e.size)
    (hwritten : e.asWritten = d.asWritten) : Keeps d₀ e := by
  refine ⟨htree, ⟨hle, ?_⟩, hwritten.trans h.asWritten_eq⟩
  rw [hwritten]
  exact h.wellFormed.tree

/-- One step keeps all this. -/
theorem Keeps.step (h : Keeps d₀ d) (hstep : Treated d e) : Keeps d₀ e := by
  have hle := h.wellFormed.parsedLen_le
  cases hstep with
  | number id =>
    have htree : ({ d with id } : Document).IsTree := h.tree.congr rfl (fun _ => rfl) fun _ => rfl
    exact h.of_asWritten_eq htree hle rfl
  | lookUp heq =>
    apply h.of_asWritten_eq (h.tree.of_resetReferences_eq heq)
    · exact (lasting_wellFormed.congr d e heq h.wellFormed).parsedLen_le
    · exact asWritten_congr heq
  | exported r =>
    apply h.of_asWritten_eq (h.wellFormed.isTree_prepare r)
    · exact Nat.le_of_eq (d.parsedLen_prepare r hle)
    · exact d.asWritten_prepare r
  | derived r planned registry tables =>
    have hgrown := Derivation.grownFrom_apply registry (r.plan planned) hle tables
    apply h.of_asWritten_eq (r.isTree_apply_plan planned registry h.tree tables)
    · rw [hgrown.parsedLen_eq]
      exact Nat.le_trans hle hgrown.size_le
    · exact DerivationPlan.asWritten_apply (r.plan planned) hle registry tables
  | @imagined a m s c hbase hm =>
    obtain rfl : Snapshot.hang d a c.nodes = m := by
      simpa [Snapshot.materialize, hbase, Except.map] using hm
    apply h.of_asWritten_eq
    · exact Snapshot.isTree_hang (Snapshot.index_lt_of_base h.tree hbase) h.tree c.nodes
    · rw [(Snapshot.frame_hang d a c.nodes).2.2, Snapshot.size_hang]
      omega
    · rw [asWritten, Snapshot.dropDerived_hang hle]
      rfl

/-- All steps keep all this. -/
theorem Drafted.keeps_of_treated (hd₀ : d₀.Drafted) (hd : Relation.ReflTransGen Treated d₀ d) :
    Keeps d₀ d := by
  induction hd with
  | refl => exact hd₀.keeps
  | tail _ hstep ih => exact ih.step hstep

namespace Keeps

variable (h : Keeps d₀ d) (hd₀ : d₀.Plain)
include h hd₀

/-- As much is written as was written. -/
theorem parsedLen_eq : d.parsedLen = d₀.size := by
  have hlen : d.asWritten.parsedLen = d₀.size := by rw [h.asWritten_eq, hd₀.parsedLen_eq]
  exact hlen

/-- The nodes that are reported as derived are those that were not written. -/
theorem isDerived_iff : d.isDerived n = true ↔ d₀.node? n = none := by
  rw [isDerived, decide_eq_true_eq, h.parsedLen_eq hd₀, ← Nat.not_lt, ← node?_isSome_iff,
    Option.not_isSome_iff_eq_none]

/-- Nodes that were written are still there, at the same place, with the same parent. -/
theorem of_written (hn : n.index < d₀.size) :
    n.index < d.size ∧ d.detached? n = d₀.detached? n ∧ d.parent? n = d₀.parent? n := by
  have hlen := h.parsedLen_eq hd₀
  have hwritten : n.index < d.parsedLen := hlen ▸ hn
  refine ⟨Nat.lt_of_lt_of_le hwritten h.wellFormed.parsedLen_le, ?_, ?_⟩
  · rw [← h.asWritten_eq, detached?_asWritten, detached?, detached?, node?_dropDerived,
      if_pos hwritten, Option.map_map]
    rfl
  · rw [← h.asWritten_eq, parent?_asWritten, parent?_dropDerived hwritten]

end Keeps

/-- What holds of the arena of a document that was written as `d₀`. -/
structure Orderly (d₀ d : Document) : Prop where
  /-- Every node but the root has a parent, which stands before it, and stands once among the
  children of that, and among those of no other node. -/
  exists_parent : ∀ n, n ≠ .root → n.index < d.size → ∃ p, d.parent? n = some p ∧
    p.index < n.index ∧ ∀ q, (d.children q).count n = if q = p then 1 else 0
  /-- The way up from a node ends, at the root, and leads through what contains the node. -/
  climbs_iff : ∀ n, n.index < d.size → (∀ above, d.Climbs n above ↔ above = d.ancestors n) ∧
    (n :: d.ancestors n).getLast? = some .root
  /-- The way down from a node ends, and meets what is below the node. -/
  traverses_iff : ∀ n, n.index < d.size → ∀ found, d.Traverses [n] found ↔ found = d.descendants n
  /-- The walk meets no node twice. -/
  nodup_walk : d.walk.Nodup
  /-- It meets the nodes of the arena. -/
  mem_walk_iff : ∀ n, n ∈ d.walk ↔ n.index < d.size
  /-- It meets a node before its children, and these in order. -/
  cons_children_sublist_walk : ∀ n, n.index < d.size → (n :: d.children n).Sublist d.walk
  /-- Below a node are the node itself and the nodes whose ancestor it is. -/
  mem_descendants_iff : ∀ a b, a.index < d.size →
    (b ∈ d.descendants a ↔ a = b ∨ a ∈ d.ancestors b)
  /-- The nodes reported as derived are those that were not written. -/
  isDerived_iff : ∀ n, d.isDerived n = true ↔ d₀.node? n = none
  /-- The nodes that were written are there, at their places and with their parents. -/
  of_written : ∀ n, n.index < d₀.size →
    n.index < d.size ∧ d.detached? n = d₀.detached? n ∧ d.parent? n = d₀.parent? n

/-- What is kept makes an orderly arena. -/
theorem Keeps.orderly (h : Keeps d₀ d) (hd₀ : d₀.Plain) : Orderly d₀ d where
  exists_parent _ hroot hn := h.tree.exists_parent_count hroot hn
  climbs_iff := by
    intro n hn
    constructor
    · intro above
      constructor
      · intro habove
        exact habove.unique (h.tree.climbs_ancestors n)
      · rintro rfl
        exact h.tree.climbs_ancestors n
    · exact h.tree.getLast?_ancestors hn
  traverses_iff := by
    intro n hn found
    constructor
    · intro hfound
      exact hfound.unique (h.tree.traverses_descendants hn)
    · rintro rfl
      exact h.tree.traverses_descendants hn
  nodup_walk := h.tree.nodup_walk
  mem_walk_iff _ := h.tree.mem_walk_iff
  cons_children_sublist_walk _ hn := h.tree.cons_children_sublist_walk hn
  mem_descendants_iff _ _ ha := h.tree.mem_descendants_iff ha
  isDerived_iff _ := h.isDerived_iff hd₀
  of_written _ hn := h.of_written hd₀ hn

/-- Whatever becomes of a document after its author wrote it, its arena is orderly. -/
theorem Drafted.orderly_of_treated (hd₀ : d₀.Drafted) (hd : Relation.ReflTransGen Treated d₀ d) :
    Orderly d₀ d := by
  have hkeeps := hd₀.keeps_of_treated hd
  exact hkeeps.orderly hd₀.plain

/-- A document with an entity and a target that views it. -/
def targeting : Document :=
  .ofDrafts "file:///shop/a.cm"
    [(.root, { kind := .logicalEntity, id := some "Party" }),
      (⟨1⟩, { kind := .logicalAttribute, id := some "Name" }),
      (.root, { kind := .mapping, id := some "Load" }),
      (⟨3⟩, { kind := .targetObject, id := some "T", references := [(.entity, "Party")] })]

/-- The snapshot in which it has been exported. -/
def targetingExported : Snapshot :=
  ((Session.start Session.shopRegistry).run [.set targeting]).host.exportDocument ⟨0⟩

/-- The document as it is in that snapshot. -/
def targetingPrepared : Document :=
  ({ targeting with id := ⟨0⟩ } : Document).prepare Session.shopRegistry

/-- The snapshot in which its plan has been applied too. -/
def targetingBuilt : Snapshot :=
  targetingExported.applyPlan (targetingExported.resolver.plan targetingPrepared)

/-- With a derived attribute in its target and another target imagined behind that one the arena of
the document is orderly. -/
theorem orderly_of_treated_targeting :
    ∃ m, targetingBuilt.materialize
        { uri := "file:///shop/a.cm", anchor := some "shop.Load"
          nodes := [{ kind := .targetObject, id := some "U" }] } = .ok m ∧
      m.1.walk = [⟨0⟩, ⟨1⟩, ⟨2⟩, ⟨3⟩, ⟨4⟩, ⟨5⟩, ⟨6⟩] ∧ targeting.Orderly m.1 := by
  have hdrafted : targeting.Drafted := Session.drafted_ofDrafts (by decide)
  have hbase : targetingBuilt.base
      { uri := "file:///shop/a.cm", anchor := some "shop.Load"
        nodes := [{ kind := .targetObject, id := some "U" }] } =
      .ok (((targetingExported.resolver.plan targetingPrepared).apply Session.shopRegistry
        targetingPrepared (targetingExported.index.localsOf ⟨0⟩)).document, ⟨3⟩) := by
    decide +kernel
  have hm := congrArg (Except.map fun b => Snapshot.hang b.1 b.2
    [{ kind := .targetObject, id := some "U" }]) hbase
  have hnumber : Treated targeting { targeting with id := ⟨0⟩ } := .number targeting ⟨0⟩
  have hexported : Treated { targeting with id := ⟨0⟩ } targetingPrepared :=
    .exported { targeting with id := ⟨0⟩ } Session.shopRegistry
  have hderived := Treated.derived targetingPrepared targetingExported.resolver targetingPrepared
    Session.shopRegistry (targetingExported.index.localsOf ⟨0⟩)
  have hhistory := ((Relation.ReflTransGen.single hnumber).tail hexported).tail hderived
  refine ⟨_, hm, by decide +kernel, ?_⟩
  exact hdrafted.orderly_of_treated (hhistory.tail (.imagined hbase hm))

/-- To have become of what some author wrote lasts. -/
theorem lasting_treated :
    Lasting fun d => ∃ d₀, d₀.Drafted ∧ Relation.ReflTransGen Treated d₀ d where
  withId := by
    rintro d id ⟨d₀, hd₀, hd⟩
    exact ⟨d₀, hd₀, hd.tail (.number d id)⟩
  congr := by
    rintro d e heq ⟨d₀, hd₀, hd⟩
    exact ⟨d₀, hd₀, hd.tail (.lookUp heq)⟩
  builtWith := by
    rintro d r ⟨d₀, hd₀, hd⟩
    exact ⟨d₀, hd₀, (hd.tail (.exported d r.registry)).tail (.derived _ r _ r.registry _)⟩

end Document

namespace Session.Reachable

variable {s : Session} (hs : s.Reachable)
include hs

/-- Every document of a reachable session became of what some author wrote. -/
theorem exists_treated {id : DocumentId} {d : Document} (hd : s.host.workspace.get? id = some d) :
    ∃ d₀ : Document, d₀.Drafted ∧ Relation.ReflTransGen Document.Treated d₀ d := by
  obtain ⟨registry, actions, hsound, rfl⟩ := hs
  have hsets : ∀ a ∈ actions, a.Sets fun d =>
      ∃ d₀ : Document, d₀.Drafted ∧ Relation.ReflTransGen Document.Treated d₀ d := by
    rintro _ ha d rfl
    exact ⟨d, hsound _ ha, .refl⟩
  exact (lasts_run Document.lasting_treated registry hsets).workspace id d hd

/-- So did every copy in which a chain is imagined. -/
theorem exists_treated_of_materialize {c : ImaginedChain} {m : Document × NodeId}
    (hm : s.host.toSnapshot.materialize c = .ok m) :
    ∃ d₀ : Document, d₀.Drafted ∧ Relation.ReflTransGen Document.Treated d₀ m.1 := by
  cases hbase : s.host.toSnapshot.base c with
  | error err => simp [Snapshot.materialize, hbase, Except.map] at hm
  | ok b =>
    have hlast : Document.Treated b.1 m.1 := .imagined hbase hm
    rcases Snapshot.of_base hbase with ⟨hat, -⟩ | ⟨-, -, -, rfl⟩
    · obtain ⟨id, -, hget⟩ := Option.bind_eq_some_iff.1 hat
      obtain ⟨d₀, hd₀, hd⟩ := hs.exists_treated hget
      exact ⟨d₀, hd₀, hd.tail hlast⟩
    · exact ⟨_, Document.drafted_blank c.uri, .single hlast⟩

/-- The arena of every document that a reachable session resolves references in is orderly. -/
theorem exists_orderly {d : Document} (hd : (∃ id, s.host.workspace.get? id = some d) ∨
    ∃ c n, s.host.toSnapshot.materialize c = .ok (d, n)) :
    ∃ d₀ : Document, d₀.Drafted ∧ d₀.Orderly d := by
  obtain ⟨d₀, hd₀, htreated⟩ :
      ∃ d₀ : Document, d₀.Drafted ∧ Relation.ReflTransGen Document.Treated d₀ d := by
    rcases hd with ⟨id, hd⟩ | ⟨c, n, hm⟩
    · exact hs.exists_treated hd
    · exact hs.exists_treated_of_materialize hm
  exact ⟨d₀, hd₀, (hd₀.keeps_of_treated htreated).orderly hd₀.plain⟩

end Session.Reachable

end ModelBinding
