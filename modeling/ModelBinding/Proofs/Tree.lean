import ModelBinding.Identity
import ModelBinding.Proofs.Lists
import Mathlib.Data.List.Basic

/-!
# Walks in a document

Walks up depend on the parents alone and walks down on the lists of children alone
(`ancestors_congr`, `descendants_congr`). Derived nodes stand behind the written ones, so
what is above a written node is written, and a walk down meets the written nodes in the
same order whether or not the derived ones are there (`descendants_dropDerived`).
-/

namespace ModelBinding.Document

variable {d e : Document}

/-- Documents with the same parents at the first places have the same ancestors there. -/
theorem ancestors_congr_below {k : Nat} (h : ∀ n, n.index < k → e.parent? n = d.parent? n)
    {n : NodeId} (hn : n.index < k) : e.ancestors n = d.ancestors n := by
  fun_induction ancestors d n with
  | case1 n hp => rw [ancestors, h n hn, hp]
  | case2 n p hp hlt ih => rw [ancestors, h n hn, hp]; simp [hlt, ih (Nat.lt_trans hlt hn)]
  | case3 n p hp hlt => rw [ancestors, h n hn, hp]; simp [hlt]

/-- Documents with the same parents have the same ancestors. -/
theorem ancestors_congr (h : ∀ n, e.parent? n = d.parent? n) (n : NodeId) :
    e.ancestors n = d.ancestors n :=
  ancestors_congr_below (fun m _ => h m) (Nat.lt_succ_self n.index)

/-- Documents with the same parents and the same identifiers at the first places have the same Local
IDs there. -/
theorem localId?_congr_below {k : Nat} (hparent : ∀ n, n.index < k → e.parent? n = d.parent? n)
    (hown : ∀ n, n.index < k → e.ownId? n = d.ownId? n) {n : NodeId} (hn : n.index < k) :
    e.localId? n = d.localId? n := by
  have hids : (d.ancestors n).filterMap e.ownId? = (d.ancestors n).filterMap d.ownId? :=
    List.filterMap_congr fun a ha => hown a (Nat.lt_trans (index_lt_of_mem_ancestors ha) hn)
  simp only [localId?, containerIds, hown n hn, ancestors_congr_below hparent hn, hids]

/-- Documents with the same parents and the same identifiers have the same Local IDs. -/
theorem localId?_congr (hparent : ∀ n, e.parent? n = d.parent? n)
    (hown : ∀ n, e.ownId? n = d.ownId? n) (n : NodeId) : e.localId? n = d.localId? n :=
  localId?_congr_below (fun m _ => hparent m) (fun m _ => hown m) (Nat.lt_succ_self n.index)

/-- Documents at one address with the same kinds, parents and identifiers have the same Global
IDs. -/
theorem globalId?_congr (huri : e.uri = d.uri) (hkind : ∀ n, e.kind? n = d.kind? n)
    (hparent : ∀ n, e.parent? n = d.parent? n) (hown : ∀ n, e.ownId? n = d.ownId? n)
    (r : Registry) (n : NodeId) : r.globalId? e n = r.globalId? d n := by
  have hmodel : r.modelOf? e = r.modelOf? d := by
    rw [Registry.modelOf?, Registry.modelOf?, huri]
  simp only [Registry.globalId?, hmodel]
  congr 1
  funext name
  simp only [qualifiedId?, hkind, localId?_congr hparent hown]

/-- What is below a node: the node, then what is below each of its children that stands behind
it. -/
theorem descendants_of_node? {n : NodeId} {node : Node} (h : d.node? n = some node) :
    d.descendants n = n :: node.children.flatMap fun c =>
      if n.index < c.index then d.descendants c else [] := by
  rw [descendants]
  split
  · rename_i h'
    rw [h] at h'
    cases h'
  · rename_i node' h'
    rw [h] at h'
    cases h'
    simp only [dite_eq_ite]

/-- Nothing is below a node that is not there. -/
theorem descendants_of_node?_eq_none {n : NodeId} (h : d.node? n = none) :
    d.descendants n = [] := by
  rw [descendants]
  split
  · rfl
  · rename_i h'
    rw [h] at h'
    cases h'

/-- Documents with the same lists of children have the same walks down. -/
theorem descendants_congr (h : ∀ n, (e.node? n).map (·.children) = (d.node? n).map (·.children))
    (n : NodeId) : e.descendants n = d.descendants n := by
  fun_induction descendants d n with
  | case1 n hn =>
    have he : e.node? n = none := by simpa [hn] using h n
    exact descendants_of_node?_eq_none he
  | case2 n node hn ih =>
    obtain ⟨node', he, hchildren⟩ : ∃ node', e.node? n = some node' ∧
        node'.children = node.children := by simpa [hn] using h n
    rw [descendants_of_node? he, hchildren]
    congr 2
    funext c
    by_cases hc : n.index < c.index
    · simp [hc, ih c hc]
    · simp [hc]

/-- Nothing below a node stands before it. -/
theorem index_le_of_mem_descendants {n m : NodeId} (h : m ∈ d.descendants n) :
    n.index ≤ m.index := by
  fun_induction descendants d n with
  | case1 => simp at h
  | case2 n node hn ih =>
    rcases List.mem_cons.1 h with rfl | h
    · exact Nat.le_refl _
    · obtain ⟨c, -, hc⟩ := List.mem_flatMap.1 h
      split at hc
      · rename_i hlt
        exact Nat.le_trans (Nat.le_of_lt hlt) (ih c hlt hc)
      · simp at hc

/-- Everything that a walk meets is there. -/
theorem exists_node?_of_mem_descendants {n m : NodeId} (h : m ∈ d.descendants n) :
    ∃ node, d.node? m = some node := by
  fun_induction descendants d n with
  | case1 => simp at h
  | case2 n node hn ih =>
    rcases List.mem_cons.1 h with rfl | h
    · exact ⟨node, hn⟩
    · obtain ⟨c, -, hc⟩ := List.mem_flatMap.1 h
      split at hc
      · exact ih c ‹_› hc
      · simp at hc

/-- What is left of the nodes when the derived ones are dropped. -/
theorem node?_dropDerived (d : Document) (n : NodeId) :
    d.dropDerived.node? n =
      if n.index < d.parsedLen then
        (d.node? n).map fun node =>
          { node with children := node.children.filter (·.index < d.parsedLen) }
      else none := by
  simp only [node?, dropDerived, List.getElem?_map, List.getElem?_take]
  split <;> rfl

/-- A written node keeps its parent when the derived nodes are dropped. -/
theorem parent?_dropDerived {n : NodeId} (hn : n.index < d.parsedLen) :
    d.dropDerived.parent? n = d.parent? n := by
  simp only [parent?, node?_dropDerived, if_pos hn]
  cases d.node? n <;> rfl

/-- A written node keeps its identifier when the derived nodes are dropped. -/
theorem ownId?_dropDerived {n : NodeId} (hn : n.index < d.parsedLen) :
    d.dropDerived.ownId? n = d.ownId? n := by
  simp only [ownId?, node?_dropDerived, if_pos hn]
  cases d.node? n <;> rfl

/-- What is above a written node is written, so it is there without the derived nodes. -/
theorem ancestors_dropDerived {n : NodeId} (hn : n.index < d.parsedLen) :
    d.dropDerived.ancestors n = d.ancestors n :=
  ancestors_congr_below (fun _ => parent?_dropDerived) hn

/-- A written node keeps its Local ID when the derived nodes are dropped. -/
theorem localId?_dropDerived {n : NodeId} (hn : n.index < d.parsedLen) :
    d.dropDerived.localId? n = d.localId? n :=
  localId?_congr_below (fun _ => parent?_dropDerived) (fun _ => ownId?_dropDerived) hn

/-- What is gathered from nodes and only where they are written. -/
theorem flatMap_written {α : Type} {g : NodeId → List α} (hg : ∀ n, d.isDerived n = true → g n = [])
    (l : List NodeId) : l.flatMap g = (l.filter (!d.isDerived ·)).flatMap g := by
  rw [← flatMap_ite_nil]
  refine List.flatMap_congr fun n _ => ?_
  cases hn : d.isDerived n with
  | false => rfl
  | true => exact hg n hn

/-- All that is below a derived node is derived. -/
theorem filter_descendants_of_isDerived {n : NodeId} (hn : d.isDerived n = true) :
    (d.descendants n).filter (!d.isDerived ·) = [] := by
  refine List.filter_eq_nil_iff.2 fun m hm => ?_
  have hle := index_le_of_mem_descendants hm
  simp only [isDerived, decide_eq_true_eq, Bool.not_eq_true', decide_eq_false_iff_not,
    not_not] at hn ⊢
  omega

/-- A walk down meets the written nodes in the order in which it meets them when no derived nodes
are there. -/
theorem descendants_dropDerived (d : Document) (n : NodeId) :
    d.dropDerived.descendants n = (d.descendants n).filter (!d.isDerived ·) := by
  fun_induction descendants d n with
  | case1 n hn =>
    refine descendants_of_node?_eq_none ?_
    simp [node?_dropDerived, hn]
  | case2 n node hn ih =>
    have hdrop := node?_dropDerived d n
    by_cases hlt : n.index < d.parsedLen
    · rw [if_pos hlt, hn] at hdrop
      rw [descendants_of_node? hdrop, List.filter_cons_of_pos (by simpa [isDerived] using hlt),
        List.filter_flatMap]
      congr 1
      show (node.children.filter fun c => c.index < d.parsedLen).flatMap _ = _
      -- A derived child contributes nothing on the right, as all below it is derived too.
      induction node.children with
      | nil => rfl
      | cons c cs ihcs =>
        have hbelow : n.index < c.index →
            (d.descendants c).filter (!d.isDerived ·) = d.dropDerived.descendants c :=
          fun hc => (ih c hc).symm
        by_cases hcp : c.index < d.parsedLen
        · rw [List.filter_cons_of_pos (by simpa using hcp), List.flatMap_cons, List.flatMap_cons,
            ihcs]
          by_cases hc : n.index < c.index
          · simp [hc, hbelow hc]
          · simp [hc]
        · have hnil := filter_descendants_of_isDerived (d := d) (n := c)
            (by simpa [isDerived] using hcp)
          rw [List.filter_cons_of_neg (by simpa using hcp), List.flatMap_cons, ihcs]
          by_cases hc : n.index < c.index
          · simp [hc, hnil]
          · simp [hc]
    · rw [if_neg hlt] at hdrop
      have hnil := filter_descendants_of_isDerived (d := d) (n := n)
        (by simpa [isDerived] using hlt)
      rw [descendants_of_node?_eq_none hdrop]
      simpa only [descendants_of_node? hn, dite_eq_ite] using hnil.symm

/-- The walk without the derived nodes. -/
theorem walk_dropDerived (d : Document) :
    d.dropDerived.walk = d.walk.filter (!d.isDerived ·) :=
  descendants_dropDerived d .root

end ModelBinding.Document
