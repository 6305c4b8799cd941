import ModelBinding.Proofs.Saved

/-!
# Scopes in a document with a saved chain

An imagined chain hangs behind all nodes of its document, the derived ones too. When it is
saved, it stands behind what was written, and the derived nodes stand behind it in their
order, with new ones in between (`Resolver.Moves`). But for that move the document shows
to its nodes what the copy with the imagined chain showed
(`Resolver.Saves.matchesAll`), so the chain sees the same (`Resolver.Saves.scopeAt_eq`).
-/

namespace ModelBinding

open Snapshot ModelBinding.Derivation

/-- The containers of a node move with it where each moves with what it contains. -/
theorem Document.IsTree.ancestors_moved {d e : Document} {ρ : NodeId → NodeId} (hd : d.IsTree)
    (he : e.IsTree) (hparent : ∀ n, e.parent? (ρ n) = (d.parent? n).map ρ) (n : NodeId) :
    e.ancestors (ρ n) = (d.ancestors n).map ρ := by
  cases hp : d.parent? n with
  | none =>
    rw [ancestors.eq_def e, ancestors.eq_def d, hparent, hp]
    rfl
  | some p =>
    have hp' : e.parent? (ρ n) = some (ρ p) := by rw [hparent, hp, Option.map_some]
    have hlt := (hd.of_parent? hp).1
    rw [hd.ancestors_eq hp, he.ancestors_eq hp', List.map_cons, hd.ancestors_moved he hparent p]
termination_by n.index

/-- What a node contains of one kind. -/
theorem Document.childrenOfKind_eq_filter (d : Document) (n : NodeId) (k : NodeKind) :
    d.childrenOfKind n k = (d.children n).filter fun c => (d.detached? c).any (·.kind = k) := by
  refine List.filter_congr fun c _ => ?_
  rw [kind?, detached?]
  cases d.node? c <;> simp [Node.detached, Node.resetReferences]

/-- What it contains of one kind, and with an identifier. -/
theorem Document.filter_named_childrenOfKind (d : Document) (n : NodeId) (k : NodeKind) :
    (d.childrenOfKind n k).filter (d.ownId? · |>.isSome) = (d.children n).filter fun c =>
      (d.detached? c).any fun x => decide (x.kind = k) && x.ownId?.isSome := by
  rw [childrenOfKind, List.filter_filter]
  refine List.filter_congr fun c _ => ?_
  rw [kind?, ownId?, detached?]
  cases d.node? c with
  | none => rfl
  | some node => simp [Node.detached, Node.resetReferences, Node.ownId?, Bool.and_comm]

/-- Nothing that asks for an identifier is shown of a node without one. -/
theorem Document.any_detached?_of_unnamed {d : Document} {n : NodeId} (hown : d.ownId? n = none)
    {keep : Node → Bool} (hnamed : ∀ x : Node, x.ownId? = none → keep x = false) :
    (d.detached? n).any keep = false := by
  rw [ownId?] at hown
  rw [detached?]
  cases hnode : d.node? n with
  | none => rfl
  | some node =>
    rw [hnode] at hown
    exact hnamed node.detached hown

/-- Where a node of a document of `size` nodes, `written` of them written and `len` imagined ones
behind them, stands when these are saved and the derived nodes take the given places. -/
def savedPlace (written size len : Nat) (place : Nat → Nat) (n : NodeId) : NodeId :=
  if n.index < written then n
  else if n.index < size then ⟨written + len + place (n.index - written)⟩
  else if n.index < size + len then ⟨written + (n.index - size)⟩
  else ⟨written + len + place (n.index - written - len)⟩

/-- No two nodes are moved to one place. -/
theorem injective_savedPlace {written size : Nat} (hle : written ≤ size) (len : Nat)
    {place : Nat → Nat} (hplace : Function.Injective place) :
    Function.Injective (savedPlace written size len place) := by
  rintro ⟨n⟩ ⟨m⟩ h
  have hsame : ∀ i j, place i = place j → i = j := fun i j => @hplace i j
  simp only [savedPlace] at h
  split_ifs at h <;> simp only [NodeId.mk.injEq] at h ⊢ <;> grind

/-- How the nodes of a document with an imagined chain move when the chain is saved. -/
structure Resolver.Moves (nodes : List ImaginedNode) (r t : Resolver) (d d₀ e e₀ : Document)
    (place : Nat → Nat) (ρ : NodeId → NodeId) : Prop where
  /-- The copies keep their order, and others stand in between. -/
  places : Padded.Places (fun c => c.2.ownId? = none ∨ d.asWritten.size ≤ c.1.index)
    (d₀.copiesWith r) (e₀.copiesWith t) place
  /-- Different nodes stay different. -/
  injective : Function.Injective ρ
  /-- What was written stays. -/
  written : ∀ n, n.index < d.asWritten.size → ρ n = n
  /-- The copies move to their places. -/
  copy : ∀ i c, (d₀.copiesWith r)[i]? = some c →
    ρ ⟨d.asWritten.size + i⟩ = ⟨e.asWritten.size + place i⟩
  /-- The chain moves to the end of what was written. -/
  chain : ∀ k, k < nodes.length → ρ ⟨d.size + k⟩ = ⟨d.asWritten.size + k⟩
  /-- Places behind the chain move to places where nothing is. -/
  beyond : ∀ n, d.size + nodes.length ≤ n.index → e.size ≤ (ρ n).index

namespace Resolver.Settles

variable {r : Resolver} {d e : Document} (h : r.Settles d e)
include h

/-- The nodes that copies are for were written. -/
theorem lt_of_mem_copiesWith {c : NodeId × Node} (hc : c ∈ e.copiesWith r) :
    c.1.index < d.asWritten.size := by
  obtain ⟨k, hk, -⟩ := Resolver.of_mem_copies_plan hc
  rw [← h.size_prepare]
  exact Document.index_lt_of_kind? hk

theorem size_asWritten_le : d.asWritten.size ≤ d.size := by
  rw [h.size_eq]
  exact Nat.le_add_right _ _

/-- The places of those copies for a node that are of a sort. -/
theorem filter_copyPlaces (n : NodeId) {keep : Node → Bool}
    (hkeep : ∀ x : Node, keep x.detached = keep x) :
    (copyPlaces d.asWritten.size (e.copiesWith r) n).filter (fun c => (d.detached? c).any keep) =
      ((((e.copiesWith r).zipIdx d.asWritten.size).filter
        fun c => decide (c.1.1 = n) && keep c.1.2).map (·.2)).map NodeId.mk := by
  rw [copyPlaces, List.filter_map, List.filter_filter, List.map_map]
  refine congrArg (List.map _) (List.filter_congr fun c hc => ?_)
  obtain ⟨hle, hget⟩ := List.mem_zipIdx_iff_le_and_getElem?_sub.1 hc
  have hcopy := h.detached?_add hget
  rw [Nat.add_sub_cancel' hle] at hcopy
  rw [Function.comp_apply, hcopy, Option.any_some, hkeep, Bool.and_comm]

theorem filter_copyPlaces_eq_nil (n : NodeId) {keep : Node → Bool}
    (hkeep : ∀ x : Node, keep x.detached = keep x) (hnone : ∀ c ∈ e.copiesWith r, keep c.2 = false) :
    (copyPlaces d.asWritten.size (e.copiesWith r) n).filter (fun c => (d.detached? c).any keep) =
      [] := by
  rw [h.filter_copyPlaces n hkeep, List.filter_eq_nil_iff.2 fun c hc => ?_]
  · rfl
  · simp [hnone c.1 (List.fst_mem_of_mem_zipIdx hc)]

end Resolver.Settles

namespace Resolver.Saves

variable {a : NodeId} {nodes : List ImaginedNode} {r t : Resolver} {d d₀ e e₀ : Document}
  (h : Saves a nodes r t d d₀ e e₀)
include h

theorem exists_moves : ∃ place ρ, Moves nodes r t d d₀ e e₀ place ρ := by
  obtain ⟨place, hplace⟩ := h.padded_copies.exists_places
  have hsize := h.before.size_eq
  refine ⟨place, savedPlace d.asWritten.size d.size nodes.length place, hplace,
    injective_savedPlace h.before.size_asWritten_le _ hplace.strictMono.injective,
    fun n hn => if_pos hn, fun i c hc => ?_, fun k hk => ?_, fun n hn => ?_⟩
  · have hi := (List.getElem?_eq_some_iff.1 hc).1
    have hlt : d.asWritten.size + i < d.size := by omega
    simp [savedPlace, hlt, h.size_asWritten]
  · have hle := h.before.size_asWritten_le
    have hnot : ¬ d.size + k < d.asWritten.size := by omega
    simp [savedPlace, hnot, hk]
  · have hle := h.before.size_asWritten_le
    have hnone : (e₀.copiesWith t)[place (n.index - d.asWritten.size - nodes.length)]? = none := by
      rw [hplace.getElem?_eq, List.getElem?_eq_none_iff]
      omega
    rw [List.getElem?_eq_none_iff] at hnone
    have hnot : ¬ n.index < d.asWritten.size := by omega
    have hnot' : ¬ n.index < d.size := by omega
    have hnot'' : ¬ n.index < d.size + nodes.length := by omega
    rw [h.after.size_eq, h.size_asWritten]
    simp only [savedPlace, hnot, hnot', hnot'', if_false]
    omega

/-- A document for which a copy was planned has kept its number. -/
theorem id_eq_of_copy {c : NodeId × Node} (hc : c ∈ d₀.copiesWith r) : e.id = d.id := by
  rcases h.known with ⟨-, hid⟩ | ⟨-, -, -, hviews⟩
  · exact hid
  · obtain ⟨k, hk, hderived⟩ := Resolver.of_mem_copies_plan hc
    rw [Document.kind?_of_detached? (d₀.detached?_prepare r.registry c.1),
      ← h.before.asWritten_eq] at hk
    rw [hviews c.1 k hk] at hderived
    cases hderived

/-- A node of the document with the imagined chain was written, or is a copy, or is in the chain;
or it is not there. -/
theorem cases_node (n : NodeId) : n.index < d.asWritten.size ∨
    (∃ i c, (d₀.copiesWith r)[i]? = some c ∧ n = ⟨d.asWritten.size + i⟩) ∨
    (∃ k v, nodes[k]? = some v ∧ n = ⟨d.size + k⟩) ∨ d.size + nodes.length ≤ n.index := by
  have hsize := h.before.size_eq
  rcases Nat.lt_or_ge n.index d.asWritten.size with hlt | hge
  · exact Or.inl hlt
  rcases Nat.lt_or_ge n.index d.size with hlt | hge'
  · have hi : n.index - d.asWritten.size < (d₀.copiesWith r).length := by omega
    refine Or.inr (Or.inl ⟨_, _, List.getElem?_eq_getElem hi, ?_⟩)
    exact congrArg NodeId.mk (Nat.add_sub_cancel' hge).symm
  rcases Nat.lt_or_ge n.index (d.size + nodes.length) with hlt | hge''
  · have hk : n.index - d.size < nodes.length := by omega
    refine Or.inr (Or.inr (Or.inl ⟨_, _, List.getElem?_eq_getElem hk, ?_⟩))
    exact congrArg NodeId.mk (Nat.add_sub_cancel' hge').symm
  · exact Or.inr (Or.inr (Or.inr hge''))

theorem anchor_lt_size : a.index < d.size :=
  Nat.lt_of_lt_of_le h.anchor_lt h.before.size_asWritten_le

/-- With the imagined chain only nodes of the document have identifiers. -/
theorem ownId?_of_hang {n : NodeId} {own : String}
    (hown : (hang d a nodes).1.ownId? n = some own) : n.index < d.size ∧ d.ownId? n = some own := by
  have hlt : n.index < d.size := by
    by_contra hnot
    rw [ownId?_hang_of_le h.anchor_lt_size h.unnamed (Nat.le_of_not_lt hnot)] at hown
    cases hown
  rw [Document.ownId?_of_detached? (detached?_hang_of_lt h.anchor_lt_size hlt nodes)] at hown
  exact ⟨hlt, hown⟩

section Moved

variable {place : Nat → Nat} {ρ : NodeId → NodeId} (hm : Moves nodes r t d d₀ e e₀ place ρ)
include hm

/-- What stands at a place stands where that has moved to. -/
theorem detached?_moved (n : NodeId) : e.detached? (ρ n) = (hang d a nodes).1.detached? n := by
  have ha := h.anchor_lt_size
  have hle := h.before.size_asWritten_le
  rcases h.cases_node n with hn | ⟨i, c, hc, rfl⟩ | ⟨k, v, hv, rfl⟩ | hn
  · rw [hm.written n hn, h.detached?_old hn, detached?_hang_of_lt ha (Nat.lt_of_lt_of_le hn hle)]
  · have hlt : (⟨d.asWritten.size + i⟩ : NodeId).index < d.size := by
      rw [h.before.size_eq]
      exact Nat.add_lt_add_left (List.getElem?_eq_some_iff.1 hc).1 _
    rw [hm.copy i c hc, detached?_hang_of_lt ha hlt, h.before.detached?_add hc,
      h.after.detached?_add ((hm.places.getElem?_eq i).trans hc)]
  · rw [hm.chain k (List.getElem?_eq_some_iff.1 hv).1, h.detached?_chain hv,
      detached?_hang_add ha hv]
  · rw [Document.detached?, Document.detached?, node?_hang_eq_none hn,
      Option.map_none, Option.map_eq_none_iff, ← Option.not_isSome_iff_eq_none,
      Document.node?_isSome_iff]
    exact Nat.not_lt.2 (hm.beyond n hn)

/-- What contains a node directly moves with it. -/
theorem parent?_moved (n : NodeId) :
    e.parent? (ρ n) = ((hang d a nodes).1.parent? n).map ρ := by
  have ha := h.anchor_lt_size
  have hle := h.before.size_asWritten_le
  rcases h.cases_node n with hn | ⟨i, c, hc, rfl⟩ | ⟨k, v, hv, rfl⟩ | hn
  · rw [hm.written n hn, h.parent?_old hn, parent?_hang_of_lt ha (Nat.lt_of_lt_of_le hn hle)]
    cases hp : d.parent? n with
    | none => rfl
    | some p =>
      have hlt := (h.before.isTree.of_parent? hp).1
      rw [Option.map_some, hm.written p (Nat.lt_trans hlt hn)]
  · have hlt : (⟨d.asWritten.size + i⟩ : NodeId).index < d.size := by
      rw [h.before.size_eq]
      exact Nat.add_lt_add_left (List.getElem?_eq_some_iff.1 hc).1 _
    rw [hm.copy i c hc, parent?_hang_of_lt ha hlt, h.before.parent?_add hc,
      h.after.parent?_add ((hm.places.getElem?_eq i).trans hc), Option.map_some,
      hm.written c.1 (h.before.lt_of_mem_copiesWith (List.mem_of_getElem? hc))]
  · have hk := (List.getElem?_eq_some_iff.1 hv).1
    rw [hm.chain k hk, h.parent?_chain hk, parent?_hang_add ha hk, Option.map_some]
    cases k with
    | zero => exact congrArg some (hm.written a h.anchor_lt).symm
    | succ k => exact congrArg some (hm.chain k (Nat.lt_of_succ_lt hk)).symm
  · have hnone : e.node? (ρ n) = none := by
      rw [← Option.not_isSome_iff_eq_none, Document.node?_isSome_iff]
      exact Nat.not_lt.2 (hm.beyond n hn)
    rw [Document.parent?, Document.parent?, node?_hang_eq_none hn, hnone]
    rfl

theorem kind?_moved (n : NodeId) : e.kind? (ρ n) = (hang d a nodes).1.kind? n :=
  Document.kind?_of_detached? (h.detached?_moved hm n)

theorem ownId?_moved (n : NodeId) : e.ownId? (ρ n) = (hang d a nodes).1.ownId? n :=
  Document.ownId?_of_detached? (h.detached?_moved hm n)

/-- Copies contain nothing, with and without the chain. -/
theorem children_copy {i : Nat} {c : NodeId × Node} (hc : (d₀.copiesWith r)[i]? = some c) :
    e.children (ρ ⟨d.asWritten.size + i⟩) = [] ∧
      (hang d a nodes).1.children ⟨d.asWritten.size + i⟩ = [] := by
  have hlt : (⟨d.asWritten.size + i⟩ : NodeId).index < d.size := by
    rw [h.before.size_eq]
    exact Nat.add_lt_add_left (List.getElem?_eq_some_iff.1 hc).1 _
  have hne : (⟨d.asWritten.size + i⟩ : NodeId) ≠ a := by
    rintro rfl
    exact Nat.not_lt.2 (Nat.le_add_right _ i) h.anchor_lt
  refine ⟨?_, ?_⟩
  · rw [hm.copy i c hc, h.after.children_add ((hm.places.getElem?_eq i).trans hc)]
  · rw [children_hang_of_lt h.anchor_lt_size hlt, h.before.children_add hc,
      if_neg fun heq => hne heq.1]
    rfl

/-- What is shown of nodes is shown of them where they have moved to. -/
theorem filter_map_moved (l : List NodeId) (keep : Node → Bool) :
    (l.map ρ).filter (fun c => (e.detached? c).any keep) =
      (l.filter fun c => ((hang d a nodes).1.detached? c).any keep).map ρ := by
  rw [List.filter_map]
  refine congrArg (List.map ρ) (List.filter_congr fun c _ => ?_)
  rw [Function.comp_apply, h.detached?_moved hm]

/-- A node that was written contains what it contained, then the first node of the chain if it hangs
there, and then the copies for it; in the document with the imagined chain the copies stand before
that node. -/
theorem children_written {n : NodeId} (hn : n.index < d.asWritten.size) :
    e.children n = (d.asWritten.children n).map ρ ++
        (if n = a ∧ nodes ≠ [] then [d.nextNode] else []).map ρ ++
        copyPlaces e.asWritten.size (e₀.copiesWith t) n ∧
      (hang d a nodes).1.children n = d.asWritten.children n ++
        copyPlaces d.asWritten.size (d₀.copiesWith r) n ++
        if n = a ∧ nodes ≠ [] then [d.nextNode] else [] := by
  have hold : (d.asWritten.children n).map ρ = d.asWritten.children n :=
    (List.map_congr_left fun c hc =>
      hm.written c (h.before.isTree_asWritten.lt_of_mem_children hc)).trans (List.map_id' _)
  have hfirst : (if n = a ∧ nodes ≠ [] then [d.nextNode] else []).map ρ =
      if n = a ∧ nodes ≠ [] then [⟨d.asWritten.size⟩] else [] := by
    split
    · have hlen := List.length_pos_iff.2 ‹n = a ∧ nodes ≠ []›.2
      exact congrArg ([·]) (hm.chain 0 hlen)
    · rfl
  refine ⟨?_, ?_⟩
  · rw [h.after.children_of_lt (h.lt_asWritten hn), h.children_asWritten_old hn, hold, hfirst]
  · rw [children_hang_of_lt h.anchor_lt_size (Nat.lt_of_lt_of_le hn h.before.size_asWritten_le),
      h.before.children_of_lt hn]

omit hm in
/-- Of the copies for a node the document shows with the imagined chain what it showed. -/
theorem filter_copyPlaces_hang (n : NodeId) (keep : Node → Bool) :
    (copyPlaces d.asWritten.size (d₀.copiesWith r) n).filter
        (fun c => ((hang d a nodes).1.detached? c).any keep) =
      (copyPlaces d.asWritten.size (d₀.copiesWith r) n).filter
        fun c => (d.detached? c).any keep := by
  refine List.filter_congr fun c hc => ?_
  obtain ⟨copy, hcopy, -⟩ := mem_copyPlaces_iff.1 hc
  have hlt : c.index < d.size := by
    rw [h.before.size_eq]
    exact List.snd_lt_add_of_mem_zipIdx hcopy
  rw [detached?_hang_of_lt h.anchor_lt_size hlt]

/-- A node of the chain contains the next one. -/
theorem children_chain {k : Nat} (hk : k < nodes.length) :
    e.children ⟨d.asWritten.size + k⟩ =
        ((hang d a nodes).1.children ⟨d.size + k⟩).map ρ ++
          copyPlaces e.asWritten.size (e₀.copiesWith t) ⟨d.asWritten.size + k⟩ := by
  have hlt : (⟨d.asWritten.size + k⟩ : NodeId).index < e.asWritten.size := by
    rw [h.size_asWritten]
    exact Nat.add_lt_add_left hk _
  have hchildren : e.asWritten.children ⟨d.asWritten.size + k⟩ =
      if k + 1 < nodes.length then [⟨d.asWritten.size + (k + 1)⟩] else [] := by
    rw [h.written]
    exact children_hang_add h.anchor_lt hk
  rw [h.after.children_of_lt hlt, hchildren, children_hang_add h.anchor_lt_size hk]
  split
  · rw [List.map_singleton, hm.chain (k + 1) ‹k + 1 < nodes.length›]
  · rfl

omit h in
/-- Places behind the chain contain nothing. -/
theorem children_beyond {n : NodeId} (hn : d.size + nodes.length ≤ n.index) :
    e.children (ρ n) = [] ∧ (hang d a nodes).1.children n = [] := by
  have hnone : e.node? (ρ n) = none := by
    rw [← Option.not_isSome_iff_eq_none, Document.node?_isSome_iff]
    exact Nat.not_lt.2 (hm.beyond n hn)
  rw [Document.children, Document.children, node?_hang_eq_none hn, hnone]
  exact ⟨rfl, rfl⟩

/-- What a node contains of a kind that no derived attribute has moves with it. -/
theorem childrenOfKind_moved {k : NodeKind} (hk : k.isDerivedAttribute = false) (n : NodeId) :
    e.childrenOfKind (ρ n) k = ((hang d a nodes).1.childrenOfKind n k).map ρ := by
  have hcopies : ∀ (r : Resolver) (d : Document), ∀ c ∈ d.copiesWith r,
      decide (c.2.kind = k) = false := by
    intro r d c hc
    refine decide_eq_false ?_
    rintro rfl
    rw [Resolver.isDerivedAttribute_of_mem_copies_plan hc] at hk
    cases hk
  have hold : ∀ n, (copyPlaces d.asWritten.size (d₀.copiesWith r) n).filter
      (fun c => (d.detached? c).any (·.kind = k)) = [] := fun n =>
    h.before.filter_copyPlaces_eq_nil n (fun _ => rfl) (hcopies r d₀)
  have hnew : ∀ n, (copyPlaces e.asWritten.size (e₀.copiesWith t) n).filter
      (fun c => (e.detached? c).any (·.kind = k)) = [] := fun n =>
    h.after.filter_copyPlaces_eq_nil n (fun _ => rfl) (hcopies t e₀)
  rw [Document.childrenOfKind_eq_filter, Document.childrenOfKind_eq_filter]
  rcases h.cases_node n with hn | ⟨i, c, hc, rfl⟩ | ⟨j, v, hv, rfl⟩ | hn
  · obtain ⟨he, hd⟩ := h.children_written hm hn
    rw [hm.written n hn, he, hd]
    simp only [List.filter_append, List.map_append, hnew, h.filter_copyPlaces_hang, hold,
      h.filter_map_moved hm, List.append_nil]
  · obtain ⟨he, hd⟩ := h.children_copy hm hc
    rw [he, hd]
    rfl
  · have hj := (List.getElem?_eq_some_iff.1 hv).1
    rw [hm.chain j hj, h.children_chain hm hj, List.filter_append, hnew, List.append_nil,
      h.filter_map_moved hm]
  · obtain ⟨he, hd⟩ := children_beyond hm hn
    rw [he, hd]
    rfl

/-- The copies with an identifier for a node that was written move in order. -/
theorem filter_copyPlaces_moved {n : NodeId} (hn : n.index < d.asWritten.size) {keep : Node → Bool}
    (hkeep : ∀ x : Node, keep x.detached = keep x)
    (hnamed : ∀ x : Node, x.ownId? = none → keep x = false) :
    (copyPlaces e.asWritten.size (e₀.copiesWith t) n).filter (fun c => (e.detached? c).any keep) =
      ((copyPlaces d.asWritten.size (d₀.copiesWith r) n).filter
        fun c => (d.detached? c).any keep).map ρ := by
  have hextra : ∀ c : NodeId × Node, (c.2.ownId? = none ∨ d.asWritten.size ≤ c.1.index) →
      (decide (c.1 = n) && keep c.2) = false := by
    rintro c (hc | hc)
    · rw [hnamed _ hc, Bool.and_false]
    · have hne : c.1 ≠ n := by
        rintro rfl
        exact Nat.not_lt.2 hc hn
      rw [decide_eq_false hne, Bool.false_and]
  have hplaces := hm.places.map_filter_zipIdx (p := fun c => decide (c.1 = n) && keep c.2) hextra
    e.asWritten.size
  have hshift : (d₀.copiesWith r).zipIdx d.asWritten.size =
      (d₀.copiesWith r).zipIdx.map fun c => (c.1, d.asWritten.size + c.2) :=
    List.zipIdx_eq_map_add
  rw [h.after.filter_copyPlaces n hkeep, h.before.filter_copyPlaces n hkeep, hplaces, hshift,
    List.filter_map, List.map_map, List.map_map, List.map_map, List.map_map]
  refine List.map_congr_left fun c hc => ?_
  obtain ⟨-, hget⟩ := List.mem_zipIdx_iff_le_and_getElem?_sub.1 (List.mem_filter.1 hc).1
  exact (hm.copy c.2 c.1 hget).symm

/-- What a node with an identifier contains of a kind moves with it, as far as it has
identifiers. -/
theorem named_childrenOfKind_moved {n : NodeId} {own : String}
    (hown : (hang d a nodes).1.ownId? n = some own) (k : NodeKind) :
    (e.childrenOfKind (ρ n) k).filter (e.ownId? · |>.isSome) =
      (((hang d a nodes).1.childrenOfKind n k).filter
        ((hang d a nodes).1.ownId? · |>.isSome)).map ρ := by
  have hlt := (h.ownId?_of_hang hown).1
  have hnamed : ∀ x : Node, x.ownId? = none →
      (decide (x.kind = k) && x.ownId?.isSome) = false := fun x hx => by
    rw [hx, Option.isSome_none, Bool.and_false]
  rw [Document.filter_named_childrenOfKind, Document.filter_named_childrenOfKind]
  rcases h.cases_node n with hn | ⟨i, c, hc, rfl⟩ | ⟨j, v, hv, rfl⟩ | hn
  · have hfirst : (if n = a ∧ nodes ≠ [] then [d.nextNode] else []).filter
        (fun c => ((hang d a nodes).1.detached? c).any
          fun x => decide (x.kind = k) && x.ownId?.isSome) = [] := by
      refine List.filter_eq_nil_iff.2 fun c hc => ?_
      split at hc
      · obtain rfl := List.mem_singleton.1 hc
        have hunnamed := ownId?_hang_of_le h.anchor_lt_size h.unnamed (Nat.le_refl d.size)
          (n := d.nextNode)
        rw [Document.any_detached?_of_unnamed hunnamed hnamed]
        exact Bool.false_ne_true
      · cases hc
    have hcopies := h.filter_copyPlaces_moved hm hn (fun _ => rfl) hnamed
    obtain ⟨he, hd⟩ := h.children_written hm hn
    rw [hm.written n hn, he, hd]
    simp only [List.filter_append, List.map_append, h.filter_copyPlaces_hang, hfirst, hcopies,
      h.filter_map_moved hm, List.append_nil, List.map_nil]
  · obtain ⟨he, hd⟩ := h.children_copy hm hc
    rw [he, hd]
    rfl
  · exact absurd hlt (Nat.not_lt.2 (Nat.le_add_right _ j))
  · exact absurd hlt (Nat.not_lt.2 (Nat.le_trans (Nat.le_add_right _ _) hn))

omit h in
/-- A description of a node that was written, or of another document, stays. -/
theorem moved_of_written {x : Description}
    (hx : x.node.document = d.id → x.node.node.index < d.asWritten.size) :
    x.moved (·.movedIn d.id ρ) = x := by
  refine Description.moved_of_eq ?_
  by_cases hid : x.node.document = d.id
  · rw [NodePtr.movedIn, if_pos hid, hm.written _ (hx hid), ← hid]
  · exact NodePtr.movedIn_of_ne hid ρ

omit hm in
/-- Copies without identifier stand in no table, and copies for the chain, which has none and is no
target, do not either. -/
theorem copyEntries_extra (c : NodeId × Node) (i : Nat)
    (hc : c.2.ownId? = none ∨ d.asWritten.size ≤ c.1.index) :
    copyEntries t.registry (e₀.prepare t.registry) c ⟨i⟩ = [] := by
  rw [copyEntries]
  rcases hc with hc | hc
  · rw [hc]
  · have hdetached := e₀.detached?_prepare t.registry c.1
    rw [← h.after.asWritten_eq] at hdetached
    cases c.2.ownId? with
    | none => rfl
    | some own =>
      cases hk : (e₀.prepare t.registry).kind? c.1 with
      | none => rfl
      | some k =>
        have hkind : k ≠ .targetObject := by
          rintro rfl
          exact h.kind?_asWritten_of_le hc ((Document.kind?_of_detached? hdetached).symm.trans hk)
        simp only [tableNames, Document.ownId?_of_detached? hdetached,
          h.ownId?_asWritten_of_le hc, if_neg hkind]
        rfl

/-- The entry of a table moves with its container and its node. -/
theorem copyEntries_moved {i : Nat} {c : NodeId × Node} (hc : (d₀.copiesWith r)[i]? = some c) :
    copyEntries t.registry (e₀.prepare t.registry) c ⟨e.asWritten.size + place i⟩ =
      (copyEntries r.registry (d₀.prepare r.registry) c ⟨d.asWritten.size + i⟩).map
        fun x => (ρ x.1, x.2.moved (·.movedIn d.id ρ)) := by
  have hmem := List.mem_of_getElem? hc
  have hlt := h.before.lt_of_mem_copiesWith hmem
  have hdetached := h.detached?_prepare hlt
  have hnames : ∀ k own, tableNames (e₀.prepare t.registry) c.1 k own =
      tableNames (d₀.prepare r.registry) c.1 k own := fun k own => by
    simp only [tableNames, Document.ownId?_of_detached? hdetached, h.parent?_prepare hlt]
  have hid : (e₀.prepare t.registry).id = (d₀.prepare r.registry).id :=
    (h.after.id_eq.trans (h.id_eq_of_copy hmem)).trans h.before.id_eq.symm
  have huri : (e₀.prepare t.registry).uri = (d₀.prepare r.registry).uri :=
    (h.after.uri_eq.symm.trans h.uri_eq).trans h.before.uri_eq
  rw [copyEntries, copyEntries, Document.kind?_of_detached? hdetached]
  cases c.2.ownId? with
  | none => rfl
  | some own =>
    cases (d₀.prepare r.registry).kind? c.1 with
    | none => rfl
    | some k =>
      simp only [hnames, List.map_map]
      refine List.map_congr_left fun x hx => ?_
      have hcontainer : x.1.index < d.asWritten.size := by
        rcases mem_tableNames_iff.1 hx with ⟨_, -, hparent, -⟩ | ⟨-, rfl⟩
        · have hup := (h.before.planned.tree.of_parent? hparent).1
          exact Nat.lt_trans hup hlt
        · exact hlt
      have hdescribe := Document.describe_moved hid huri ρ
        (r.registry.modelOf? (d₀.prepare r.registry)) ⟨d.asWritten.size + i⟩ c.2.kind x.2 .localForm
      rw [hm.copy i c hc] at hdescribe
      rw [Function.comp_apply, hm.written x.1 hcontainer, h.modelOf?_prepare, hdescribe,
        Document.id_prepare, h.before.id_eq]

/-- The table of a node moves with it, and so does what stands in it. -/
theorem tableOf_moved (n : NodeId) :
    t.tableOf e (ρ n) = (r.tableOf d n).map (·.moved (·.movedIn d.id ρ)) := by
  have hwritten : ∀ x ∈ ((d₀.prepare r.registry).localTables r.registry).entries,
      (ρ x.1, x.2.moved (·.movedIn d.id ρ)) = x := by
    intro x hx
    have hlt := h.before.planned.index_lt_of_mem_localTables hx
    have hup := (h.before.planned.tree.of_parent? (Document.parent?_of_mem_localTables hx)).1
    rw [h.before.size_prepare] at hlt
    exact Prod.ext (hm.written _ (Nat.lt_trans hup hlt)) (moved_of_written hm fun _ => hlt)
  have hcopies : (((e₀.copiesWith t).zipIdx e.asWritten.size).flatMap fun c =>
      copyEntries t.registry (e₀.prepare t.registry) c.1 ⟨c.2⟩) =
      (((d₀.copiesWith r).zipIdx d.asWritten.size).flatMap fun c =>
        copyEntries r.registry (d₀.prepare r.registry) c.1 ⟨c.2⟩).map
          fun x => (ρ x.1, x.2.moved (·.movedIn d.id ρ)) := by
    have hshift : (d₀.copiesWith r).zipIdx d.asWritten.size =
        (d₀.copiesWith r).zipIdx.map fun c => (c.1, d.asWritten.size + c.2) :=
      List.zipIdx_eq_map_add
    rw [hm.places.flatMap_zipIdx
      (fun c i => copyEntries t.registry (e₀.prepare t.registry) c ⟨i⟩) h.copyEntries_extra,
      hshift, List.flatMap_map, List.map_flatMap]
    refine List.flatMap_congr fun c hc => ?_
    obtain ⟨-, hget⟩ := List.mem_zipIdx_iff_le_and_getElem?_sub.1 hc
    exact h.copyEntries_moved hm hget
  have hentries : (t.index.localsOf e.id).entries = (r.index.localsOf d.id).entries.map
      fun x => (ρ x.1, x.2.moved (·.movedIn d.id ρ)) := by
    rw [h.after.entries_eq, h.before.entries_eq, h.localTables_prepare, List.map_append, hcopies,
      List.map_congr_left hwritten, List.map_id']
  rw [tableOf, tableOf, LocalTables.table, LocalTables.table, hentries, List.filter_map,
    List.map_map, List.map_map]
  refine congrArg (List.map _) (List.filter_congr fun x _ => ?_)
  exact decide_eq_decide.2 hm.injective.eq_iff

omit hm in
theorem id_eq_of_document? {y : Document} (hy : r.document? d.id = some y) : e.id = d.id := by
  rcases h.known with ⟨-, hid⟩ | ⟨hnone, -⟩
  · exact hid
  · rw [hnone] at hy
    cases hy

omit hm in
/-- Another document that was there is another one still. -/
theorem ne_id_of_document? {id : DocumentId} {y : Document} (hy : r.document? id = some y)
    (hne : id ≠ d.id) : id ≠ e.id := by
  rcases h.known with ⟨-, hid⟩ | ⟨-, hnone, -⟩
  · rwa [hid]
  · rintro rfl
    rw [hnone] at hy
    cases hy

/-- What is exported stays. -/
theorem map_moved_of_globalScope {k : NodeKind} {xs : List Description}
    (hxs : ∀ x ∈ xs, x ∈ r.index.globalScope k) :
    xs.map (·.moved (·.movedIn d.id ρ)) = xs := by
  refine (List.map_congr_left fun x hx => ?_).trans (List.map_id' xs)
  obtain ⟨y, -, hyd, -⟩ := h.exists_of_mem_globalScope (hxs x hx)
  exact moved_of_written hm fun hid => (hyd hid).2

/-- A node contains another one where both have moved to if it did before. -/
theorem parent?_moved_eq_some_iff (n m : NodeId) :
    e.parent? (ρ n) = some (ρ m) ↔ (hang d a nodes).1.parent? n = some m := by
  rw [h.parent?_moved hm, Option.map_eq_some_iff]
  constructor
  · rintro ⟨p, hp, heq⟩
    rw [hp, hm.injective heq]
  · exact fun hp => ⟨m, hp, rfl⟩

/-- The members of an entity that is shown are its members still. -/
theorem isMember_moved {x : Description} {n : NodeId} {k : NodeKind}
    (hx : x ∈ (r.generalScope (hang d a nodes).1 n k).elements) (y : Description) :
    t.isMember (x.moved (·.movedIn d.id ρ)) (y.moved (·.movedIn d.id ρ)) =
      (r.overlay (hang d a nodes).1).isMember x y := by
  have hidH : (hang d a nodes).1.id = d.id := (frame_hang d a nodes).1
  obtain ⟨-, z, hz, -⟩ := h.exists_of_mem_generalScope hidH hx
  unfold isMember
  simp only [Description.moved, NodePtr.document_movedIn]
  by_cases hsame : y.node.document = x.node.document
  · refine congrArg ((Name.isInside x.name y.name && decide (y.node.document = x.node.document)) && ·)
      (decide_eq_decide.2 ?_)
    by_cases hown : x.node.document = d.id
    · have hid := h.id_eq_of_document? (hown ▸ hz)
      have hnew : t.document? x.node.document = some e := by rw [hown, ← hid, h.document_eq]
      have hold : (r.overlay (hang d a nodes).1).document? x.node.document =
          some (hang d a nodes).1 := by
        rw [hown, ← hidH, overlay_document?_self]
      rw [hnew, hold, Option.bind_some, Option.bind_some, NodePtr.movedIn, NodePtr.movedIn,
        if_pos hown, if_pos (hsame.trans hown)]
      exact h.parent?_moved_eq_some_iff hm _ _
    · have hreset := h.others _ hown (h.ne_id_of_document? hz hown)
      rw [hz, Option.map_some] at hreset
      obtain ⟨z', hz', heq⟩ := Option.map_eq_some_iff.1 hreset
      have hold : (r.overlay (hang d a nodes).1).document? x.node.document = some z := by
        simp only [overlay, hidH, if_neg hown, hz]
      rw [hz', hold, Option.bind_some, Option.bind_some, NodePtr.movedIn_of_ne hown,
        NodePtr.movedIn_of_ne (hsame ▸ hown),
        (Document.alike_of_resetReferences_eq heq).parent?]
  · simp [hsame]

/-- But for the move, and but for dependencies of data models, the document shows what the copy with
the imagined chain showed. -/
theorem matchesAll : MatchesAll (·.movedIn d.id ρ) ρ (r.overlay (hang d a nodes).1) t
    (hang d a nodes).1 e := by
  obtain ⟨hid, huri, -⟩ := frame_hang d a nodes
  have hmodel : r.registry.modelOf? e = r.registry.modelOf? (hang d a nodes).1 := by
    rw [h.modelOf?_eq, Registry.modelOf?, Registry.modelOf?, huri]
  exact {
    injective := NodePtr.injective_movedIn d.id hm.injective
    registry := h.registry
    modelOf? := hmodel
    above := fun _ _ _ _ => trivial
    ancestors := fun n _ => (isTree_hang h.anchor_lt_size h.before.isTree nodes).ancestors_moved
      h.after.isTree (h.parent?_moved hm) n
    kind? := fun n _ => h.kind?_moved hm n
    text? := fun n _ => Document.text?_of_detached? (h.detached?_moved hm n)
    below := fun _ _ _ _ => trivial
    targets := fun n _ => h.childrenOfKind_moved hm rfl n
    table := fun n _ k _ => by
      rw [h.tableOf_moved hm, Description.ofKind_map_moved, tableOf, tableOf, hid]
      rfl
    packageScope := fun k _ => by
      rw [packageScope_congr (r := r.overlay (hang d a nodes).1) h.registry hmodel h.globalScope]
      exact (h.map_moved_of_globalScope hm fun x hx => (mem_packageScope.1 hx).1).symm
    dependencyScope := fun k _ => by
      rw [dependencyScope_congr (r := r.overlay (hang d a nodes).1) h.registry hmodel
        h.globalScope]
      exact (h.map_moved_of_globalScope hm fun x hx => (mem_dependencyScope.1 hx).1).symm
    place_injective := hm.injective
    parent? := h.parent?_moved hm
    ownId? := h.ownId?_moved hm
    sources := h.childrenOfKind_moved hm rfl
    dependencies := h.childrenOfKind_moved hm rfl
    attributes := fun n own hown => h.named_childrenOfKind_moved hm hown _
    describe := fun n own hown model k name form => by
      have hsame := (h.id_eq_of_ownId? (h.ownId?_of_hang hown).2).trans hid.symm
      rw [Document.describe_moved hsame (h.uri_eq.trans huri.symm) ρ, hid]
    isMember := fun n k x hx y => h.isMember_moved hm hx y }

/-- An exported node is the one that has moved from a place if it was the one there. -/
theorem node_eq_ptr_moved_iff {k : NodeKind} {x : Description} (hx : x ∈ r.index.globalScope k)
    (m : NodeId) : x.node = e.ptr (ρ m) ↔ x.node = (hang d a nodes).1.ptr m := by
  have hidH : (hang d a nodes).1.id = d.id := (frame_hang d a nodes).1
  obtain ⟨y, hy, hyd, -⟩ := h.exists_of_mem_globalScope hx
  by_cases hown : x.node.document = d.id
  · have hstays := hm.written _ (hyd hown).2
    have hnode : x.node = ⟨d.id, x.node.node⟩ := congrArg (NodePtr.mk · x.node.node) hown
    rw [hnode, Document.ptr, Document.ptr, hidH, h.id_eq_of_document? (hown ▸ hy),
      NodePtr.mk.injEq, NodePtr.mk.injEq]
    have hplace := hm.injective.eq_iff (a := x.node.node) (b := m)
    rw [hstays] at hplace
    exact and_congr_right fun _ => hplace
  · refine ⟨fun heq => absurd (congrArg NodePtr.document heq) (h.ne_id_of_document? hy hown),
      fun heq => absurd ((congrArg NodePtr.document heq).trans hidH) hown⟩

/-- A dependency of a data model sees the same. -/
theorem dataModelDependencyScope_moved (n : NodeId) :
    t.dataModelDependencyScope e (ρ n) =
      (r.dataModelDependencyScope (hang d a nodes).1 n).moved (·.movedIn d.id ρ) := by
  have hm' := h.matchesAll hm
  have hmodel : r.registry.modelOf? e = r.registry.modelOf? (hang d a nodes).1 := hm'.modelOf?
  simp only [dataModelDependencyScope, Scope.moved_single]
  rw [h.map_moved_of_globalScope hm fun x hx => (List.mem_filter.1 hx).1, h.globalScope,
    h.registry, hmodel, hm'.ancestorOfKind? trivial]
  refine congrArg Scope.single (List.filter_congr fun x hx => ?_)
  refine congrArg (· && _) (decide_eq_decide.2 (not_congr ?_))
  cases (hang d a nodes).1.ancestorOfKind? n .dataModel with
  | none => simp
  | some m => simpa using h.node_eq_ptr_moved_iff hm hx m

/-- Whatever the kind and the property, the document shows to a node what the copy with the imagined
chain showed to it where it stood. -/
theorem scopeOf_moved (kind : NodeKind) (n : NodeId) (p : Property) (target : NodeKind) :
    t.scopeOf e (ρ n) kind p target = ((r.overlay (hang d a nodes).1).scopeOf
      (hang d a nodes).1 n kind p target).moved (·.movedIn d.id ρ) := by
  by_cases hkind : kind = .dataModelDependency
  · subst hkind
    exact h.dataModelDependencyScope_moved hm n
  · exact (h.matchesAll hm).scopeOf hkind n p target

/-- Where the last node of the chain has moved to. -/
theorem last_moved (hnodes : nodes ≠ []) :
    ρ (hang d a nodes).2 = ⟨e.asWritten.size - 1⟩ := by
  have hlen := List.length_pos_iff.2 hnodes
  rw [snd_hang_of_ne_nil hnodes, hm.chain _ (by omega), h.size_asWritten, NodeId.mk.injEq]
  omega

/-- The last node of the chain has the scopes that the last imagined one had, but for the move, or
has none for the same reason. -/
theorem scopeAt_moved (hnodes : nodes ≠ []) (p : Property) :
    t.scopeAt ⟨e.id, ⟨e.asWritten.size - 1⟩⟩ p =
      ((r.overlay (hang d a nodes).1).scopeAt
        ((hang d a nodes).1.ptr (hang d a nodes).2) p).map (·.moved (·.movedIn d.id ρ)) := by
  obtain ⟨node, hnode⟩ : ∃ node, (hang d a nodes).1.node? (hang d a nodes).2 = some node := by
    have hlen := List.length_pos_iff.2 hnodes
    rw [← Option.isSome_iff_exists, Document.node?_isSome_iff, snd_hang_of_ne_nil hnodes,
      size_hang]
    exact Nat.add_lt_add_left (Nat.sub_lt hlen Nat.one_pos) _
  have hkind := h.kind?_moved hm (hang d a nodes).2
  have hscope := fun target => h.scopeOf_moved hm node.kind (hang d a nodes).2 p target
  rw [h.last_moved hm hnodes] at hkind hscope
  rw [Document.kind?, Document.kind?, hnode, Option.map_some] at hkind
  obtain ⟨node', hnode', hkind'⟩ := Option.map_eq_some_iff.1 hkind
  have hlocate : (r.overlay (hang d a nodes).1).locate
      ((hang d a nodes).1.ptr (hang d a nodes).2) = .ok ((hang d a nodes).1, node) := by
    simp only [locate, Document.ptr, overlay_document?_self, hnode]
  have hlocate' : t.locate ⟨e.id, ⟨e.asWritten.size - 1⟩⟩ = .ok (e, node') := by
    simp only [locate, h.document_eq, hnode']
  rw [scopeAt, scopeAt, hlocate, hlocate']
  simp only [hkind']
  cases node.kind.referenceTarget? p with
  | none => rfl
  | some target => exact congrArg Except.ok (hscope target)

omit hm in
/-- With an imagined chain in it a document shows no node of the chain. -/
theorem lt_of_mem_scopeOf {kind : NodeKind} {n : NodeId} {p : Property} {target : NodeKind}
    {x : Description} (hx : x ∈ ((r.overlay (hang d a nodes).1).scopeOf
      (hang d a nodes).1 n kind p target).elements) (hown : x.node.document = d.id) :
    x.node.node.index < d.size := by
  have hidH : (hang d a nodes).1.id = d.id := (frame_hang d a nodes).1
  rcases cases_of_mem_scopeOf hx with hx | ⟨-, hx⟩ | ⟨m, k, name, -, hnamed, rfl⟩
  · obtain ⟨-, y, -, hyd, hkind⟩ := h.exists_of_mem_generalScope hidH hx
    rw [hyd hown] at hkind
    exact Document.index_lt_of_kind? hkind
  · obtain ⟨y, -, hyd, -⟩ := h.exists_of_mem_globalScope hx
    exact Nat.lt_of_lt_of_le (hyd hown).2 h.before.size_asWritten_le
  · obtain ⟨own, hm⟩ := Option.isSome_iff_exists.1 hnamed
    exact (h.ownId?_of_hang hm).1

end Moved

/-- So a scope of the last node of the chain shows none either. -/
theorem lt_of_mem_scopeAt {n : NodeId} {p : Property} {scope : Scope}
    (hscope : (r.overlay (hang d a nodes).1).scopeAt ((hang d a nodes).1.ptr n) p = .ok scope)
    {x : Description} (hx : x ∈ scope.elements) (hown : x.node.document = d.id) :
    x.node.node.index < d.size := by
  simp only [scopeAt, locate, Document.ptr, overlay_document?_self] at hscope
  cases hnode : (hang d a nodes).1.node? n with
  | none =>
    rw [hnode] at hscope
    cases hscope
  | some node =>
    simp only [hnode] at hscope
    cases htarget : node.kind.referenceTarget? p with
    | none =>
      rw [htarget] at hscope
      cases hscope
    | some target =>
      simp only [htarget, Except.ok.injEq] at hscope
      subst hscope
      exact h.lt_of_mem_scopeOf hx hown

end Resolver.Saves

end ModelBinding
