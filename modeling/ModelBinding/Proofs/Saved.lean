import ModelBinding.Proofs.Descriptions
import ModelBinding.Proofs.Extended
import ModelBinding.Proofs.Moved
import ModelBinding.Proofs.Settled

/-!
# A chain that was saved

A document is set once more with a chain of nodes in it that have no identifiers and are
no targets, and all is rebuilt (`Resolver.Saves`). What was written before stands where it
stood and means what it meant, so the plan for the document has the copies that it had,
in order, and others only in between: copies for the chain, and copies of an attribute
without identifier that the chain has added to an entity (`Resolver.Saves.padded_copies`).
-/

namespace ModelBinding

open Snapshot ModelBinding.Derivation

/-- A node without identifier stands in no table. -/
theorem Document.tableEntries_eq_nil_of_unnamed {d : Document} {n : NodeId}
    (h : d.ownId? n = none) (model : Option DataModelId) : d.tableEntries model n = [] := by
  have hlocal : d.localId? n = none := by rw [localId?, h, Option.map_none]
  unfold tableEntries
  rw [hlocal]
  split
  · rename_i hname
    cases hname
  · rfl

/-- A prepared document remembers the Global IDs of the nodes of identified kinds, and no others. -/
theorem Document.globalId_prepare_eq {d : Document} {r : Registry} (hd : d.asWritten.Plain)
    {n : NodeId} {node : Node} (hnode : (d.prepare r).node? n = some node) :
    node.globalId = if node.kind.isIdentified then r.globalId? (d.prepare r) n else none := by
  split
  · exact globalId_of_node?_prepare hnode ‹_›
  · refine Option.eq_none_iff_forall_ne_some.2 fun g hg => ?_
    exact absurd (isIdentified_of_remembered hd hnode hg) ‹_›

/-- The tables of a document that is all written are those of its nodes, in the order of the
walk. -/
theorem Derivation.Planned.entries_localTables {r : Resolver} {p : Document} {s : Derivation}
    (h : Planned r p s) : (p.localTables r.registry).entries =
      p.walk.flatMap (p.tableEntries (r.registry.modelOf? p)) := by
  have hwritten : p.walk.filter (fun n => !p.isDerived n) = p.walk := by
    refine List.filter_eq_self.2 fun n hn => ?_
    simpa [Document.isDerived, h.parsedLen_eq] using h.tree.mem_walk_iff.1 hn
  rw [Document.localTables, hwritten]

/-- The copies that show an entity that is there, one for each of its attributes. -/
theorem Resolver.map_derive_entityAttributes {r : Resolver} {x : NodePtr} {y : Document}
    (hy : r.document? x.document = some y) (hk : y.kind? x.node = some .logicalEntity)
    (derived : NodeKind) : (r.entityAttributes x).map (fun a => a.2.derive derived a.1) =
      (y.childrenOfKind x.node .logicalAttribute).flatMap fun c =>
        ((y.node? c).map fun m => m.derive derived (y.ptr c)).toList := by
  rw [entityAttributes, hy]
  simp only [if_pos hk]
  rw [List.map_filterMap, List.filterMap_eq_flatMap_toList]
  exact List.flatMap_congr fun c _ => congrArg Option.toList (Option.map_map _ _ _)

/-- What two resolvers see of a document before and after a chain of nodes was saved in it. The
document is what a build made of `d₀`, and then what a build made of `e₀`. -/
structure Resolver.Saves (a : NodeId) (nodes : List ImaginedNode) (r t : Resolver)
    (d d₀ e e₀ : Document) : Prop where
  /-- The document was settled. -/
  before : r.Settles d d₀
  /-- It is settled. -/
  after : t.Settles e e₀
  /-- The chain was added to what was written. -/
  written : e.asWritten = d.continued a nodes
  /-- The document has kept its address. -/
  uri_eq : e.uri = d.uri
  /-- The chain hangs in a node that was written. -/
  anchor_lt : a.index < d.asWritten.size
  /-- The nodes of the chain have no identifiers. -/
  unnamed : ∀ v ∈ nodes, (nodeOfImagined v).ownId? = none
  /-- None of them is a target. -/
  untargeted : ∀ v ∈ nodes, v.kind ≠ .targetObject
  /-- The data models are the same. -/
  registry : t.registry = r.registry
  /-- The same is exported, in the same order. -/
  globalScope : ∀ k, t.index.globalScope k = r.index.globalScope k
  /-- The document is seen as it is. -/
  document_eq : t.document? e.id = some e
  /-- The other documents differ in what references remember. -/
  others : ∀ id, id ≠ d.id → id ≠ e.id → (t.document? id).map (·.resetReferences) =
    (r.document? id).map (·.resetReferences)
  /-- The document was seen as it was and has kept its number, or it was not there: then nothing in
  it had an identifier or showed the attributes of an entity. -/
  known : (r.document? d.id = some d ∧ e.id = d.id) ∨
    (r.document? d.id = none ∧ r.document? e.id = none ∧
      (∀ n, d.asWritten.ownId? n = none) ∧
      ∀ n k, d.asWritten.kind? n = some k → k.derivedAttributeKind? = none)
  /-- What the tables of the document show is about nodes that are there. -/
  fits_table : ∀ n, ∀ x ∈ r.tableOf d n, r.document? x.node.document = some d ∧
    d.kind? x.node.node = some x.kind
  /-- What is shown of a kind may stand for it, and is about nodes that are there, and not
  derived. -/
  fits_global : ∀ k, ∀ x ∈ r.index.globalScope k, x.kind.isSubtypeOf k = true ∧
    ∃ y, r.document? x.node.document = some y ∧ y.id = x.node.document ∧
      y.kind? x.node.node = some x.kind ∧ y.isDerived x.node.node = false

namespace Resolver.Saves

variable {a : NodeId} {nodes : List ImaginedNode} {r t : Resolver} {d d₀ e e₀ : Document}
  (h : Saves a nodes r t d d₀ e e₀) {n : NodeId}
include h

/-- What is written now: the document with the chain in it. -/
theorem size_asWritten : e.asWritten.size = d.asWritten.size + nodes.length := by
  rw [h.written]
  exact size_hang d.asWritten a nodes

theorem walk_asWritten : e.asWritten.walk = (hang d.asWritten a nodes).1.walk := by
  rw [h.written]
  exact Document.descendants_congr (d := (hang d.asWritten a nodes).1)
    (e := d.continued a nodes) (fun _ => rfl) .root

/-- A document in which something has an identifier has kept its number. -/
theorem id_eq_of_ownId? {own : String} (hown : d.ownId? n = some own) : e.id = d.id := by
  rcases h.known with ⟨-, hid⟩ | ⟨-, -, hnames, hviews⟩
  · exact hid
  · exfalso
    rcases Nat.lt_or_ge n.index d.asWritten.size with hlt | hge
    · rw [Document.ownId?_of_detached? (h.before.detached?_of_lt hlt), hnames n] at hown
      cases hown
    · -- Behind what was written there are only copies, and they are for nodes that show an entity.
      have hlt := Document.index_lt_of_ownId? hown
      rw [h.before.size_eq] at hlt
      obtain ⟨c, hc⟩ : ∃ c, c ∈ d₀.copiesWith r :=
        List.exists_mem_of_length_pos (by omega)
      obtain ⟨k, hk, hderived⟩ := Resolver.of_mem_copies_plan hc
      rw [Document.kind?_of_detached? (d₀.detached?_prepare r.registry c.1),
        ← h.before.asWritten_eq] at hk
      rw [hviews c.1 k hk] at hderived
      cases hderived

section Old

variable (hn : n.index < d.asWritten.size)
include hn

theorem lt_asWritten : n.index < e.asWritten.size := by
  rw [h.size_asWritten]
  omega

/-- What was written before stands where it stood. -/
theorem detached?_old : e.detached? n = d.detached? n := by
  rw [h.after.detached?_of_lt (h.lt_asWritten hn), h.before.detached?_of_lt hn, h.written]
  exact detached?_hang_of_lt h.anchor_lt hn nodes

theorem parent?_old : e.parent? n = d.parent? n := by
  rw [h.after.parent?_of_lt (h.lt_asWritten hn), h.before.parent?_of_lt hn, h.written]
  exact parent?_hang_of_lt h.anchor_lt hn nodes

theorem kind?_old : e.kind? n = d.kind? n := Document.kind?_of_detached? (h.detached?_old hn)

theorem ownId?_old : e.ownId? n = d.ownId? n := Document.ownId?_of_detached? (h.detached?_old hn)

theorem ancestors_old : e.ancestors n = d.ancestors n :=
  Document.ancestors_congr_below (fun _ => h.parent?_old) hn

/-- What was written before contains what it contained; the node that the chain hangs in contains
its first node too, if there is one. -/
theorem children_asWritten_old : e.asWritten.children n =
    d.asWritten.children n ++ if n = a ∧ nodes ≠ [] then [⟨d.asWritten.size⟩] else [] := by
  rw [h.written]
  exact children_hang_of_lt h.anchor_lt hn nodes

end Old

/-- At the places of the chain stand its nodes. -/
theorem detached?_chain {k : Nat} {v : ImaginedNode} (hv : nodes[k]? = some v) :
    e.detached? ⟨d.asWritten.size + k⟩ = some (nodeOfImagined v).detached := by
  have hk := (List.getElem?_eq_some_iff.1 hv).1
  have hlt : (⟨d.asWritten.size + k⟩ : NodeId).index < e.asWritten.size := by
    rw [h.size_asWritten]
    exact Nat.add_lt_add_left hk _
  rw [h.after.detached?_of_lt hlt, h.written]
  exact detached?_hang_add h.anchor_lt hv

/-- Each is in the one before it. -/
theorem parent?_chain {k : Nat} (hk : k < nodes.length) :
    e.parent? ⟨d.asWritten.size + k⟩ = some (chainParent a d.asWritten.size k) := by
  have hlt : (⟨d.asWritten.size + k⟩ : NodeId).index < e.asWritten.size := by
    rw [h.size_asWritten]
    exact Nat.add_lt_add_left hk _
  rw [h.after.parent?_of_lt hlt, h.written]
  exact parent?_hang_add h.anchor_lt hk

/-- Behind what was written before nothing that is written has an identifier. -/
theorem ownId?_asWritten_of_le (hn : d.asWritten.size ≤ n.index) :
    e.asWritten.ownId? n = none := by
  rw [h.written]
  exact ownId?_hang_of_le h.anchor_lt h.unnamed hn

/-- Behind what was written before no target is written. -/
theorem kind?_asWritten_of_le (hn : d.asWritten.size ≤ n.index) :
    e.asWritten.kind? n ≠ some .targetObject := by
  rw [h.written]
  obtain ⟨k, hk⟩ := Nat.exists_eq_add_of_le hn
  obtain rfl : n = ⟨d.asWritten.size + k⟩ := congrArg NodeId.mk hk
  show (hang d.asWritten a nodes).1.kind? _ ≠ _
  cases hv : nodes[k]? with
  | none =>
    have hlen := List.getElem?_eq_none_iff.1 hv
    rw [Document.kind?, node?_hang_eq_none (Nat.add_le_add_left hlen _)]
    simp
  | some v =>
    rw [Document.kind?, node?_hang_add h.anchor_lt hv]
    simpa [nodeOfImagined] using h.untargeted v (List.mem_of_getElem? hv)

/-- Of a kind that no derived attribute has a node contains what it contained; the node that the
chain hangs in may contain its first node too. -/
theorem childrenOfKind_old {k : NodeKind} (hk : k.isDerivedAttribute = false)
    (hn : n.index < d.asWritten.size) :
    e.childrenOfKind n k = d.childrenOfKind n k ++
      (if n = a ∧ nodes ≠ [] then [⟨d.asWritten.size⟩] else []).filter
        (e.asWritten.kind? · = some k) := by
  rw [h.after.childrenOfKind_of_lt (h.lt_asWritten hn) hk, h.before.childrenOfKind_of_lt hn hk,
    Document.childrenOfKind, h.children_asWritten_old hn, List.filter_append]
  refine congrArg (· ++ _) (List.filter_congr fun c hc => ?_)
  have hc' := h.before.isTree_asWritten.lt_of_mem_children hc
  have hkind : e.asWritten.kind? c = d.asWritten.kind? c := by
    rw [h.written]
    exact Document.kind?_of_detached? (detached?_hang_of_lt h.anchor_lt hc' nodes)
  rw [hkind]

/-- A node that showed or had a kind which no derived attribute has was written. -/
theorem lt_of_kind? {k : NodeKind} (hk : d.kind? n = some k) (hderived : k.isDerivedAttribute = false) :
    n.index < d.asWritten.size := by
  have halike := Document.alike_of_resetReferences_eq h.before.document_eq
  have hgrown := d₀.grownTo_builtWith r
  rw [halike.kind?] at hk
  rw [← h.before.size_prepare]
  exact Document.index_lt_of_kind? ((hgrown.kind?_eq_some_iff hderived n).1 hk)

/-- The document belongs to the same data model. -/
theorem modelOf?_eq : r.registry.modelOf? e = r.registry.modelOf? d := by
  rw [Registry.modelOf?, Registry.modelOf?, h.uri_eq]

theorem modelOf?_prepare : t.registry.modelOf? (e₀.prepare t.registry) =
    r.registry.modelOf? (d₀.prepare r.registry) := by
  rw [h.registry, Registry.modelOf?, Registry.modelOf?]
  exact congrArg _ ((h.after.uri_eq.symm.trans h.uri_eq).trans h.before.uri_eq)

/-- A node of a document in which something has an identifier is described as it was. -/
theorem describe_prepare {own : String} (hown : d.ownId? n = some own)
    (model : Option DataModelId) (m : NodeId) (k : NodeKind) (name : String) (form : NameForm) :
    (e₀.prepare t.registry).describe model m k name form =
      (d₀.prepare r.registry).describe model m k name form := by
  have hid : (e₀.prepare t.registry).id = (d₀.prepare r.registry).id :=
    (h.after.id_eq.trans (h.id_eq_of_ownId? hown)).trans h.before.id_eq.symm
  have huri : (e₀.prepare t.registry).uri = (d₀.prepare r.registry).uri :=
    (h.after.uri_eq.symm.trans h.uri_eq).trans h.before.uri_eq
  simp only [Document.describe, Document.ptr, hid, huri]

section Prepared

variable (hn : n.index < d.asWritten.size)
include hn

theorem detached?_prepare :
    (e₀.prepare t.registry).detached? n = (d₀.prepare r.registry).detached? n := by
  rw [Document.detached?_prepare, Document.detached?_prepare, ← h.after.asWritten_eq,
    ← h.before.asWritten_eq, h.written]
  exact detached?_hang_of_lt h.anchor_lt hn nodes

theorem parent?_prepare :
    (e₀.prepare t.registry).parent? n = (d₀.prepare r.registry).parent? n := by
  rw [Document.parent?_prepare, Document.parent?_prepare, ← h.after.asWritten_eq,
    ← h.before.asWritten_eq, h.written]
  exact parent?_hang_of_lt h.anchor_lt hn nodes

theorem localId?_prepare :
    (e₀.prepare t.registry).localId? n = (d₀.prepare r.registry).localId? n :=
  Document.localId?_congr_below (fun _ => h.parent?_prepare)
    (fun _ hm => Document.ownId?_of_detached? (h.detached?_prepare hm)) hn

theorem globalId?_prepare : t.registry.globalId? (e₀.prepare t.registry) n =
    r.registry.globalId? (d₀.prepare r.registry) n := by
  have hqualified : (e₀.prepare t.registry).qualifiedId? n =
      (d₀.prepare r.registry).qualifiedId? n := by
    refine funext fun name => ?_
    simp only [Document.qualifiedId?, h.localId?_prepare hn,
      Document.kind?_of_detached? (h.detached?_prepare hn)]
  rw [Registry.globalId?, Registry.globalId?, h.modelOf?_prepare, hqualified, h.registry]

/-- What was written before stands in the same tables. -/
theorem tableEntries_prepare :
    (e₀.prepare t.registry).tableEntries (t.registry.modelOf? (e₀.prepare t.registry)) n =
      (d₀.prepare r.registry).tableEntries (r.registry.modelOf? (d₀.prepare r.registry)) n := by
  have hdetached := h.detached?_prepare hn
  have hd := h.before.asWritten_eq ▸ h.before.plain
  have he := h.after.asWritten_eq ▸ h.after.plain
  unfold Document.tableEntries
  rw [h.parent?_prepare hn, h.localId?_prepare hn, h.modelOf?_prepare]
  cases hnode : (d₀.prepare r.registry).node? n with
  | none =>
    rw [Document.detached?, Document.detached?, hnode, Option.map_none, Option.map_eq_none_iff]
      at hdetached
    rw [hdetached]
  | some node =>
    rw [Document.detached?, Document.detached?, hnode, Option.map_some] at hdetached
    obtain ⟨node', hnode', heq⟩ := Option.map_eq_some_iff.1 hdetached
    have hkind : node'.kind = node.kind := (congrArg Node.kind heq :)
    have hglobal : node'.globalId = node.globalId := by
      rw [Document.globalId_prepare_eq he hnode', Document.globalId_prepare_eq hd hnode, hkind,
        h.globalId?_prepare hn]
    cases hparent : (d₀.prepare r.registry).parent? n with
    | none => rw [hnode']
    | some container =>
      cases hlocal : (d₀.prepare r.registry).localId? n with
      | none => rw [hnode']
      | some name =>
        obtain ⟨own, hown, -⟩ := Option.map_eq_some_iff.1 hlocal
        have hown' : d.ownId? n = some own := by
          rw [← hown]
          refine Document.ownId?_of_detached? ?_
          rw [h.before.detached?_of_lt hn, Document.detached?_prepare, h.before.asWritten_eq]
        simp only [hnode', hkind, hglobal, h.describe_prepare hown']

end Prepared

/-- The tables of what was written are the same, as the chain stands in none. -/
theorem localTables_prepare :
    ((e₀.prepare t.registry).localTables t.registry).entries =
      ((d₀.prepare r.registry).localTables r.registry).entries := by
  have hchain : ∀ n, d.asWritten.size ≤ n.index → (e₀.prepare t.registry).tableEntries
      (t.registry.modelOf? (e₀.prepare t.registry)) n = [] := by
    intro n hn
    have hown : (e₀.prepare t.registry).ownId? n = none := by
      rw [Document.ownId?_of_detached? (e₀.detached?_prepare t.registry n), ← h.after.asWritten_eq]
      exact h.ownId?_asWritten_of_le hn
    exact Document.tableEntries_eq_nil_of_unnamed hown _
  rw [h.after.planned.entries_localTables, h.before.planned.entries_localTables,
    Document.walk_prepare, Document.walk_prepare, ← h.after.asWritten_eq, ← h.before.asWritten_eq,
    h.walk_asWritten, flatMap_walk_hang h.before.plain a nodes hchain]
  exact List.flatMap_congr fun n hn =>
    h.tableEntries_prepare (h.before.isTree_asWritten.mem_walk_iff.1 hn)

/-- Around what was written before, the same is shown of kinds that no derived attribute has. -/
theorem matches_old : Resolver.Matches (fun p => p) (fun n => n)
    (fun n => n.index < d.asWritten.size) (fun k => k.isSubtypeOf .logicalAttribute = false)
    r t d e where
  injective _ _ hpq := hpq
  registry := h.registry
  modelOf? := h.modelOf?_eq
  above n hn a ha := Nat.lt_trans (Document.index_lt_of_mem_ancestors ha) hn
  ancestors n hn := by rw [h.ancestors_old hn, List.map_id']
  kind? _ hn := h.kind?_old hn
  text? _ hn := Document.text?_of_detached? (h.detached?_old hn)
  below n hn c hc := h.lt_of_kind? (by simpa using (List.mem_filter.1 hc).2) rfl
  targets n hn := by
    rw [h.childrenOfKind_old rfl hn, List.map_id']
    refine (congrArg (_ ++ ·) (List.filter_eq_nil_iff.2 fun c hc => ?_)).trans
      (List.append_nil _)
    split at hc
    · obtain rfl : c = ⟨d.asWritten.size⟩ := List.mem_singleton.1 hc
      exact mt of_decide_eq_true (h.kind?_asWritten_of_le (Nat.le_refl _))
    · cases hc
  table n hn k hk := by
    rw [h.after.ofKind_tableOf hk, h.before.ofKind_tableOf hk]
    simp only [LocalTables.table, h.localTables_prepare]
    exact (List.map_id' _).symm
  packageScope k _ :=
    (packageScope_congr h.registry h.modelOf?_eq h.globalScope k).trans (List.map_id' _).symm
  dependencyScope k _ :=
    (dependencyScope_congr h.registry h.modelOf?_eq h.globalScope k).trans (List.map_id' _).symm

/-- What is written of the chain has no identifier. -/
theorem ownId?_chain (hn : d.asWritten.size ≤ n.index) (hlt : n.index < e.asWritten.size) :
    e.ownId? n = none := by
  rw [Document.ownId?_of_detached? (h.after.detached?_of_lt hlt)]
  exact h.ownId?_asWritten_of_le hn

/-- A written node has the written children of a kind that it had, and maybe the first node of the
chain. -/
theorem padded_childrenOfKind {k : NodeKind} (hk : k.isDerivedAttribute = false) {n : NodeId}
    (hn : n.index < d.asWritten.size) :
    Padded (fun c => e.ownId? c = none) (d.childrenOfKind n k) (e.childrenOfKind n k) := by
  have hnew : Padded (fun c => e.ownId? c = none) []
      ((if n = a ∧ nodes ≠ [] then [⟨d.asWritten.size⟩] else []).filter
        (e.asWritten.kind? · = some k)) := by
    refine .of_forall fun c hc => ?_
    replace hc := (List.mem_filter.1 hc).1
    split at hc
    · obtain rfl : c = ⟨d.asWritten.size⟩ := List.mem_singleton.1 hc
      have hlen := List.length_pos_iff.2 ‹n = a ∧ nodes ≠ []›.2
      refine h.ownId?_chain (Nat.le_refl _) ?_
      rw [h.size_asWritten]
      exact Nat.lt_add_of_pos_right hlen
    · cases hc
  rw [h.childrenOfKind_old hk hn]
  simpa using (Padded.refl _ (d.childrenOfKind n k)).append hnew

/-- An entity shows the attributes that it showed, and maybe the first node of the chain. -/
theorem padded_entityAttributes (hid : e.id = d.id) {x : NodePtr} {y : Document}
    (hy : r.document? x.document = some y) (hd : x.document = d.id → y = d)
    (hk : y.kind? x.node = some .logicalEntity) (derived : NodeKind) :
    Padded (fun copy => copy.ownId? = none)
      ((r.entityAttributes x).map fun a => a.2.derive derived a.1)
      ((t.entityAttributes x).map fun a => a.2.derive derived a.1) := by
  by_cases hx : x.document = d.id
  · obtain rfl := hd hx
    have hn := h.lt_of_kind? hk rfl
    have hz : t.document? x.document = some e := by rw [hx, ← hid, h.document_eq]
    rw [Resolver.map_derive_entityAttributes hy hk,
      Resolver.map_derive_entityAttributes hz ((h.kind?_old hn).trans hk)]
    refine (h.padded_childrenOfKind rfl hn).flatMap (fun c hc => ?_) fun c hc copy hcopy => ?_
    · have hc' : c.index < y.asWritten.size :=
        h.lt_of_kind? (by simpa using (List.mem_filter.1 hc).2) rfl
      have hnode := Document.map_node?_of_detached? (h.detached?_old hc')
        (g := fun m : Node => m.derive derived (e.ptr c)) fun _ => rfl
      have hptr : e.ptr c = y.ptr c := congrArg (fun id => (⟨id, c⟩ : NodePtr)) hid
      rw [hnode, hptr]
      exact Padded.refl _ _
    · obtain ⟨m, hm, rfl⟩ := Option.map_eq_some_iff.1 (Option.mem_toList.1 hcopy)
      rw [Document.ownId?, hm, Option.bind_some] at hc
      exact hc
  · have hreset := h.others x.document hx (hid ▸ hx)
    rw [hy, Option.map_some] at hreset
    obtain ⟨z, hz, heq⟩ := Option.map_eq_some_iff.1 hreset
    have halike := Document.alike_of_resetReferences_eq heq
    have hnode : ∀ c, (z.node? c).map (fun m => m.derive derived (z.ptr c)) =
        (y.node? c).map fun m => m.derive derived (y.ptr c) := by
      intro c
      rw [halike.ptr]
      exact halike.map_node? (fun m : Node => m.derive derived (y.ptr c)) (fun _ => rfl)
        (fun _ => rfl) c
    rw [Resolver.map_derive_entityAttributes hy hk,
      Resolver.map_derive_entityAttributes hz ((halike.kind? _).trans hk), halike.childrenOfKind]
    simp only [hnode]
    exact Padded.refl _ _

/-- What is exported is about nodes that are there, and were written. -/
theorem exists_of_mem_globalScope {k : NodeKind} {x : Description}
    (hx : x ∈ r.index.globalScope k) : ∃ y, r.document? x.node.document = some y ∧
      (x.node.document = d.id → y = d ∧ x.node.node.index < d.asWritten.size) ∧
        y.kind? x.node.node = some x.kind := by
  obtain ⟨-, y, hy, -, hnode, hwritten⟩ := h.fits_global k x hx
  refine ⟨y, hy, fun hid => ?_, hnode⟩
  have hyd : y = d := by
    rcases h.known with ⟨hd, -⟩ | ⟨hd, -⟩
    · exact Option.some.inj ((hid ▸ hy).symm.trans hd)
    · rw [hid, hd] at hy
      cases hy
  subst hyd
  refine ⟨rfl, ?_⟩
  simpa [Document.isDerived, h.before.parsedLen_eq] using hwritten

/-- What is shown of a kind is about nodes that are there. The scope may be that of a place
elsewhere in the document. -/
theorem exists_of_mem_generalScope {d' : Document} (hid : d'.id = d.id) {k : NodeKind}
    {x : Description} (hx : x ∈ (r.generalScope d' n k).elements) : x.kind.isSubtypeOf k = true ∧
      ∃ y, r.document? x.node.document = some y ∧ (x.node.document = d.id → y = d) ∧
        y.kind? x.node.node = some x.kind := by
  have hglobal : x ∈ r.index.globalScope k → x.kind.isSubtypeOf k = true ∧
      ∃ y, r.document? x.node.document = some y ∧ (x.node.document = d.id → y = d) ∧
        y.kind? x.node.node = some x.kind := by
    intro hx
    obtain ⟨y, hy, hyd, hnode⟩ := h.exists_of_mem_globalScope hx
    exact ⟨(h.fits_global k x hx).1, y, hy, fun hid => (hyd hid).1, hnode⟩
  rcases Resolver.mem_generalScope.1 hx with ⟨layer, hlayer, hx⟩ | hx | hx
  · rw [containerLayers_eq] at hlayer
    obtain ⟨c, -, rfl⟩ := List.mem_map.1 (List.mem_filter.1 hlayer).1
    obtain ⟨hx, hkind⟩ := Description.mem_ofKind.1 hx
    rw [tableOf, hid] at hx
    obtain ⟨hd, hnode⟩ := h.fits_table c x hx
    exact ⟨hkind, d, hd, fun _ => rfl, hnode⟩
  · exact hglobal (Resolver.mem_packageScope.1 hx).1
  · exact hglobal (Resolver.mem_dependencyScope.1 hx).1

/-- A viewing node that was written before shows what it showed, and maybe an attribute without
identifier. -/
theorem padded_viewAttributes (hd : r.document? d.id = some d) (hid : e.id = d.id)
    {k derived : NodeKind} (hk : d.kind? n = some k) (hview : k.derivedAttributeKind? = some derived) :
    Padded (fun copy => copy.ownId? = none) (r.viewAttributes (d.ptr n) derived)
      (t.viewAttributes (e.ptr n) derived) := by
  have hlt := h.lt_of_kind? hk (NodeKind.isDerivedAttribute_of_derivedAttributeKind? hview)
  have hentity : k.isEntityView = true := by
    rw [NodeKind.isEntityView, hview]
    rfl
  have hresolve : t.resolve (e.ptr n) .entity 0 = r.resolve (d.ptr n) .entity 0 :=
    (h.matches_old.resolve_entity rfl hd h.document_eq hlt hk hentity 0).trans Option.map_id'
  rw [Resolver.viewAttributes, Resolver.viewAttributes, hresolve]
  cases hx : r.resolve (d.ptr n) .entity 0 with
  | none => exact Padded.nil
  | some x =>
    obtain ⟨hsub, y, hy, hyd, hkind⟩ := h.exists_of_mem_generalScope rfl
      (Resolver.mem_generalScope_of_resolve_entity hd hk hentity hx)
    rw [(NodeKind.isSubtypeOf_iff_eq (by decide)).1 hsub] at hkind
    exact h.padded_entityAttributes hid hy hyd hkind derived

/-- What was written before is walked through in the same order. -/
theorem padded_walk : Padded (fun n => d.asWritten.size ≤ n.index) (d₀.prepare r.registry).walk
    (e₀.prepare t.registry).walk := by
  have hextra : (fun n => d.asWritten.size ≤ n.index) =
      fun n => (!d.asWritten.isDerived n) = false := by
    funext n
    simp [Document.isDerived, h.before.plain.parsedLen_eq]
  rw [Document.walk_prepare, Document.walk_prepare, ← h.before.asWritten_eq,
    ← h.after.asWritten_eq, h.walk_asWritten, ← walk_hang h.before.plain a nodes, hextra]
  exact .filter _ _

/-- The plan for the document has the copies that it had, in order. The others are copies of
attributes without identifier, or for the chain. -/
theorem padded_copies :
    Padded (fun c => c.2.ownId? = none ∨ d.asWritten.size ≤ c.1.index) (d₀.copiesWith r)
      (e₀.copiesWith t) := by
  rw [Document.copiesWith, Document.copiesWith, Resolver.copies_plan_eq, Resolver.copies_plan_eq]
  refine h.padded_walk.flatMap (fun n hn => ?_) fun n hn c hc => ?_
  · have hlt : n.index < d.asWritten.size := by
      rw [Document.walk_prepare, ← h.before.asWritten_eq] at hn
      exact h.before.isTree_asWritten.mem_walk_iff.1 hn
    have hold : (d₀.prepare r.registry).detached? n = d.detached? n := by
      rw [Document.detached?_prepare, ← h.before.asWritten_eq, h.before.detached?_of_lt hlt]
    rw [Document.kind?_of_detached? (h.detached?_prepare hlt), Document.kind?_of_detached? hold]
    cases hderived : (d.kind? n).bind (·.derivedAttributeKind?) with
    | none => exact .nil
    | some derived =>
      obtain ⟨k, hk, hview⟩ := Option.bind_eq_some_iff.1 hderived
      rw [Option.toList_some, List.flatMap_singleton, List.flatMap_singleton]
      rcases h.known with ⟨hd, hid⟩ | ⟨-, -, -, hviews⟩
      · have hptr : (d₀.prepare r.registry).ptr n = d.ptr n :=
          congrArg (fun id => (⟨id, n⟩ : NodePtr)) h.before.id_eq
        have hptr' : (e₀.prepare t.registry).ptr n = e.ptr n :=
          congrArg (fun id => (⟨id, n⟩ : NodePtr)) h.after.id_eq
        rw [hptr, hptr']
        exact (h.padded_viewAttributes hd hid hk hview).map _ fun _ => Or.inl
      · rw [Document.kind?_of_detached? (h.before.detached?_of_lt hlt)] at hk
        exact absurd hview (by rw [hviews n k hk]; simp)
  · obtain ⟨derived, -, hc⟩ := List.mem_flatMap.1 hc
    obtain ⟨copy, -, rfl⟩ := List.mem_map.1 hc
    exact Or.inr hn

end Resolver.Saves

end ModelBinding
