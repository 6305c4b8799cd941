import ModelBinding.Build
import ModelBinding.Proofs.Growth
import ModelBinding.Proofs.Renumber.Derivation
import ModelBinding.Session

/-!
# What the author wrote

A build adds to a document and never changes what the author wrote: taking away its
number, the derived nodes, the remembered Global IDs and what references remember gives
back the document as it was set (`asWritten`). Dropping the derived nodes alone changes
nothing just where there are none (`dropDerived_eq_iff`). Conversely a prepared document follows
from what was written and from the registry (`outline_prepare`), so nothing that earlier
builds left in it can show in a later one.
-/

namespace ModelBinding

variable {f : DocumentId → DocumentId}

/-- The node without what a build remembers in it. -/
def Node.bare (n : Node) : Node :=
  if n.kind.isIdentified then { n.resetReferences with globalId := none } else n.resetReferences

/-- The document without its number and without what a build remembers in its nodes. -/
def Document.bare (d : Document) : Document :=
  { d with id := .unassigned, nodes := d.nodes.map (·.bare) }

/-- The document as its author wrote it. -/
def Document.asWritten (d : Document) : Document := d.dropDerived.bare

/-- A node that no build has touched, in an arena of `size` nodes. -/
structure Node.Plain (size : Nat) (n : Node) : Prop where
  /-- It remembers no Global ID. -/
  globalId_eq : n.globalId = none
  /-- It is not derived. -/
  derivedFrom_eq : n.derivedFrom = none
  /-- Its references were never looked up. -/
  resetReferences_eq : n.resetReferences = n
  /-- Its children are in the arena. -/
  children_lt : ∀ c ∈ n.children, c.index < size

/-- A document without derived nodes: there are none in the arena and none in lists of children. -/
structure Document.Underived (d : Document) : Prop where
  /-- All of it is written. -/
  parsedLen_eq : d.parsedLen = d.size
  /-- Children are in the arena. -/
  index_lt_of_mem_children : ∀ n c, c ∈ d.children n → c.index < d.size

/-- A document that no build has touched. -/
structure Document.Plain (d : Document) : Prop where
  /-- It has no number. -/
  id_eq : d.id = .unassigned
  /-- All of it is written. -/
  parsedLen_eq : d.parsedLen = d.size
  /-- No build has touched a node. -/
  nodes : ∀ n node, d.node? n = some node → node.Plain d.size

namespace Node

@[simp] theorem kind_bare (n : Node) : n.bare.kind = n.kind := by
  unfold bare
  split <;> rfl

@[simp] theorem parent_bare (n : Node) : n.bare.parent = n.parent := by
  unfold bare
  split <;> rfl

@[simp] theorem children_bare (n : Node) : n.bare.children = n.children := by
  unfold bare
  split <;> rfl

@[simp] theorem ownId?_bare (n : Node) : n.bare.ownId? = n.ownId? := by
  unfold bare
  split <;> rfl

@[simp] theorem resetReferences_resetReferences (n : Node) :
    n.resetReferences.resetReferences = n.resetReferences := by
  simp [resetReferences, Reference.reset, Function.comp_def]

@[simp] theorem bare_resetReferences (n : Node) : n.resetReferences.bare = n.bare := by
  have hkind : n.resetReferences.kind = n.kind := rfl
  simp only [bare, hkind, resetReferences_resetReferences]

/-- Nothing is taken away from a node that no build has touched. -/
theorem Plain.bare_eq {n : Node} {size : Nat} (h : n.Plain size) : n.bare = n := by
  have hglobal : { n with globalId := none } = n := by
    rw [← h.globalId_eq]
  unfold bare
  rw [h.resetReferences_eq, hglobal]
  exact ite_self n

/-- Under other numbers a node differs in what its references remember and in what it is derived
from. -/
theorem resetReferences_renumber {n : Node} (h : n.derivedFrom = none) :
    (n.renumber f).resetReferences = n.resetReferences := by
  simp [renumber, resetReferences, Reference.renumber, Reference.reset, h]

end Node

namespace Document

variable {d e : Document}

/-- What stands at a place of the bare document. -/
@[simp] theorem node?_bare (d : Document) (n : NodeId) :
    d.bare.node? n = (d.node? n).map (·.bare) := by
  simp [node?, bare]

/-- What stands at a place when references are forgotten. -/
@[simp] theorem node?_resetReferences (d : Document) (n : NodeId) :
    d.resetReferences.node? n = (d.node? n).map (·.resetReferences) := by
  simp [node?, resetReferences]

/-- References that were forgotten stay so. -/
@[simp] theorem resetReferences_resetReferences (d : Document) :
    d.resetReferences.resetReferences = d.resetReferences := by
  simp [resetReferences, Function.comp_def]

/-- What stands at a place of the outline. -/
theorem node?_outline (d : Document) (n : NodeId) :
    (d.outline f).node? n = (d.node? n).map (·.renumber f |>.resetReferences) := by
  simp [node?, outline, renumber, resetReferences, Function.comp_def]

/-- What stands at a place when the Global IDs are computed. -/
theorem node?_rememberGlobalIds (d : Document) (r : Registry) (n : NodeId) :
    (d.rememberGlobalIds r).node? n = (d.node? n).map fun node =>
      if node.kind.isIdentified then { node with globalId := r.globalId? d n } else node := by
  simp [node?, rememberGlobalIds, List.getElem?_mapIdx]

@[simp] theorem size_bare (d : Document) : d.bare.size = d.size := by
  simp [bare, size]

/-- As many nodes are left as are written. -/
theorem size_dropDerived (d : Document) : d.dropDerived.size = min d.parsedLen d.size := by
  simp [dropDerived, size]

theorem kind?_asWritten (d : Document) (n : NodeId) :
    d.asWritten.kind? n = d.dropDerived.kind? n := by
  simp [asWritten, kind?, Function.comp_def]

theorem parent?_asWritten (d : Document) (n : NodeId) :
    d.asWritten.parent? n = d.dropDerived.parent? n := by
  rw [parent?, asWritten, node?_bare, Option.bind_map, parent?]
  exact congrArg (Option.bind _) (funext Node.parent_bare)

theorem children_asWritten (d : Document) (n : NodeId) :
    d.asWritten.children n = d.dropDerived.children n := by
  simp [asWritten, children, Function.comp_def]

theorem ownId?_asWritten (d : Document) (n : NodeId) :
    d.asWritten.ownId? n = d.dropDerived.ownId? n := by
  rw [ownId?, asWritten, node?_bare, Option.bind_map, ownId?]
  exact congrArg (Option.bind _) (funext Node.ownId?_bare)

/-- The number does not count. -/
@[simp] theorem asWritten_withId (d : Document) (id : DocumentId) :
    ({ d with id } : Document).asWritten = d.asWritten := rfl

/-- What references remember does not count. -/
@[simp] theorem asWritten_resetReferences (d : Document) :
    d.resetReferences.asWritten = d.asWritten := by
  refine ext_node? rfl rfl rfl fun n => ?_
  simp only [asWritten, node?_bare, node?_dropDerived, node?_resetReferences]
  have hlen : d.resetReferences.parsedLen = d.parsedLen := rfl
  rw [hlen]
  split
  · rw [Option.map_map, Option.map_map, Option.map_map]
    congr 1
    funext node
    exact Node.bare_resetReferences
      { node with children := node.children.filter (·.index < d.parsedLen) }
  · rfl

/-- Documents that differ only in what references remember were written alike. -/
theorem asWritten_congr (h : e.resetReferences = d.resetReferences) :
    e.asWritten = d.asWritten := by
  rw [← asWritten_resetReferences e, h, asWritten_resetReferences]

/-- At most what is there is written. -/
theorem Plain.parsedLen_le_size (h : d.asWritten.Plain) : d.parsedLen ≤ d.size := by
  have hlen : d.parsedLen = d.asWritten.size := h.parsedLen_eq
  rw [asWritten, size_bare, size_dropDerived] at hlen
  omega

/-- The documents without derived nodes are those that have nothing to be dropped. -/
theorem dropDerived_eq_iff (hlen : d.parsedLen ≤ d.size) : d.dropDerived = d ↔ d.Underived := by
  constructor
  · intro h
    have hsize := d.size_dropDerived
    rw [h] at hsize
    have hwritten : d.parsedLen = d.size := by omega
    refine ⟨hwritten, fun n c hc => ?_⟩
    have hnode := d.node?_dropDerived n
    rw [h] at hnode
    rw [children, hnode] at hc
    split at hc
    · cases hn : d.node? n with
      | none => simp [hn] at hc
      | some node =>
        have hlt : c ∈ node.children ∧ c.index < d.parsedLen := by simpa [hn] using hc
        omega
    · simp at hc
  · intro h
    refine ext_node? rfl rfl rfl fun n => ?_
    rw [node?_dropDerived]
    cases hn : d.node? n with
    | none => simp
    | some node =>
      have hlt : n.index < d.parsedLen := by
        rw [h.parsedLen_eq]
        exact (node?_isSome_iff d n).1 (by simp [hn])
      have hchildren : node.children.filter (·.index < d.parsedLen) = node.children := by
        apply List.filter_eq_self.2
        intro c hc
        have hlt' := h.index_lt_of_mem_children n c (by simpa [children, hn] using hc)
        rw [h.parsedLen_eq]
        exact decide_eq_true hlt'
      rw [if_pos hlt, Option.map_some, hchildren]

/-- A document that no build has touched has no derived nodes. -/
theorem Plain.underived (h : d.Plain) : d.Underived where
  parsedLen_eq := h.parsedLen_eq
  index_lt_of_mem_children := by
    intro n c hc
    cases hn : d.node? n with
    | none => simp [children, hn] at hc
    | some node => exact (h.nodes n node hn).children_lt c (by simpa [children, hn] using hc)

/-- So it has nothing to be dropped. -/
theorem Plain.dropDerived_eq (h : d.Plain) : d.dropDerived = d :=
  (dropDerived_eq_iff (Nat.le_of_eq h.parsedLen_eq)).2 h.underived

/-- A document that no build has touched is as it was written. -/
theorem Plain.asWritten_eq (h : d.Plain) : d.asWritten = d := by
  rw [asWritten, h.dropDerived_eq]
  refine ext_node? h.id_eq.symm rfl rfl fun n => ?_
  rw [node?_bare]
  cases hn : d.node? n with
  | none => rfl
  | some node => rw [Option.map_some, (h.nodes n node hn).bare_eq]

section Prepare

variable (d : Document) (r : Registry)

theorem kind?_rememberGlobalIds (n : NodeId) : (d.rememberGlobalIds r).kind? n = d.kind? n := by
  rw [kind?, node?_rememberGlobalIds, Option.map_map]
  refine congrArg (Option.map · _) (funext fun node => ?_)
  simp only [Function.comp_apply]
  split <;> rfl

theorem parent?_rememberGlobalIds (n : NodeId) :
    (d.rememberGlobalIds r).parent? n = d.parent? n := by
  rw [parent?, node?_rememberGlobalIds, Option.bind_map]
  refine congrArg (Option.bind _) (funext fun node => ?_)
  simp only [Function.comp_apply]
  split <;> rfl

theorem ownId?_rememberGlobalIds (n : NodeId) :
    (d.rememberGlobalIds r).ownId? n = d.ownId? n := by
  rw [ownId?, node?_rememberGlobalIds, Option.bind_map]
  refine congrArg (Option.bind _) (funext fun node => ?_)
  simp only [Function.comp_apply]
  split <;> rfl

/-- Remembered Global IDs have no part in Global IDs. -/
theorem globalId?_rememberGlobalIds (n : NodeId) :
    r.globalId? (d.rememberGlobalIds r) n = r.globalId? d n :=
  globalId?_congr (e := d.rememberGlobalIds r) (d := d) rfl (kind?_rememberGlobalIds d r)
    (parent?_rememberGlobalIds d r) (ownId?_rememberGlobalIds d r) r n

/-- Remembered Global IDs are taken away with the rest. -/
@[simp] theorem bare_rememberGlobalIds : (d.rememberGlobalIds r).bare = d.bare := by
  refine ext_node? rfl rfl rfl fun n => ?_
  rw [node?_bare, node?_bare, node?_rememberGlobalIds, Option.map_map]
  refine congrArg (Option.map · _) (funext fun node => ?_)
  by_cases hkind : node.kind.isIdentified
  · simp [Node.bare, hkind, Node.resetReferences]
  · simp [hkind]

/-- A prepared document has nothing to be dropped. -/
@[simp] theorem dropDerived_prepare : (d.prepare r).dropDerived = d.prepare r := by
  refine ext_node? rfl rfl rfl fun n => ?_
  have hlen : (d.prepare r).parsedLen = d.parsedLen := rfl
  rw [node?_dropDerived, hlen, prepare, node?_rememberGlobalIds, node?_dropDerived]
  split
  · cases d.node? n with
    | none => rfl
    | some node =>
      simp only [Option.map_some]
      split <;> simp
  · rfl

/-- All of a prepared document is written. -/
theorem parsedLen_prepare (h : d.parsedLen ≤ d.size) :
    (d.prepare r).parsedLen = (d.prepare r).size := by
  show d.parsedLen = _
  rw [prepare, size_rememberGlobalIds, size_dropDerived, Nat.min_eq_left h]

/-- A prepared document has no derived nodes. -/
theorem underived_prepare (h : d.parsedLen ≤ d.size) : (d.prepare r).Underived := by
  have hlen := Nat.le_of_eq (d.parsedLen_prepare r h)
  exact (dropDerived_eq_iff hlen).1 (d.dropDerived_prepare r)

/-- Preparing a document does not change what was written. -/
@[simp] theorem asWritten_prepare : (d.prepare r).asWritten = d.asWritten := by
  rw [asWritten, dropDerived_prepare, prepare, bare_rememberGlobalIds]
  rfl

/-- A prepared document is prepared already. -/
@[simp] theorem prepare_prepare : (d.prepare r).prepare r = d.prepare r := by
  have hdrop : (d.prepare r).prepare r = (d.prepare r).rememberGlobalIds r := by
    rw [prepare, dropDerived_prepare]
  rw [hdrop]
  refine ext_node? rfl rfl rfl fun n => ?_
  rw [node?_rememberGlobalIds, prepare, globalId?_rememberGlobalIds, node?_rememberGlobalIds,
    Option.map_map]
  refine congrArg (Option.map · _) (funext fun node => ?_)
  simp only [Function.comp_apply]
  split <;> simp_all

end Prepare

/-- A prepared document follows, up to numbers and what references remember, from what was written
and from the registry. -/
theorem outline_prepare (h : d.asWritten.Plain) (r : Registry) :
    (d.prepare r).outline f =
      ({ d.asWritten with id := f d.id } : Document).rememberGlobalIds r := by
  refine ext_node? rfl rfl rfl fun n => ?_
  have hglobal : r.globalId? { d.asWritten with id := f d.id } n = r.globalId? d.dropDerived n := by
    exact globalId?_congr (e := { d.asWritten with id := f d.id }) (d := d.dropDerived) rfl
      d.kind?_asWritten d.parent?_asWritten d.ownId?_asWritten r n
  have hnode : ({ d.asWritten with id := f d.id } : Document).node? n =
      (d.dropDerived.node? n).map (·.bare) := node?_bare d.dropDerived n
  rw [node?_outline, prepare, node?_rememberGlobalIds, node?_rememberGlobalIds, hnode, hglobal]
  cases hn : d.dropDerived.node? n with
  | none => rfl
  | some node =>
    have hplain := h.nodes n node.bare (by rw [asWritten, node?_bare, hn, Option.map_some])
    have hderived : node.derivedFrom = none := by
      have hbare := hplain.derivedFrom_eq
      unfold Node.bare at hbare
      split at hbare <;> exact hbare
    simp only [Option.map_some, Node.kind_bare, Option.some.injEq]
    by_cases hkind : node.kind.isIdentified
    · rw [if_pos hkind, if_pos hkind, Node.resetReferences_renumber (by exact hderived), Node.bare,
        if_pos hkind]
      rfl
    · rw [if_neg hkind, if_neg hkind, Node.resetReferences_renumber hderived, Node.bare,
        if_neg hkind]

/-- Documents that were written alike are alike once they are prepared. -/
theorem alike_prepare (h : d.asWritten.Plain) (hwritten : e.asWritten = d.asWritten)
    (hid : e.id = f d.id) (r : Registry) : Alike f (d.prepare r) (e.prepare r) := by
  have he : e.asWritten.Plain := hwritten ▸ h
  rw [Alike, ← outline_self, outline_prepare he, outline_prepare h, hwritten, hid]

/-- The tables of a document are those of its written nodes. -/
theorem localTables_dropDerived (d : Document) (r : Registry) :
    d.dropDerived.localTables r = d.localTables r := by
  have hmodel : r.modelOf? d.dropDerived = r.modelOf? d := rfl
  have hderived : d.dropDerived.isDerived = d.isDerived := rfl
  rw [localTables, localTables, walk_dropDerived, hmodel, hderived, List.filter_filter]
  simp only [Bool.and_self]
  refine congrArg LocalTables.mk (List.flatMap_congr fun n hn => ?_)
  have hwritten : n.index < d.parsedLen := by
    simpa [isDerived] using (List.mem_filter.1 hn).2
  rw [tableEntries, tableEntries, parent?_dropDerived hwritten, localId?_dropDerived hwritten,
    node?_dropDerived, if_pos hwritten]
  cases d.node? n with
  | none => rfl
  | some node => cases d.parent? n <;> cases d.localId? n <;> rfl

section Drafts

/-- Appending a node that no build has touched to such nodes leaves only such nodes. -/
theorem plain_push {node : Node} (h : ∀ n m, d.node? n = some m → m.Plain d.size)
    (hnode : node.Plain d.size) (parent n : NodeId) {m : Node}
    (hm : (d.push parent node).node? n = some m) : m.Plain (d.push parent node).size := by
  have hplace : ∀ m, (if n = d.nextNode then some { node with parent := some parent }
      else d.node? n) = some m → m.Plain d.size := by
    intro m hm
    split at hm
    · cases hm
      exact ⟨hnode.globalId_eq, hnode.derivedFrom_eq, congrArg (fun n : Node =>
        { n with parent := some parent }) hnode.resetReferences_eq, hnode.children_lt⟩
    · exact h n m hm
  rw [node?_push] at hm
  obtain ⟨m', hm', rfl⟩ := Option.map_eq_some_iff.1 hm
  have hplain := hplace m' hm'
  have hlt : ∀ c ∈ m'.children, c.index < (d.push parent node).size := by
    intro c hc
    have hc' := hplain.children_lt c hc
    rw [size_push]
    omega
  split
  · refine ⟨hplain.globalId_eq, hplain.derivedFrom_eq, congrArg (fun n : Node =>
      { n with children := m'.children ++ [d.nextNode] }) hplain.resetReferences_eq, ?_⟩
    intro c hc
    rcases List.mem_append.1 hc with hc | hc
    · exact hlt c hc
    · rw [List.mem_singleton.1 hc, size_push]
      exact Nat.lt_succ_self _
  · exact ⟨hplain.globalId_eq, hplain.derivedFrom_eq, hplain.resetReferences_eq, hlt⟩

/-- The node of a draft is one that no build has touched. -/
theorem plain_toNode (draft : Draft) (size : Nat) : draft.toNode.Plain size where
  globalId_eq := rfl
  derivedFrom_eq := rfl
  resetReferences_eq := by
    simp [Draft.toNode, Node.resetReferences, Node.freshReferences, Reference.reset,
      Function.comp_def]
  children_lt := by simp [Draft.toNode]

/-- Drafts make a document that no build has touched. -/
theorem plain_ofDrafts (uri : String) (drafts : List (NodeId × Draft)) :
    (ofDrafts uri drafts).Plain := by
  have hfold : ∀ (drafts : List (NodeId × Draft)) (d : Document), d.id = .unassigned →
      (∀ n m, d.node? n = some m → m.Plain d.size) →
      (drafts.foldl (fun d n => d.push n.1 n.2.toNode) d).markParsed.Plain := by
    intro drafts
    induction drafts with
    | nil => exact fun d hid hnodes => ⟨hid, rfl, hnodes⟩
    | cons draft drafts ih =>
      intro d hid hnodes
      exact ih _ hid fun n m => plain_push hnodes (plain_toNode draft.2 d.size) draft.1 n
  refine hfold drafts (blank uri) rfl fun n m hm => ?_
  obtain ⟨i⟩ := n
  have hi : i = 0 := by
    have hlt : i < 1 := (node?_isSome_iff (blank uri) ⟨i⟩).1 (by simp [hm])
    omega
  subst hi
  cases hm
  exact ⟨rfl, rfl, rfl, by simp⟩

/-- A document just as its author wrote it is one that no build has touched. -/
theorem Drafted.plain (h : d.Drafted) : d.Plain := by
  obtain ⟨uri, drafts, -, rfl⟩ := h
  exact plain_ofDrafts uri drafts

end Drafts

end Document

/-- Applying a plan does not change what was written. -/
theorem DerivationPlan.asWritten_apply (p : DerivationPlan) {d : Document}
    (hlen : d.parsedLen ≤ d.size) (registry : Registry) (tables : LocalTables) :
    (p.apply registry d tables).document.asWritten = d.asWritten := by
  have hgrown := Derivation.grownFrom_apply registry p hlen tables
  rw [Document.asWritten, hgrown.dropDerived_eq]
  rfl

end ModelBinding
