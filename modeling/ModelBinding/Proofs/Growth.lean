import ModelBinding.Derivation
import ModelBinding.Proofs.Tree

/-!
# Growth by derived attributes

Applying a plan appends nodes behind the written ones and entries behind those of the
tables. Dropping the derived nodes gives the document that was there before
(`GrownFrom.dropDerived_eq`), and every entry that is new describes a derived node of the
document under its own data model (`grownFrom_apply`).
-/

namespace ModelBinding

namespace Document

variable {d e : Document}

/-- A document is determined by its number, its address, how much of it is written and its nodes. -/
theorem ext_node? (hid : d.id = e.id) (huri : d.uri = e.uri) (hlen : d.parsedLen = e.parsedLen)
    (hnode : ∀ n, d.node? n = e.node? n) : d = e := by
  have hnodes : d.nodes = e.nodes := List.ext_getElem? fun i => hnode ⟨i⟩
  cases d
  cases e
  simp_all

/-- What stands at a place after a change of one node. -/
theorem node?_modifyNode (d : Document) (n m : NodeId) (g : Node → Node) :
    (d.modifyNode n g).node? m = if n = m then (d.node? m).map g else d.node? m := by
  obtain ⟨i⟩ := n
  obtain ⟨j⟩ := m
  simp only [node?, modifyNode, List.getElem?_modify, NodeId.mk.injEq]
  split
  · rfl
  · simp

/-- What stands at a place after a node was appended. -/
theorem node?_push (d : Document) (parent : NodeId) (node : Node) (n : NodeId) :
    (d.push parent node).node? n =
      (if n = d.nextNode then some { node with parent := some parent } else d.node? n).map fun m =>
        if parent = n then { m with children := m.children ++ [d.nextNode] } else m := by
  obtain ⟨i⟩ := n
  obtain ⟨j⟩ := parent
  have hplace : (d.nodes ++ [{ node with parent := some ⟨j⟩ }])[i]? =
      if i = d.nodes.length then some { node with parent := some ⟨j⟩ } else d.nodes[i]? := by
    rw [List.getElem?_append]
    split
    · rename_i hlt
      rw [if_neg (Nat.ne_of_lt hlt)]
    · rename_i hge
      rw [List.getElem?_singleton]
      by_cases heq : i = d.nodes.length
      · simp [heq]
      · have hnone : d.nodes[i]? = none := List.getElem?_eq_none (Nat.le_of_not_lt hge)
        have hne : ¬ i - d.nodes.length = 0 := by omega
        rw [if_neg hne, if_neg heq, hnone]
  simp only [node?, push, List.getElem?_modify, nextNode, NodeId.mk.injEq, hplace]
  split
  · rfl
  · simp

/-- What stands at an old place after a node was appended. -/
theorem node?_push_of_lt {n : NodeId} (hn : n.index < d.size) (parent : NodeId) (node : Node) :
    (d.push parent node).node? n = (d.node? n).map fun m =>
      if parent = n then { m with children := m.children ++ [d.nextNode] } else m := by
  have hne : n ≠ d.nextNode := by
    rintro rfl
    exact Nat.lt_irrefl _ hn
  rw [node?_push, if_neg hne]

/-- An appended node is gone when the derived nodes are dropped. -/
theorem dropDerived_push (hlen : d.parsedLen ≤ d.size) (parent : NodeId) (node : Node) :
    (d.push parent node).dropDerived = d.dropDerived := by
  refine ext_node? rfl rfl rfl fun n => ?_
  rw [node?_dropDerived, node?_dropDerived]
  have hsame : (d.push parent node).parsedLen = d.parsedLen := rfl
  rw [hsame]
  split
  · rename_i hn
    have hnext : ¬ d.nextNode.index < d.parsedLen := Nat.not_lt.2 hlen
    rw [node?_push_of_lt (Nat.lt_of_lt_of_le hn hlen), Option.map_map]
    refine congrArg (Option.map · _) (funext fun m => ?_)
    by_cases hparent : parent = n <;> simp [hparent, hnext]
  · rfl

/-- So is whatever was changed behind what is written. -/
theorem dropDerived_modifyNode_of_le {n : NodeId} (hn : d.parsedLen ≤ n.index) (g : Node → Node) :
    (d.modifyNode n g).dropDerived = d.dropDerived := by
  refine ext_node? rfl rfl rfl fun m => ?_
  have hsame : (d.modifyNode n g).parsedLen = d.parsedLen := rfl
  rw [node?_dropDerived, node?_dropDerived, hsame]
  split
  · rename_i hm
    have hne : n ≠ m := by
      rintro rfl
      exact Nat.not_lt.2 hn hm
    rw [node?_modifyNode, if_neg hne]
  · rfl

end Document

namespace Derivation

variable {registry : Registry}

/-- What stands at an old place after a copy was attached. -/
theorem node?_attach_of_lt {d : Document} {n : NodeId} (hn : n.index < d.size) (view : NodeId)
    (copy : Node) :
    (attach registry d view copy).node? n = (d.node? n).map fun m =>
      if view = n then { m with children := m.children ++ [d.nextNode] } else m := by
  have hne : d.nextNode ≠ n := by
    rintro rfl
    exact Nat.lt_irrefl _ hn
  rw [attach, Document.node?_modifyNode, if_neg hne, Document.node?_push_of_lt hn]

/-- A copy is gone when the derived nodes are dropped. -/
theorem dropDerived_attach {d : Document} (hlen : d.parsedLen ≤ d.size) (view : NodeId)
    (copy : Node) : (attach registry d view copy).dropDerived = d.dropDerived := by
  have hnext : (d.push view copy).parsedLen ≤ d.nextNode.index := hlen
  rw [attach, Document.dropDerived_modifyNode_of_le hnext, Document.dropDerived_push hlen]

/-- What every added copy keeps, applying a plan keeps. -/
theorem apply_induction {P : Derivation → Prop}
    (hstep : ∀ s view kind copy, P s → P (addAttribute registry view kind s copy))
    (p : DerivationPlan) {d : Document} {tables : LocalTables} (h : P { document := d, tables }) :
    P (p.apply registry d tables) := by
  have hcopies : ∀ (copies : List Node) (view : NodeId) (kind : NodeKind) (s : Derivation), P s →
      P (copies.foldl (addAttribute registry view kind) s) := by
    intro copies view kind
    induction copies with
    | nil => exact fun s hs => hs
    | cons copy copies ih => exact fun s hs => ih _ (hstep s view kind copy hs)
  have hview : ∀ (s : Derivation) (v : ViewPlan), P s → P (addView registry s v) := by
    intro s v hs
    unfold addView
    split
    · exact hs
    · exact hcopies _ _ _ s hs
  unfold DerivationPlan.apply
  generalize ({ document := d, tables } : Derivation) = s at h
  induction p.views generalizing s with
  | nil => exact h
  | cons v views ih => exact ih _ (hview s v h)

/-- Applying a plan changes neither the number nor the address of a document. -/
theorem id_uri_apply (p : DerivationPlan) (d : Document) (tables : LocalTables) :
    (p.apply registry d tables).document.id = d.id ∧
      (p.apply registry d tables).document.uri = d.uri :=
  apply_induction (P := fun s => s.document.id = d.id ∧ s.document.uri = d.uri)
    (fun _ _ _ _ h => h) p ⟨rfl, rfl⟩

/-- The arena grows by one place for each copy that is counted. -/
theorem size_apply (registry : Registry) (p : DerivationPlan) (d : Document)
    (tables : LocalTables) :
    (p.apply registry d tables).document.size = d.size + (p.apply registry d tables).created := by
  apply apply_induction (P := fun s => s.document.size = d.size + s.created)
  · intro s view kind copy hs
    show (attach registry s.document view copy).size = d.size + (s.created + 1)
    rw [size_attach, hs]
    omega
  · rfl

/-- What a plan has made of a document so far, when it was applied to `d` and its tables. -/
structure GrownFrom (registry : Registry) (d : Document) (tables : LocalTables) (s : Derivation) :
    Prop where
  /-- The document has kept its number. -/
  id_eq : s.document.id = d.id
  /-- The document has kept its address. -/
  uri_eq : s.document.uri = d.uri
  /-- As much is written as before. -/
  parsedLen_eq : s.document.parsedLen = d.parsedLen
  /-- The arena has not become shorter. -/
  size_le : d.size ≤ s.document.size
  /-- Without the derived nodes nothing has changed. -/
  dropDerived_eq : s.document.dropDerived = d.dropDerived
  /-- The tables have grown at the end, by entries about derived nodes. -/
  tables_eq : ∃ more, s.tables = tables.append more ∧ ∀ entry ∈ more,
    entry.2.node.document = d.id ∧ d.size ≤ entry.2.node.node.index ∧
      entry.2.dataModel = registry.modelOf? d ∧ entry.2.uri = d.uri ∧
      entry.2.form = .localForm

/-- A further copy keeps all this. -/
theorem GrownFrom.addAttribute {d : Document} {tables : LocalTables} (hlen : d.parsedLen ≤ d.size)
    {s : Derivation} (h : GrownFrom registry d tables s) (view : NodeId) (kind : NodeKind)
    (copy : Node) : GrownFrom registry d tables (addAttribute registry view kind s copy) where
  id_eq := h.id_eq
  uri_eq := h.uri_eq
  parsedLen_eq := h.parsedLen_eq
  size_le := by
    show d.size ≤ (attach registry s.document view copy).size
    rw [size_attach]
    exact Nat.le_succ_of_le h.size_le
  dropDerived_eq := by
    have hle : s.document.parsedLen ≤ s.document.size :=
      h.parsedLen_eq ▸ Nat.le_trans hlen h.size_le
    exact (dropDerived_attach hle view copy).trans h.dropDerived_eq
  tables_eq := by
    obtain ⟨more, htables, hmore⟩ := h.tables_eq
    unfold Derivation.addAttribute
    cases copy.ownId? with
    | none => exact ⟨more, htables, hmore⟩
    | some attributeId =>
      refine ⟨more ++ (tableNames s.document view kind attributeId).map fun t =>
        (t.1, s.document.describe (registry.modelOf? s.document) s.document.nextNode copy.kind t.2
          .localForm), ?_, fun entry hentry => ?_⟩
      · simp [htables, LocalTables.append]
      · rcases List.mem_append.1 hentry with hentry | hentry
        · exact hmore entry hentry
        · obtain ⟨t, -, rfl⟩ := List.mem_map.1 hentry
          refine ⟨h.id_eq, h.size_le, ?_, h.uri_eq, rfl⟩
          show registry.owner? s.document.uri = _
          rw [h.uri_eq]
          rfl

/-- What applying a plan makes of a document and its tables. -/
theorem grownFrom_apply (registry : Registry) (p : DerivationPlan) {d : Document}
    (hlen : d.parsedLen ≤ d.size) (tables : LocalTables) :
    GrownFrom registry d tables (p.apply registry d tables) :=
  apply_induction (fun _ view kind copy h => h.addAttribute hlen view kind copy) p
    { id_eq := rfl
      uri_eq := rfl
      parsedLen_eq := rfl
      size_le := Nat.le_refl _
      dropDerived_eq := rfl
      tables_eq := ⟨[], by simp [LocalTables.append], by simp⟩ }

end Derivation

end ModelBinding
