import ModelBinding.Proofs.Renumber.Resolution

/-!
# Exports and derived attributes under other numbers

Alike documents have the same exports and the same container tables up to numbers, and
plans that differ in numbers only make alike documents of them
(`Derivation.Alike.apply`).
-/

namespace ModelBinding

variable {f : DocumentId → DocumentId}

namespace Document

private theorem map_modify {α : Type} {φ g : α → α} (h : ∀ a, φ (g a) = g (φ a)) (l : List α)
    (i : Nat) : (l.modify i g).map φ = (l.map φ).modify i g := by
  apply List.ext_getElem?
  intro j
  simp only [List.getElem?_map, List.getElem?_modify]
  split <;> simp [Function.comp_def, h]

/-- An outline grows with its document. -/
theorem outline_push (d : Document) (parent : NodeId) (node : Node) :
    (d.push parent node).outline f =
      (d.outline f).push parent (node.renumber f).resetReferences := by
  simp only [outline, renumber, resetReferences, push, nextNode, List.length_map, List.map_map,
    Document.mk.injEq, true_and, and_true]
  refine (map_modify (by intro; rfl) _ _).trans ?_
  rw [List.map_append]
  rfl

/-- An outline changes with its document. -/
theorem outline_modifyNode (d : Document) (n : NodeId) {g : Node → Node}
    (hg : ∀ node, ((g node).renumber f).resetReferences = g (node.renumber f).resetReferences) :
    (d.modifyNode n g).outline f = (d.outline f).modifyNode n g := by
  simp only [outline, renumber, resetReferences, modifyNode, List.map_map, Document.mk.injEq,
    true_and, and_true]
  exact map_modify hg d.nodes n.index

namespace Alike

variable {d e : Document} (h : Alike f d e)
include h

theorem push (parent : NodeId) {node node' : Node}
    (hnode : node'.resetReferences = (node.renumber f).resetReferences) :
    Alike f (d.push parent node) (e.push parent node') := by
  have hself := e.outline_push (f := fun i => i) parent node'
  rw [outline_self, outline_self, Node.renumber_self] at hself
  rw [Alike, hself, hnode, h, outline_push]

theorem modifyNode (n : NodeId) {g : Node → Node}
    (hreset : ∀ node, (g node).resetReferences = g node.resetReferences)
    (hrenumber : ∀ node, (g node).renumber f = g (node.renumber f)) :
    Alike f (d.modifyNode n g) (e.modifyNode n g) := by
  have hself := e.outline_modifyNode (f := fun i => i) n (g := g)
    (by simp [Node.renumber_self, hreset])
  rw [outline_self, outline_self] at hself
  rw [Alike, hself, h, outline_modifyNode]
  simp [hreset, hrenumber]

theorem exportEntries (model : Option DataModelId) (n : NodeId) :
    e.exportEntries model n = (d.exportEntries model n).map (·.renumber f) := by
  unfold Document.exportEntries
  cases hn : d.node? n with
  | none => simp [h.node?_none hn]
  | some node =>
    obtain ⟨node', hn', heq⟩ := h.node?_some hn
    have hkind : node'.kind = node.kind := congrArg (·.kind) heq
    have hglobal : node'.globalId = node.globalId := congrArg (·.globalId) heq
    simp only [hn', hkind, hglobal, h.localId?]
    cases node.globalId with
    | none => rfl
    | some g =>
      cases d.localId? n with
      | none => rfl
      | some l => simp only [h.describe, List.map_cons, List.map_nil]

/-- Alike documents export the same. -/
theorem exports (r : Registry) : e.exports r = (d.exports r).map (·.renumber f) := by
  simp only [Document.exports, h.walk, h.modelOf?, List.map_flatMap]
  exact List.flatMap_congr fun n _ => h.exportEntries _ n

theorem tableEntries (model : Option DataModelId) (n : NodeId) :
    e.tableEntries model n =
      (d.tableEntries model n).map fun t => (t.1, t.2.renumber f) := by
  unfold Document.tableEntries
  rw [h.parent?, h.localId?]
  cases hn : d.node? n with
  | none => simp [h.node?_none hn]
  | some node =>
    obtain ⟨node', hn', heq⟩ := h.node?_some hn
    have hkind : node'.kind = node.kind := congrArg (·.kind) heq
    have hglobal : node'.globalId = node.globalId := congrArg (·.globalId) heq
    simp only [hn']
    cases d.parent? n with
    | none => rfl
    | some container =>
      cases d.localId? n with
      | none => rfl
      | some name => cases hg : node.globalId <;> simp [h.describe, hkind, hglobal, hg]

/-- Alike documents have the same container tables. -/
theorem localTables (r : Registry) : e.localTables r = (d.localTables r).renumber f := by
  simp only [Document.localTables, LocalTables.renumber, h.walk, h.isDerived, h.modelOf?,
    List.map_flatMap]
  exact congrArg LocalTables.mk (List.flatMap_congr fun n _ => h.tableEntries _ n)

end Alike

end Document

namespace Derivation

/-- Two documents with their tables, alike but for numbers. -/
structure Alike (f : DocumentId → DocumentId) (s t : Derivation) : Prop where
  /-- The documents are alike. -/
  document : Document.Alike f s.document t.document
  /-- The tables differ in numbers only. -/
  tables : t.tables = s.tables.renumber f

namespace Alike

theorem attach {d e : Document} (h : Document.Alike f d e) (registry : Registry) (view : NodeId)
    (copy : Node) :
    Document.Alike f (Derivation.attach registry d view copy)
      (Derivation.attach registry e view (copy.renumber f)) := by
  have hgrown : Document.Alike f (d.push view copy) (e.push view (copy.renumber f)) :=
    h.push view rfl
  simp only [Derivation.attach, h.nextNode, hgrown.globalId?]
  exact hgrown.modifyNode _ (fun _ => rfl) (fun _ => rfl)

theorem tableNames {d e : Document} (h : Document.Alike f d e) (view : NodeId) (kind : NodeKind)
    (attributeId : String) :
    Derivation.tableNames e view kind attributeId =
      Derivation.tableNames d view kind attributeId := by
  simp only [Derivation.tableNames, h.ownId?, h.parent?]

variable {s t : Derivation} (h : Alike f s t)
include h

theorem addAttribute (registry : Registry) (view : NodeId) (kind : NodeKind) (copy : Node) :
    Alike f (Derivation.addAttribute registry view kind s copy)
      (Derivation.addAttribute registry view kind t (copy.renumber f)) where
  document := attach h.document registry view copy
  tables := by
    have hown : (copy.renumber f).ownId? = copy.ownId? := rfl
    simp only [Derivation.addAttribute, hown]
    cases copy.ownId? with
    | none => exact h.tables
    | some attributeId =>
      simp only [tableNames h.document, h.document.describe, h.document.modelOf?,
        h.document.nextNode, h.tables]
      simp [LocalTables.append, LocalTables.renumber, Function.comp_def, Node.renumber]

theorem foldl_addAttribute (registry : Registry) (view : NodeId) (kind : NodeKind)
    (copies : List Node) :
    Alike f (copies.foldl (Derivation.addAttribute registry view kind) s)
      ((copies.map (·.renumber f)).foldl (Derivation.addAttribute registry view kind) t) := by
  induction copies generalizing s t with
  | nil => exact h
  | cons copy copies ih => exact ih (h.addAttribute registry view kind copy)

theorem addView (registry : Registry) (v : ViewPlan) :
    Alike f (Derivation.addView registry s v)
      (Derivation.addView registry t ⟨v.view, v.attributes.map (·.renumber f)⟩) := by
  unfold Derivation.addView
  rw [h.document.kind?]
  cases s.document.kind? v.view with
  | none => exact h
  | some kind => exact h.foldl_addAttribute registry v.view kind v.attributes

theorem foldl_addView (registry : Registry) (views : List ViewPlan) :
    Alike f (views.foldl (Derivation.addView registry) s)
      ((views.map fun v => ⟨v.view, v.attributes.map (·.renumber f)⟩).foldl
        (Derivation.addView registry) t) := by
  induction views generalizing s t with
  | nil => exact h
  | cons v views ih => exact ih (h.addView registry v)

omit h in
/-- Applying plans that differ in numbers only makes alike documents of alike documents. -/
theorem apply {p q : DerivationPlan} {d e : Document} {tables : LocalTables}
    (hviews : q.views = p.views.map fun v => ⟨v.view, v.attributes.map (·.renumber f)⟩)
    (hd : Document.Alike f d e) (registry : Registry) :
    Alike f (p.apply registry d tables) (q.apply registry e (tables.renumber f)) := by
  unfold DerivationPlan.apply
  rw [hviews]
  exact foldl_addView ⟨hd, rfl⟩ registry p.views

end Alike

end Derivation

end ModelBinding
