import ModelBinding.Proofs.Coherence
import ModelBinding.Proofs.Lists
import ModelBinding.Proofs.Planned
import ModelBinding.Proofs.WellFormed

/-!
# Derived attributes mirror the entity

After a rebuild, the derived attributes of a viewing node in a document that was out of
date are copies of the attributes of the entity that the node refers to, in order, and
there are none if it refers to none. Each copy is described under the names that its
view gives it and nowhere else, and none is exported
(`Session.derivedChildren_mirror`). What is to be shown is decided before any copy is
there, but would be decided in the same way afterwards (`Host.grownTo_rebuild`).
-/

namespace ModelBinding

/-- A node that shows an attribute as one of another kind. -/
structure Node.Mirrors (m n : Node) (kind : NodeKind) (source : NodePtr) : Prop where
  /-- It has the identifier of the attribute. -/
  id_eq : m.id = n.id
  /-- It has its name. -/
  name_eq : m.name = n.name
  /-- It has its description. -/
  description_eq : m.description = n.description
  /-- It has its properties. -/
  properties_eq : m.properties = n.properties
  /-- It is of the other kind. -/
  kind_eq : m.kind = kind
  /-- It has no references. -/
  references_eq : m.references = []
  /-- It points at the attribute. -/
  derivedFrom_eq : m.derivedFrom = some source

namespace Document

/-- The derived attributes of a node, in order. -/
def derivedChildren (d : Document) (n : NodeId) : List NodeId := (d.children n).filter d.isDerived

/-- Whether a node of a document shows a node of another as one of another kind. -/
def Mirrors (d : Document) (c : NodeId) (t : Document) (a : NodeId) (kind : NodeKind) : Prop :=
  ∃ m n, d.node? c = some m ∧ t.node? a = some n ∧ m.Mirrors n kind (t.ptr a)

/-- Where a derived attribute with an identifier is described, and how: in the table of the view's
container behind the identifier of the view, if there are both, and for a target also in its own
table under the bare identifier. -/
def copyDescriptions (d : Document) (r : Registry) (view copy : NodeId) (viewKind kind : NodeKind) :
    List (NodeId × Description) :=
  match d.ownId? copy with
  | none => []
  | some attributeId =>
    ((d.ownId? view).bind fun viewId => (d.parent? view).map fun container =>
      (container, d.describe (r.modelOf? d) copy kind (Name.qualify viewId attributeId)
        .localForm)).toList ++
    if viewKind = .targetObject then
      [(view, d.describe (r.modelOf? d) copy kind attributeId .localForm)]
    else []

end Document

/-- What references remember has no part in it. -/
theorem Document.copyDescriptions_resetReferences (d : Document) (r : Registry) (view copy : NodeId)
    (viewKind kind : NodeKind) : d.resetReferences.copyDescriptions r view copy viewKind kind =
      d.copyDescriptions r view copy viewKind kind := by
  have halike := alike_of_resetReferences_eq (resetReferences_resetReferences d)
  rw [copyDescriptions, copyDescriptions, halike.ownId?, halike.ownId?, halike.parent?]
  rfl

/-- What references remember has no part in which attributes are derived. -/
theorem Document.derivedChildren_resetReferences (d : Document) (n : NodeId) :
    d.resetReferences.derivedChildren n = d.derivedChildren n := by
  have halike := alike_of_resetReferences_eq (resetReferences_resetReferences d)
  rw [derivedChildren, derivedChildren, halike.children, funext halike.isDerived]

/-- Kinds that derive attributes are not derived themselves. -/
theorem NodeKind.isDerivedAttribute_of_derivedAttributeKind? {k derived : NodeKind}
    (h : k.derivedAttributeKind? = some derived) : k.isDerivedAttribute = false := by
  cases k <;> simp [derivedAttributeKind?] at h <;> rfl

/-- What becomes of a prepared document, and of its tables, when the plan for it is applied. -/
structure Derivation.Planned (r : Resolver) (p : Document) (s : Derivation) : Prop where
  /-- The document is a tree. -/
  tree : p.IsTree
  /-- All of it is written. -/
  parsedLen_eq : p.parsedLen = p.size
  /-- The copies of the plan have been appended. -/
  copied : Derivation.Copied r.registry p (p.localTables r.registry) (r.plan p).copies s

/-- A build applies the plan for the prepared document. -/
theorem Document.WellFormed.planned_builtWith {e : Document} (h : e.WellFormed) (r : Resolver) :
    Derivation.Planned r (e.prepare r.registry) (e.builtWith r) :=
  ⟨h.isTree_prepare r.registry, e.parsedLen_prepare _ h.parsedLen_le, e.copied_builtWith r⟩

/-- A plan has for each viewing node the copies that the node is to show. -/
theorem Document.IsTree.filter_copies_plan {p : Document} (h : p.IsTree) (r : Resolver) {v : NodeId}
    {kind derived : NodeKind} (hkind : p.kind? v = some kind)
    (hview : kind.derivedAttributeKind? = some derived) :
    (r.plan p).copies.filter (·.1 = v) =
      (r.viewAttributes (p.ptr v) derived).map fun copy => (v, copy) := by
  have hderived : (p.kind? v).bind (·.derivedAttributeKind?) = some derived := by
    rw [hkind, Option.bind_some, hview]
  rw [Resolver.copies_plan_eq, List.filter_flatMap, flatMap_eq_of_unique (fun n => n) (x := v)
    (by simpa using h.nodup_walk) (h.mem_walk_iff.2 (Document.index_lt_of_kind? hkind))]
  · simp [hderived]
  · intro n _ hne
    refine List.filter_eq_nil_iff.2 fun c hc => ?_
    obtain ⟨k, -, hc⟩ := List.mem_flatMap.1 hc
    obtain ⟨copy, -, rfl⟩ := List.mem_map.1 hc
    simpa using hne

namespace Derivation.Planned

variable {r : Resolver} {p : Document} {s : Derivation} (h : Planned r p s)
include h

/-- The tables of what was written say nothing of copies. -/
theorem index_lt_of_mem_localTables {entry : NodeId × Description}
    (hentry : entry ∈ (p.localTables r.registry).entries) :
    entry.2.node.node.index < p.size := by
  have hdescribes := Document.describesWritten_of_mem_localTables hentry
  simp only [Document.describesWritten, Document.isDerived, h.parsedLen_eq, Bool.and_eq_true,
    Bool.not_eq_true', decide_eq_false_iff_not, Nat.not_le] at hdescribes
  exact hdescribes.2

/-- Of all entries of the tables those describe the copy at a place that were added for it. -/
theorem filter_tables_eq_copyEntries {c : NodeId × Node} {i : Nat}
    (hc : (c, i) ∈ (r.plan p).copies.zipIdx p.size) :
    s.tables.entries.filter (·.2.node = p.ptr ⟨i⟩) = copyEntries r.registry p c ⟨i⟩ := by
  have hle : p.size ≤ i := List.le_snd_of_mem_zipIdx hc
  have hwritten : (p.localTables r.registry).entries.filter (·.2.node = p.ptr ⟨i⟩) = [] := by
    refine List.filter_eq_nil_iff.2 fun entry hentry => ?_
    simp only [decide_eq_true_eq]
    intro heq
    have hlt := h.index_lt_of_mem_localTables hentry
    rw [heq] at hlt
    exact absurd hlt (Nat.not_lt.2 hle)
  rw [h.copied.tables_eq, LocalTables.append, List.filter_append, hwritten, List.nil_append,
    List.filter_flatMap, flatMap_eq_of_unique _ (nodup_map_snd_zipIdx p.size _) hc]
  · exact List.filter_eq_self.2 fun entry hentry => decide_eq_true (of_mem_copyEntries hentry).1
  · intro y _ hne
    refine List.filter_eq_nil_iff.2 fun entry hentry => ?_
    rw [(of_mem_copyEntries hentry).1]
    simpa [Document.ptr] using hne

variable {v : NodeId} {kind derived : NodeKind} (hkind : p.kind? v = some kind)
include hkind

/-- The derived attributes of a viewing node are the copies for it. -/
theorem derivedChildren_eq :
    s.document.derivedChildren v = copyPlaces p.size (r.plan p).copies v := by
  have hnode := h.copied.node?_old v (Document.index_lt_of_kind? hkind)
  have hchildren : s.document.children v =
      p.children v ++ copyPlaces p.size (r.plan p).copies v := by
    obtain ⟨node, hold, -⟩ := Option.map_eq_some_iff.1 hkind
    simp [Document.children, hnode, hold]
  have hderived : ∀ c, s.document.isDerived c = decide (p.size ≤ c.index) := fun c => by
    rw [Document.isDerived, h.copied.parsedLen_eq, h.parsedLen_eq]
  have hold : (p.children v).filter s.document.isDerived = [] := by
    refine List.filter_eq_nil_iff.2 fun c hc => ?_
    rw [hderived]
    simpa using Document.index_lt_of_parent? (h.tree.parent?_of_mem v c hc)
  have hnew : (copyPlaces p.size (r.plan p).copies v).filter s.document.isDerived =
      copyPlaces p.size (r.plan p).copies v := by
    refine List.filter_eq_self.2 fun c hc => ?_
    obtain ⟨copy, hcopy, -⟩ := mem_copyPlaces_iff.1 hc
    rw [hderived]
    exact decide_eq_true (List.le_snd_of_mem_zipIdx hcopy)
  rw [Document.derivedChildren, hchildren, List.filter_append, hold, hnew, List.nil_append]

variable (hview : kind.derivedAttributeKind? = some derived)
include hview

/-- The derived attributes of a viewing node are, in order, the nodes that it is to show. -/
theorem forall₂_derivedChildren :
    List.Forall₂ (fun c copy => ∃ g,
        s.document.node? c = some { copy with parent := some v, globalId := g })
      (s.document.derivedChildren v) (r.viewAttributes (p.ptr v) derived) := by
  have hcopies : r.viewAttributes (p.ptr v) derived =
      (((r.plan p).copies.zipIdx p.size).filter (·.1.1 = v)).map (·.1.2) := by
    have hfst : (((r.plan p).copies.zipIdx p.size).filter (·.1.1 = v)).map (·.1) =
        (r.plan p).copies.filter (·.1 = v) := by
      conv_rhs => rw [← List.zipIdx_map_fst p.size (r.plan p).copies, List.filter_map]
      rfl
    have hsnd := congrArg (List.map (·.2)) (hfst.trans (h.tree.filter_copies_plan r hkind hview))
    simpa [Function.comp_def] using hsnd.symm
  rw [h.derivedChildren_eq hkind, hcopies, copyPlaces, List.forall₂_map_left_iff,
    List.forall₂_map_right_iff, List.forall₂_same]
  intro x hx
  obtain ⟨hmem, hv⟩ := List.mem_filter.1 hx
  rw [decide_eq_true_eq] at hv
  obtain ⟨g, hg⟩ := h.copied.node?_of_mem_zipIdx hmem
  rw [hv] at hg
  exact ⟨g, hg⟩

/-- The tables describe a derived attribute under the names that its view gives it, and nowhere
else. -/
theorem filter_tables_eq {c : NodeId} (hc : c ∈ s.document.derivedChildren v) :
    s.tables.entries.filter (·.2.node = p.ptr c) =
      s.document.copyDescriptions r.registry v c kind derived := by
  have hlt := Document.index_lt_of_kind? hkind
  rw [h.derivedChildren_eq hkind] at hc
  obtain ⟨i⟩ := c
  obtain ⟨⟨w, copy⟩, hmem, rfl⟩ := mem_copyPlaces_iff.1 hc
  have hcopyKind : copy.kind = derived := by
    obtain ⟨k, hk, hderived⟩ := Resolver.of_mem_copies_plan (List.fst_mem_of_mem_zipIdx hmem)
    rw [hkind] at hk
    cases hk
    rw [hview] at hderived
    exact (Option.some.inj hderived).symm
  have hown : s.document.ownId? ⟨i⟩ = copy.ownId? := by
    obtain ⟨g, hg⟩ := h.copied.node?_of_mem_zipIdx hmem
    rw [Document.ownId?, hg, Option.bind_some]
    rfl
  have hmodel : r.registry.modelOf? s.document = r.registry.modelOf? p := by
    rw [Registry.modelOf?, Registry.modelOf?, h.copied.uri_eq]
  have hdescribe : ∀ model name, s.document.describe model ⟨i⟩ derived name .localForm =
      p.describe model ⟨i⟩ derived name .localForm := fun model name => by
    simp only [Document.describe, Document.ptr, h.copied.id_eq, h.copied.uri_eq]
  rw [h.filter_tables_eq_copyEntries hmem, Document.copyDescriptions, copyEntries, hkind, hown,
    h.copied.ownId?_old hlt, h.copied.parent?_old hlt]
  cases copy.ownId? with
  | none => rfl
  | some attributeId =>
    simp only [tableNames, hmodel, hdescribe, hcopyKind, List.map_append]
    congr 1
    · cases p.ownId? w <;> cases p.parent? w <;> rfl
    · split <;> rfl

omit hkind hview in
/-- So they do in a document that is this one but for what references remember. -/
theorem filter_tables_eq_of_resetReferences {d : Document} (hgrown : p.GrownTo d)
    (hreset : d.resetReferences = s.document.resetReferences) (hkind : d.kind? v = some kind)
    (hview : kind.derivedAttributeKind? = some derived) {c : NodeId}
    (hc : c ∈ d.derivedChildren v) :
    s.tables.entries.filter (·.2.node = d.ptr c) =
      d.copyDescriptions r.registry v c kind derived := by
  have hold := (hgrown.kind?_eq_some_iff
    (NodeKind.isDerivedAttribute_of_derivedAttributeKind? hview) v).1 hkind
  have hptr : d.ptr c = p.ptr c := congrArg (fun id => (⟨id, c⟩ : NodePtr)) hgrown.id_eq
  rw [← Document.derivedChildren_resetReferences, hreset,
    Document.derivedChildren_resetReferences] at hc
  rw [← Document.copyDescriptions_resetReferences, hreset,
    Document.copyDescriptions_resetReferences, hptr, h.filter_tables_eq hold hview hc]

end Derivation.Planned

namespace Resolver

variable {r : Resolver} {ptr : NodePtr}

/-- A viewing node is to show copies of the attributes of the entity that it refers to, in order. -/
theorem forall₂_viewAttributes {x : Description} (hx : r.resolve ptr .entity 0 = some x)
    {t : Document} (ht : r.document? x.node.document = some t)
    (hentity : t.kind? x.node.node = some .logicalEntity) (derived : NodeKind) :
    List.Forall₂ (fun copy a => ∃ n, t.node? a = some n ∧ copy = n.derive derived (t.ptr a))
      (r.viewAttributes ptr derived) (t.childrenOfKind x.node.node .logicalAttribute) := by
  have hkinds : ∀ a ∈ t.childrenOfKind x.node.node .logicalAttribute, (t.kind? a).isSome := by
    intro a ha
    have hkind : t.kind? a = some .logicalAttribute := by simpa using (List.mem_filter.1 ha).2
    rw [hkind]
    rfl
  simp only [viewAttributes, hx, entityAttributes, ht, hentity, if_true, List.map_filterMap]
  generalize t.childrenOfKind x.node.node .logicalAttribute = attributes at hkinds ⊢
  induction attributes with
  | nil => exact List.Forall₂.nil
  | cons a as ih =>
    obtain ⟨k, hk⟩ := Option.isSome_iff_exists.1 (hkinds a (List.mem_cons_self ..))
    obtain ⟨n, hn, -⟩ := Option.map_eq_some_iff.1 hk
    rw [List.filterMap_cons]
    simp only [hn, Option.map_some]
    exact List.Forall₂.cons ⟨n, hn, rfl⟩ (ih fun b hb => hkinds b (List.mem_cons_of_mem _ hb))

/-- A viewing node that refers to no entity is to show nothing. -/
theorem viewAttributes_eq_nil (h : ∀ x t, r.resolve ptr .entity 0 = some x →
    r.document? x.node.document = some t → t.kind? x.node.node ≠ some .logicalEntity)
    (derived : NodeKind) : r.viewAttributes ptr derived = [] := by
  rw [viewAttributes]
  cases hx : r.resolve ptr .entity 0 with
  | none => rfl
  | some x =>
    simp only [entityAttributes]
    cases ht : r.document? x.node.document with
    | none => rfl
    | some t => simp [h x t hx ht]

end Resolver

namespace Host

variable {h : Host} (hh : h.Consistent) (hall : h.workspace.All Document.WellFormed)
  {id : DocumentId} (hid : id ∈ h.dirty) {d : Document}
  (hd : h.rebuild.workspace.get? id = some d)
include hh hall hid hd

/-- To a document that was out of date a rebuild applies a plan, which is made with a resolver from
which the one of the rebuilt snapshot has grown. -/
theorem exists_planned :
    ∃ (r : Resolver) (p : Document) (s : Derivation), Derivation.Planned r p s ∧ p.GrownTo d ∧
      d = s.document.resetReferences ∧ h.rebuild.index.locals? id = some s.tables ∧
      r.document? p.id = some p ∧ r.GrownTo h.rebuild.resolver := by
  obtain ⟨e, he⟩ := Workspace.exists_get?_of_mem_ids (hh.dirty_mem id hid)
  have hregistry : (h.exportAll h.dirty).resolver.registry = h.registry :=
    Snapshot.registry_exportAll h.toSnapshot h.dirty
  have hpart := part_rebuild_of_mem hh hid he
  rw [Snapshot.rebuilt_eq] at hpart
  have hdocument := hd.symm.trans (congrArg Part.document hpart :)
  have hexported := Snapshot.part_exportAll_of_mem (s := h.toSnapshot) hid he
  rw [← hregistry] at hexported
  have hid' : (e.prepare (h.exportAll h.dirty).resolver.registry).id = id :=
    hh.workspace.id_eq id e he
  refine ⟨(h.exportAll h.dirty).resolver, _, _, (hall id e he).planned_builtWith _, ?_,
    Option.some.inj hdocument, (congrArg Part.tables hpart :), ?_, grownTo_rebuild hh⟩
  · exact (e.grownTo_builtWith _).congr (congrArg Document.resetReferences
      (Option.some.inj hdocument) |>.trans (Document.resetReferences_resetReferences _))
  · rw [hid']
    exact (congrArg Part.document hexported :)

variable {v : NodeId} {kind derived : NodeKind} (hkind : d.kind? v = some kind)
  (hview : kind.derivedAttributeKind? = some derived)
include hkind hview

/-- The derived attributes of a viewing node in a document that was out of date are, in order, the
nodes that it is to show by the rebuilt snapshot. -/
theorem forall₂_derivedChildren_rebuild :
    List.Forall₂ (fun c copy => ∃ g, d.node? c =
        some (Node.resetReferences { copy with parent := some v, globalId := g }))
      (d.derivedChildren v) (h.rebuild.resolver.viewAttributes (d.ptr v) derived) := by
  obtain ⟨r, p, s, hplanned, hbuilt, rfl, -, hdocument, hgrown⟩ := exists_planned hh hall hid hd
  have hold := (hbuilt.kind?_eq_some_iff
    (NodeKind.isDerivedAttribute_of_derivedAttributeKind? hview) v).1 hkind
  have hptr : s.document.resetReferences.ptr v = p.ptr v :=
    congrArg (fun id => (⟨id, v⟩ : NodePtr)) hbuilt.id_eq
  -- What was planned is what the view is to show by the rebuilt snapshot.
  have hshown : h.rebuild.resolver.viewAttributes (p.ptr v) derived =
      r.viewAttributes (p.ptr v) derived :=
    hgrown.viewAttributes hdocument hold (by simp [NodeKind.isEntityView, hview]) derived
  rw [hptr, hshown, Document.derivedChildren_resetReferences]
  refine (hplanned.forall₂_derivedChildren hold hview).imp fun c copy hcopy => ?_
  obtain ⟨g, hg⟩ := hcopy
  exact ⟨g, (Document.node?_resetReferences _ c).trans (congrArg _ hg)⟩

/-- The tables of a document that was out of date describe a derived attribute under the names that
its view gives it, and nowhere else. -/
theorem filter_locals_rebuild {tables : LocalTables}
    (htables : h.rebuild.index.locals? id = some tables) {c : NodeId}
    (hc : c ∈ d.derivedChildren v) :
    tables.entries.filter (·.2.node = d.ptr c) =
      d.copyDescriptions h.rebuild.registry v c kind derived := by
  obtain ⟨r, p, s, hplanned, hbuilt, hreset, hlocals, -, hgrown⟩ := exists_planned hh hall hid hd
  have hregistry : h.rebuild.registry = r.registry := hgrown.registry
  cases hlocals.symm.trans htables
  rw [hregistry]
  exact hplanned.filter_tables_eq_of_resetReferences hbuilt
    (by rw [hreset, Document.resetReferences_resetReferences]) hkind hview hc

end Host

/-- No derived attribute is exported. -/
theorem Snapshot.Current.isDerived_of_mem_all {s : Snapshot} (h : s.Current Document.WellFormed)
    {x : Description} (hx : x ∈ s.index.all) {t : Document}
    (ht : s.workspace.get? x.node.document = some t) : t.isDerived x.node.node = false := by
  obtain ⟨_, -, hexported, -⟩ := h.of_mem_all hx
  obtain ⟨e, hok, -, hgrown, hexports⟩ := h.grownTo_of_get? ht
  rw [hexports] at hexported
  obtain ⟨n, -, node, g, l, hnode, -, -, hx'⟩ := Document.mem_exports_iff.1 hexported
  have hn : n = x.node.node := by
    rcases hx' with rfl | rfl <;> rfl
  have hlt := (Document.node?_isSome_iff (e.prepare s.registry) n).1 (by simp [hnode])
  rw [Document.isDerived, hgrown.parsedLen_eq, e.parsedLen_prepare _ hok.parsedLen_le, ← hn]
  simpa using hlt

namespace Session

/-- After any actions that set well-formed documents and a rebuild, in a document that was out of
date the derived attributes of a viewing node show the attributes of the entity that the node refers
to, in order, and there are none if it refers to none; the tables describe each of them under the
names that its view gives it, and no tables describe it otherwise. No derived attribute is
exported. -/
theorem derivedChildren_mirror (registry : Registry) {actions : List Action}
    (hactions : ∀ a ∈ actions, a.Sets Document.WellFormed) {s : Session}
    (hs : s = (start registry).run actions) {id : DocumentId} (hid : id ∈ s.host.dirty)
    {d : Document} (hd : s.host.rebuild.workspace.get? id = some d) {v : NodeId}
    {kind derived : NodeKind} (hkind : d.kind? v = some kind)
    (hview : kind.derivedAttributeKind? = some derived) :
    (∀ x t, s.host.rebuild.resolve (.ofNode (d.ptr v) .entity) = some x →
        s.host.rebuild.workspace.get? x.node.document = some t →
        t.kind? x.node.node = some .logicalEntity →
        List.Forall₂ (fun c a => d.Mirrors c t a derived) (d.derivedChildren v)
          (t.childrenOfKind x.node.node .logicalAttribute)) ∧
      ((∀ x t, s.host.rebuild.resolve (.ofNode (d.ptr v) .entity) = some x →
          s.host.rebuild.workspace.get? x.node.document = some t →
          t.kind? x.node.node ≠ some .logicalEntity) → d.derivedChildren v = []) ∧
      (∀ c ∈ d.derivedChildren v, ∀ j tables, s.host.rebuild.index.locals? j = some tables →
        tables.entries.filter (·.2.node = d.ptr c) =
          if j = id then d.copyDescriptions s.host.rebuild.registry v c kind derived else []) ∧
      ∀ x ∈ s.host.rebuild.index.all, ∀ t, s.host.rebuild.workspace.get? x.node.document = some t →
        t.isDerived x.node.node = false := by
  have hc : s.host.Consistent := hs ▸ consistent_run registry actions
  have hlasts : s.Lasts Document.WellFormed :=
    hs ▸ lasts_run Document.lasting_wellFormed registry hactions
  have hcurrent : s.host.rebuild.toSnapshot.Current Document.WellFormed :=
    hs ▸ current_rebuild Document.lasting_wellFormed registry hactions
  have hcopies := Host.forall₂_derivedChildren_rebuild hc hlasts.workspace hid hd hkind hview
  refine ⟨fun x t hx ht hentity => ?_, fun hnone => ?_, fun c hcopy j tables htables => ?_,
    fun x hx t ht => hcurrent.isDerived_of_mem_all hx ht⟩
  · refine forall₂_comp (fun c copy a hcopy hsource => ?_) hcopies
      (Resolver.forall₂_viewAttributes hx ht hentity derived)
    obtain ⟨g, hg⟩ := hcopy
    obtain ⟨n, hn, rfl⟩ := hsource
    exact ⟨_, n, hg, hn, ⟨rfl, rfl, rfl, rfl, rfl, rfl, rfl⟩⟩
  · rw [Resolver.viewAttributes_eq_nil hnone derived] at hcopies
    exact List.forall₂_nil_right_iff.1 hcopies
  · by_cases hj : j = id
    · subst hj
      rw [if_pos rfl,
        Host.filter_locals_rebuild hc hlasts.workspace hid hd hkind hview htables hcopy]
    · rw [if_neg hj]
      refine List.filter_eq_nil_iff.2 fun entry hentry heq => ?_
      rw [decide_eq_true_eq] at heq
      obtain ⟨_, -, hentries⟩ := hcurrent.of_locals? htables
      have hdocument := (hentries entry hentry).1
      rw [heq, Document.ptr, hcurrent.workspace.id_eq id d hd] at hdocument
      exact hj hdocument.symm

/-- A session with one document, in which the target of a mapping views an entity. -/
def viewed : Session :=
  (start { models := [{ id := ⟨"core"⟩, referenceName := "core", root := "file:///core" }] }).run
    [.set (.ofDrafts "file:///core/a.cm"
      [(.root, { kind := .logicalEntity, id := some "Party" }),
        (⟨1⟩, { kind := .logicalAttribute, id := some "Name" }),
        (.root, { kind := .mapping, id := some "Load" }),
        (⟨3⟩, { kind := .targetObject, id := some "T", references := [(.entity, "Party")] })])]

/-- It is reachable. -/
theorem reachable_viewed : viewed.Reachable := by
  refine ⟨_, _, fun a ha => ?_, rfl⟩
  rw [List.mem_singleton.1 ha]
  exact drafted_ofDrafts (by decide)

/-- The target has one derived attribute, which shows the one of the entity and is described in the
tables of the mapping and of the target. -/
theorem derivedChildren_mirror_viewed :
    ∃ d, viewed.host.rebuild.workspace.get? ⟨0⟩ = some d ∧ d.derivedChildren ⟨4⟩ = [⟨5⟩] ∧
      d.Mirrors ⟨5⟩ d ⟨2⟩ .targetObjectAttribute ∧
      ∃ tables, viewed.host.rebuild.index.locals? ⟨0⟩ = some tables ∧
        (tables.entries.filter (·.2.node = d.ptr ⟨5⟩)).map (fun entry => (entry.1, entry.2.name)) =
          [(⟨3⟩, "T.Name"), (⟨4⟩, "Name")] := by
  obtain ⟨d, hd, hchildren⟩ := Option.map_eq_some_iff.1
    (show (viewed.host.rebuild.workspace.get? ⟨0⟩).map (·.derivedChildren ⟨4⟩) = some [⟨5⟩] by
      decide +kernel)
  have hkinds : (viewed.host.rebuild.workspace.get? ⟨0⟩).map (fun d => (d.kind? ⟨4⟩, d.kind? ⟨1⟩)) =
      some (some .targetObject, some .logicalEntity) := by
    decide +kernel
  have hattributes : (viewed.host.rebuild.workspace.get? ⟨0⟩).map
      (·.childrenOfKind ⟨1⟩ .logicalAttribute) = some [⟨2⟩] := by
    decide +kernel
  have hresolve : (viewed.host.rebuild.workspace.get? ⟨0⟩).bind (fun d =>
      (viewed.host.rebuild.resolve (.ofNode (d.ptr ⟨4⟩) .entity)).map (·.node)) =
        some ⟨⟨0⟩, ⟨1⟩⟩ := by
    decide +kernel
  have hnames : (viewed.host.rebuild.workspace.get? ⟨0⟩).map (fun d =>
      (d.copyDescriptions viewed.host.rebuild.registry ⟨4⟩ ⟨5⟩ .targetObject
        .targetObjectAttribute).map fun entry => (entry.1, entry.2.name)) =
          some [(⟨3⟩, "T.Name"), (⟨4⟩, "Name")] := by
    decide +kernel
  obtain ⟨tables, htables⟩ := Option.isSome_iff_exists.1
    (show (viewed.host.rebuild.index.locals? ⟨0⟩).isSome by decide +kernel)
  simp only [hd, Option.map_some, Option.bind_some, Option.some.injEq, Prod.mk.injEq]
    at hkinds hattributes hresolve hnames
  obtain ⟨x, hx, hnode⟩ := Option.map_eq_some_iff.1 hresolve
  obtain ⟨registry, actions, hsound, hrun⟩ := reachable_viewed
  obtain ⟨hmirror, -, hdescribed, -⟩ := derivedChildren_mirror registry
    (fun a ha => (hsound a ha).sets_wellFormed) hrun (by decide +kernel) hd hkinds.1 rfl
  have hforall := hmirror x d hx (by rw [hnode]; exact hd) (by rw [hnode]; exact hkinds.2)
  rw [hchildren, hnode, hattributes] at hforall
  refine ⟨d, hd, hchildren, ?_, tables, htables, ?_⟩
  · cases hforall with
    | cons hmirrors _ => exact hmirrors
  · rw [hdescribed ⟨5⟩ (by rw [hchildren]; exact List.mem_singleton_self _) ⟨0⟩ tables htables,
      if_pos rfl, hnames]

end Session

end ModelBinding
