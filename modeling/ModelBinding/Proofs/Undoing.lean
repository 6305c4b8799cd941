import ModelBinding.Proofs.Descriptions
import ModelBinding.Proofs.Origin

/-!
# Undoing a plan

Applying a plan to the document it was made for only appends: the copies to the arena and
to the lists of children of the views they are for, and descriptions of the copies to the
container tables (`Derivation.Appends`). Where nothing was derived before, dropping what
is derived then gives back the document, whatever the plan was made with
(`Document.Underived.appends_apply_plan`).
-/

namespace ModelBinding

/-- The places that the document `e`, which has grown from `d`, has behind those of `d`, in order. -/
def Document.added (d e : Document) : List NodeId :=
  (List.range' d.size (e.size - d.size)).map NodeId.mk

/-- They are those that `d` does not have. -/
theorem Document.mem_added_iff {d e : Document} {n : NodeId} :
    n ∈ d.added e ↔ d.size ≤ n.index ∧ n.index < e.size := by
  obtain ⟨i⟩ := n
  simp only [added, List.mem_map, List.mem_range'_1, NodeId.mk.injEq, exists_eq_right]
  omega

/-- That a copy stands at a place, inside the node it is for. -/
def Document.HoldsCopy (d : Document) (n : NodeId) (c : NodeId × Node) : Prop :=
  ∃ g, d.node? n = some { c.2 with parent := some c.1, globalId := g }

namespace Derivation

/-- That a plan for a document, applied to it and to its tables, has appended its copies and done
nothing else. -/
structure Appends (registry : Registry) (p : DerivationPlan) (d : Document) (tables : LocalTables)
    (s : Derivation) : Prop where
  /-- The document has kept its number. -/
  id_eq : s.document.id = d.id
  /-- The document has kept its address. -/
  uri_eq : s.document.uri = d.uri
  /-- As much is written as before. -/
  parsedLen_eq : s.document.parsedLen = d.parsedLen
  /-- As many copies were made as the plan counts. -/
  created_eq : s.created = p.attributeCount
  /-- They stand behind what was there, each at one place. -/
  size_eq : s.document.size = d.size + p.attributeCount
  /-- They are the copies of the plan in order, each inside the node it is for. -/
  copies : List.Forall₂ s.document.HoldsCopy (d.added s.document) p.copies
  /-- These nodes are views of the plan, and viewing nodes of the document. -/
  exists_view : ∀ n ∈ d.added s.document, ∃ v ∈ p.views, s.document.parent? n = some v.view ∧
    ∃ kind, d.kind? v.view = some kind ∧ kind.isEntityView = true
  /-- A node that was there has got the new nodes inside it as further children, in order, and is
  otherwise as it was. -/
  node?_old : ∀ n, n.index < d.size → s.document.node? n = (d.node? n).map fun m =>
    { m with children := m.children ++
        (d.added s.document).filter (s.document.parent? · = some n) }
  /-- Without the derived nodes the document is what it was. -/
  dropDerived_eq : s.document.dropDerived = d
  /-- The tables have got further entries at the end, which describe new nodes. -/
  tables_eq : ∃ more, s.tables = tables.append more ∧ ∀ entry ∈ more,
    entry.2.node.node ∈ d.added s.document ∧ entry.2.Fits registry s.document ∧
      entry.2.NamedIn registry s.document

variable {registry : Registry} {d : Document} {tables : LocalTables}

namespace Copied

variable {copies : List (NodeId × Node)} {s : Derivation} (h : Copied registry d tables copies s)
include h

/-- The new places are those of the copies. -/
theorem added_eq : d.added s.document = (copies.zipIdx d.size).map fun c => ⟨c.2⟩ := by
  have hlen : s.document.size - d.size = copies.length := by
    have hsize := h.size_eq
    omega
  rw [Document.added, hlen, ← List.zipIdx_map_snd, List.map_map]
  rfl

/-- At the new places stand the copies in order, each inside the node it is for. -/
theorem forall₂_added : List.Forall₂ s.document.HoldsCopy (d.added s.document) copies := by
  have hplaces : List.Forall₂ s.document.HoldsCopy
      ((copies.zipIdx d.size).map fun c => ⟨c.2⟩) ((copies.zipIdx d.size).map (·.1)) := by
    rw [List.forall₂_map_left_iff, List.forall₂_map_right_iff, List.forall₂_same]
    intro c hc
    exact h.node?_of_mem_zipIdx hc
  rwa [List.zipIdx_map_fst, ← h.added_eq] at hplaces

/-- What a node has got as further children are the new nodes inside it. -/
theorem copyPlaces_eq (n : NodeId) : copyPlaces d.size copies n =
    (d.added s.document).filter (s.document.parent? · = some n) := by
  rw [h.added_eq, List.filter_map, copyPlaces]
  congr 1
  apply List.filter_congr
  intro c hc
  have hparent := h.parent?_of_mem_zipIdx hc
  simp [hparent]

/-- The further entries of the tables describe new nodes. -/
theorem exists_entries (hlen : d.parsedLen = d.size) :
    ∃ more, s.tables = tables.append more ∧ ∀ entry ∈ more,
      entry.2.node.node ∈ d.added s.document ∧ entry.2.Fits registry s.document ∧
        entry.2.NamedIn registry s.document := by
  refine ⟨_, h.tables_eq, ?_⟩
  intro entry hentry
  obtain ⟨⟨c, i⟩, hc, hentry⟩ := List.mem_flatMap.1 hentry
  have hplace : entry.2.node.node = ⟨i⟩ := congrArg NodePtr.node (of_mem_copyEntries hentry).1
  constructor
  · rw [hplace, h.added_eq]
    exact List.mem_map.2 ⟨(c, i), hc, rfl⟩
  · exact h.fits_of_mem_copyEntries hlen hc hentry

end Copied

end Derivation

/-- The copies of a plan are for views of the plan, which are viewing nodes of its document. -/
theorem Resolver.exists_view_of_mem_copies_plan {r : Resolver} {d : Document} {c : NodeId × Node}
    (h : c ∈ (r.plan d).copies) : ∃ v ∈ (r.plan d).views, v.view = c.1 ∧
      ∃ kind, d.kind? v.view = some kind ∧ kind.isEntityView = true := by
  obtain ⟨v, hv, hc⟩ := List.mem_flatMap.1 h
  obtain ⟨copy, -, rfl⟩ := List.mem_map.1 hc
  obtain ⟨kind, hkind, hderived⟩ := of_mem_copies_plan h
  refine ⟨v, hv, rfl, kind, hkind, ?_⟩
  rw [NodeKind.isEntityView, hderived]
  rfl

namespace Document

/-- Applying a plan to a document without derived nodes, made for it with whatever resolver, only
appends, and dropping the derived nodes takes it back. -/
theorem Underived.appends_apply_plan {d : Document} (h : d.Underived) (r : Resolver)
    (registry : Registry) (tables : LocalTables) :
    Derivation.Appends registry (r.plan d) d tables ((r.plan d).apply registry d tables) := by
  have hcopied := r.copied_apply_plan d registry tables
  have hgrown := Derivation.grownFrom_apply registry (r.plan d) (Nat.le_of_eq h.parsedLen_eq) tables
  -- What is counted and what is planned are both what the arena has grown by.
  have hcreated := Derivation.size_apply registry (r.plan d) d tables
  have hsize := hcopied.size_eq
  rw [DerivationPlan.length_copies] at hsize
  have hdrop : d.dropDerived = d := (dropDerived_eq_iff (Nat.le_of_eq h.parsedLen_eq)).2 h
  constructor
  case id_eq => exact hcopied.id_eq
  case uri_eq => exact hcopied.uri_eq
  case parsedLen_eq => exact hcopied.parsedLen_eq
  case created_eq => omega
  case size_eq => exact hsize
  case copies => exact hcopied.forall₂_added
  case exists_view =>
    intro n hn
    rw [mem_added_iff] at hn
    obtain ⟨c, hc⟩ := hcopied.exists_mem_zipIdx hn.1 hn.2
    obtain ⟨v, hv, hview, hkind⟩ :=
      Resolver.exists_view_of_mem_copies_plan (List.fst_mem_of_mem_zipIdx hc)
    rw [hcopied.parent?_of_mem_zipIdx hc, ← hview]
    exact ⟨v, hv, rfl, hkind⟩
  case node?_old =>
    intro n hn
    rw [hcopied.node?_old n hn, hcopied.copyPlaces_eq]
  case dropDerived_eq => rw [hgrown.dropDerived_eq, hdrop]
  case tables_eq => exact hcopied.exists_entries h.parsedLen_eq

/-- A document with a mapping whose source and target view different entities, one of them with an
attribute that has no identifier. -/
def selling : Document :=
  .ofDrafts "file:///shop/a.cm"
    [(.root, { kind := .logicalEntity, id := some "Party" }),
      (⟨1⟩, { kind := .logicalAttribute, id := some "Name" }),
      (⟨1⟩, { kind := .logicalAttribute }),
      (.root, { kind := .logicalEntity, id := some "Sale" }),
      (⟨4⟩, { kind := .logicalAttribute, id := some "Total" }),
      (.root, { kind := .mapping, id := some "Load" }),
      (⟨6⟩, { kind := .sourceObject, id := some "S", references := [(.entity, "Party")] }),
      (⟨6⟩, { kind := .targetObject, id := some "T", references := [(.entity, "Sale")] })]

/-- The snapshot in which it has been exported. -/
def sellingExported : Snapshot :=
  ((Session.start Session.shopRegistry).run [.set selling]).host.exportDocument ⟨0⟩

/-- The document as it is in that snapshot. -/
def sellingPrepared : Document :=
  ({ selling with id := ⟨0⟩ } : Document).prepare Session.shopRegistry

/-- With its plan applied the source has two further children and the target has one, and three
names are described, the last of them in the table of the target. Dropping the derived nodes takes
this back. -/
theorem appends_apply_plan_selling : sellingPrepared.Underived ∧
    ∃ s, (sellingExported.resolver.plan sellingPrepared).apply Session.shopRegistry sellingPrepared
        (sellingPrepared.localTables Session.shopRegistry) = s ∧
      s.created = 3 ∧ s.document.children ⟨7⟩ = [⟨9⟩, ⟨10⟩] ∧ s.document.children ⟨8⟩ = [⟨11⟩] ∧
      (s.tables.entries.drop
          (sellingPrepared.localTables Session.shopRegistry).size).map (fun e => (e.1, e.2.name)) =
        [(⟨6⟩, "S.Name"), (⟨6⟩, "T.Total"), (⟨8⟩, "Total")] ∧
      Derivation.Appends Session.shopRegistry (sellingExported.resolver.plan sellingPrepared)
        sellingPrepared (sellingPrepared.localTables Session.shopRegistry) s := by
  have hunderived : sellingPrepared.Underived :=
    underived_prepare _ Session.shopRegistry (by decide)
  refine ⟨hunderived, _, rfl, by decide +kernel, by decide +kernel, by decide +kernel,
    by decide +kernel, ?_⟩
  exact hunderived.appends_apply_plan sellingExported.resolver Session.shopRegistry _

end Document

end ModelBinding
