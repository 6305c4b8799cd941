import ModelBinding.Link
import ModelBinding.Proofs.Lists
import ModelBinding.Proofs.WellFormed
import Mathlib.Algebra.BigOperators.Group.List.Basic
import Mathlib.Algebra.Ring.Nat

/-!
# The references of a document, one by one

The references of a node can be gone through property by property, or in the order in
which they were written with a running number for each property. Both ways meet every
reference once and under the same position (`Node.perm_placesByProperty`), so along the
walk both meet all references that a document holds
(`Document.perm_referencePlaces`, `Document.WellFormed.countP_places`).
-/

namespace ModelBinding

namespace Node

/-- The places of the references of a node in the order in which they were written: the property,
and the position among those of the property. -/
def places (n : Node) : List (Property × Nat) := n.numberedReferences.map fun r => (r.1, r.2.1)

/-- The places of the references of a node, property by property. -/
def placesByProperty (n : Node) : List (Property × Nat) :=
  n.referenceProperties.flatMap fun p =>
    (List.range (n.referencesOf p).length).map fun i => (p, i)

/-- A numbered reference stands, among those of its property, as far behind those of `seen` as it
stands behind the ones in the list. -/
theorem mem_numbered_iff {seen : List Property} {rs : List (Property × Reference)} {p : Property}
    {i : Nat} {ref : Reference} : (p, i, ref) ∈ numbered seen rs ↔
      ∃ j, i = seen.count p + j ∧ ((rs.filter (·.1 = p)).map (·.2))[j]? = some ref := by
  induction rs generalizing seen with
  | nil => simp [numbered]
  | cons r rs ih =>
    obtain ⟨q, r⟩ := r
    rw [numbered, List.mem_cons, ih]
    by_cases hq : q = p
    · subst hq
      rw [List.filter_cons_of_pos (by simp), List.map_cons, List.count_cons_self]
      constructor
      · rintro (heq | ⟨j, rfl, hj⟩)
        · cases heq
          exact ⟨0, rfl, rfl⟩
        · exact ⟨j + 1, by omega, hj⟩
      · rintro ⟨_ | j, rfl, hj⟩
        · cases hj
          exact Or.inl rfl
        · exact Or.inr ⟨j, by omega, hj⟩
    · rw [List.filter_cons_of_neg (by simpa using hq), List.count_cons_of_ne hq]
      refine or_iff_right fun heq => hq ?_
      cases heq
      rfl

/-- A reference is numbered as it is found. -/
theorem mem_numberedReferences_iff {n : Node} {p : Property} {i : Nat} {ref : Reference} :
    (p, i, ref) ∈ n.numberedReferences ↔ n.referenceAt? p i = some ref := by
  rw [numberedReferences, mem_numbered_iff]
  simp [referenceAt?, referencesOf]

/-- Numbering changes neither the properties nor their order. -/
theorem map_fst_numbered (seen : List Property) (rs : List (Property × Reference)) :
    (numbered seen rs).map (·.1) = rs.map (·.1) := by
  induction rs generalizing seen with
  | nil => rfl
  | cons r rs ih => rw [numbered, List.map_cons, List.map_cons, ih]

/-- No two references get the same number under one property. -/
theorem nodup_numbered (seen : List Property) (rs : List (Property × Reference)) :
    ((numbered seen rs).map fun r => (r.1, r.2.1)).Nodup := by
  induction rs generalizing seen with
  | nil => exact List.nodup_nil
  | cons r rs ih =>
    obtain ⟨q, r⟩ := r
    rw [numbered, List.map_cons, List.nodup_cons]
    refine ⟨fun hmem => ?_, ih (q :: seen)⟩
    obtain ⟨⟨p, i, ref⟩, hmem, heq⟩ := List.mem_map.1 hmem
    simp only [Prod.mk.injEq] at heq
    obtain ⟨rfl, hi⟩ := heq
    obtain ⟨j, hj, -⟩ := mem_numbered_iff.1 hmem
    rw [List.count_cons_self] at hj
    omega

/-- Every reference has one place. -/
theorem nodup_places (n : Node) : n.places.Nodup := nodup_numbered [] n.references

/-- There is a place for each reference that is found. -/
theorem mem_places_iff {n : Node} {p : Property} {i : Nat} :
    (p, i) ∈ n.places ↔ (n.referenceAt? p i).isSome := by
  rw [Option.isSome_iff_exists, places, List.mem_map]
  constructor
  · rintro ⟨⟨p, i, ref⟩, hmem, heq⟩
    cases heq
    exact ⟨ref, mem_numberedReferences_iff.1 hmem⟩
  · rintro ⟨ref, href⟩
    exact ⟨(p, i, ref), mem_numberedReferences_iff.2 href, rfl⟩

/-- Going through the references property by property meets each of them once too. -/
theorem perm_placesByProperty (n : Node) : n.placesByProperty.Perm n.places := by
  have hnodup : n.placesByProperty.Nodup := by
    rw [placesByProperty, List.nodup_flatMap]
    refine ⟨fun p _ => List.nodup_range.map fun i j hij => ?_, ?_⟩
    · simpa using hij
    · refine (nodup_eraseDups _).imp fun {p q} hne x hx hx' => hne ?_
      obtain ⟨_, -, rfl⟩ := List.mem_map.1 hx
      obtain ⟨_, -, heq⟩ := List.mem_map.1 hx'
      exact (congrArg Prod.fst heq).symm
  refine (List.perm_ext_iff_of_nodup hnodup n.nodup_places).2 fun ⟨p, i⟩ => ?_
  have hfound : (n.referenceAt? p i).isSome ↔ i < (n.referencesOf p).length := by
    simp [referenceAt?]
  rw [mem_places_iff, hfound, placesByProperty, List.mem_flatMap]
  constructor
  · rintro ⟨q, -, hmem⟩
    obtain ⟨j, hj, heq⟩ := List.mem_map.1 hmem
    cases heq
    exact List.mem_range.1 hj
  · intro hi
    refine ⟨p, ?_, List.mem_map.2 ⟨i, List.mem_range.2 hi, rfl⟩⟩
    -- A property with a reference at some position is among those of the references.
    obtain ⟨r, hr⟩ := List.exists_mem_of_length_pos (Nat.zero_lt_of_lt hi)
    obtain ⟨⟨q, r⟩, hfilter, rfl⟩ := List.mem_map.1 hr
    obtain ⟨hmem, hq⟩ := List.mem_filter.1 hfilter
    rw [decide_eq_true_eq] at hq
    exact hq ▸ List.mem_eraseDups.2 (List.mem_map_of_mem hmem)

end Node

namespace Document

variable {d : Document}

/-- The places of the references of one node of a document. -/
def placesAt (d : Document) (n : NodeId) : List (NodeId × Property × Nat) :=
  ((d.node? n).map fun node => node.places.map fun place => (n, place)).getD []

/-- The places of all references of a document: nodes in the order of the walk, and for each of them
its references in the order in which they were written. -/
def places (d : Document) : List (NodeId × Property × Nat) := d.walk.flatMap d.placesAt

/-- How many references the nodes of a document hold. -/
def referenceCount (d : Document) : Nat := (d.nodes.map (·.references.length)).sum

/-- Whether the reference at a place is the binding expression of an attribute mapping. -/
def isExpression (d : Document) (place : NodeId × Property × Nat) : Bool :=
  d.kind? place.1 = some .attributeMapping && place.2.1 = .expression

/-- How many binding expressions the attribute mappings of a document hold. -/
def expressionCount (d : Document) : Nat :=
  (d.nodes.map fun n =>
    if n.kind = .attributeMapping then n.references.countP (·.1 = .expression) else 0).sum

/-- Linking goes through all references of a document, in some order. -/
theorem perm_referencePlaces (d : Document) : (Snapshot.referencePlaces d).Perm d.places := by
  refine List.Perm.flatMap_left _ fun n _ => ?_
  cases hnode : d.node? n with
  | none => simp [placesAt, hnode]
  | some node =>
    have hgrouped : (node.referenceProperties.flatMap fun p =>
        (List.range (node.referencesOf p).length).map fun i => (n, p, i)) =
          node.placesByProperty.map fun place => (n, place) := by
      simp [Node.placesByProperty, List.map_flatMap, Function.comp_def]
    simp only [placesAt, hnode, Option.map_some, Option.getD_some, hgrouped]
    exact node.perm_placesByProperty.map _

/-- At a node there is a place for each reference that is found there. -/
theorem mem_placesAt_iff {n m : NodeId} {p : Property} {i : Nat} :
    (m, p, i) ∈ d.placesAt n ↔ m = n ∧ ((d.node? n).bind (·.referenceAt? p i)).isSome := by
  rw [placesAt]
  cases d.node? n with
  | none => simp
  | some node =>
    rw [Option.map_some, Option.getD_some, Option.bind_some, ← Node.mem_places_iff, List.mem_map]
    constructor
    · rintro ⟨place, hplace, heq⟩
      cases heq
      exact ⟨rfl, hplace⟩
    · rintro ⟨rfl, hplace⟩
      exact ⟨(p, i), hplace, rfl⟩

namespace WellFormed

variable (h : d.WellFormed)
include h

/-- A walk meets all written nodes once. -/
theorem perm_walk_written : (d.walk.filter (!d.isDerived ·)).Perm
    (((List.range d.size).map NodeId.mk).filter (!d.isDerived ·)) := by
  have htree := h.isTree_dropDerived
  have hrange : ((List.range d.size).map NodeId.mk).Nodup :=
    List.nodup_range.map fun i j hij => by simpa using hij
  rw [← walk_dropDerived]
  refine (List.perm_ext_iff_of_nodup htree.nodup_walk (hrange.filter _)).2 fun n => ?_
  obtain ⟨i⟩ := n
  have hle := h.parsedLen_le
  rw [htree.mem_walk_iff, size_dropDerived, List.mem_filter, List.mem_map]
  simp only [List.mem_range, NodeId.mk.injEq, exists_eq_right, isDerived, Bool.not_eq_true',
    decide_eq_false_iff_not]
  omega

variable (hderived : ∀ n, d.isDerived n = true → ∀ node, d.node? n = some node →
  node.references = [])
include hderived

omit h in
/-- There are no places where no references are. -/
theorem placesAt_eq_nil {n : NodeId} (hn : d.isDerived n = true) : d.placesAt n = [] := by
  rw [placesAt]
  cases hnode : d.node? n with
  | none => rfl
  | some node =>
    simp [Node.places, Node.numberedReferences, hderived n hn node hnode, Node.numbered]

/-- Every reference of the document has one place. -/
theorem nodup_places : d.places.Nodup := by
  rw [places, flatMap_written fun n => placesAt_eq_nil hderived, List.nodup_flatMap]
  refine ⟨fun n _ => ?_, ?_⟩
  · rw [placesAt]
    cases d.node? n with
    | none => exact List.nodup_nil
    | some node => exact node.nodup_places.map fun x y hxy => congrArg Prod.snd hxy
  · rw [← walk_dropDerived]
    refine h.isTree_dropDerived.nodup_walk.imp fun {n m} hne x hx hx' => hne ?_
    obtain ⟨k, p, i⟩ := x
    exact (mem_placesAt_iff.1 hx).1.symm.trans (mem_placesAt_iff.1 hx').1

/-- There is a place for each reference that is found in the document. -/
theorem mem_places_iff {n : NodeId} {p : Property} {i : Nat} :
    (n, p, i) ∈ d.places ↔ ((d.node? n).bind (·.referenceAt? p i)).isSome := by
  rw [places, List.mem_flatMap]
  constructor
  · rintro ⟨m, -, hplace⟩
    obtain ⟨rfl, hfound⟩ := mem_placesAt_iff.1 hplace
    exact hfound
  · intro hfound
    refine ⟨n, ?_, mem_placesAt_iff.2 ⟨rfl, hfound⟩⟩
    have hwritten : d.isDerived n = false := by
      by_contra hn
      have hnil := placesAt_eq_nil hderived (by simpa using hn)
      have hmem := mem_placesAt_iff.2 ⟨rfl, hfound⟩
      rw [hnil] at hmem
      cases hmem
    have hlt : n.index < d.size := by
      obtain ⟨node, hnode⟩ : ∃ node, d.node? n = some node :=
        Option.isSome_iff_exists.1 (Option.isSome_of_isSome_bind hfound)
      exact (node?_isSome_iff d n).1 (by simp [hnode])
    have hmem : n ∈ ((List.range d.size).map NodeId.mk).filter (!d.isDerived ·) :=
      List.mem_filter.2 ⟨List.mem_map.2 ⟨n.index, List.mem_range.2 hlt, rfl⟩, by simp [hwritten]⟩
    exact (List.mem_filter.1 (h.perm_walk_written.mem_iff.2 hmem)).1

/-- Places are counted along the walk as references are along the arena. -/
theorem countP_places {q : NodeId × Property × Nat → Bool} {c : Node → Nat}
    (hc : ∀ n node, d.node? n = some node →
      (node.places.countP fun place => q (n, place)) = c node) :
    d.places.countP q = (d.nodes.map c).sum := by
  have hg := fun n => placesAt_eq_nil hderived (n := n)
  have hperm : d.places.Perm (((List.range d.size).map NodeId.mk).flatMap d.placesAt) := by
    rw [places, flatMap_written hg, flatMap_written hg ((List.range d.size).map _)]
    exact h.perm_walk_written.flatMap_right _
  rw [hperm.countP_eq, List.countP_flatMap, List.map_map]
  refine congrArg List.sum (List.ext_getElem (by simp [size]) fun i hi _ => ?_)
  have hlt : i < d.nodes.length := by simpa [size] using hi
  have hnode : d.node? ⟨i⟩ = some d.nodes[i] := List.getElem?_eq_getElem hlt
  simp only [List.getElem_map, List.getElem_range, Function.comp_apply, placesAt, hnode,
    Option.map_some, Option.getD_some, List.countP_map]
  exact hc ⟨i⟩ _ hnode

/-- There are as many places as references. -/
theorem length_places : d.places.length = d.referenceCount := by
  rw [← List.countP_true, h.countP_places hderived (c := fun n => n.references.length)]
  · rfl
  · intro n node _
    have hlength := congrArg List.length (Node.map_fst_numbered [] node.references)
    rw [List.length_map, List.length_map] at hlength
    rw [List.countP_true, Node.places, List.length_map, Node.numberedReferences, hlength]

/-- There are as many places of binding expressions as attribute mappings hold. -/
theorem countP_isExpression : d.places.countP d.isExpression = d.expressionCount := by
  refine h.countP_places hderived fun n node hnode => ?_
  have hkind : d.kind? n = some node.kind := by rw [kind?, hnode, Option.map_some]
  simp only [isExpression, hkind, Option.some.injEq]
  split
  · rename_i hmapping
    have hfst := congrArg (List.countP (· = .expression)) (Node.map_fst_numbered [] node.references)
    rw [List.countP_map, List.countP_map] at hfst
    rw [Node.places, List.countP_map, Node.numberedReferences]
    simp only [hmapping, decide_true, Bool.true_and]
    exact hfst
  · rename_i hmapping
    simp [hmapping]

end WellFormed

end Document

end ModelBinding
