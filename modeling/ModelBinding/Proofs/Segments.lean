import ModelBinding.Proofs.Meaning

/-!
# Names and their segments

Segments without separators can be read back from the name that they are joined to
(`Name.join_inj`). So where no identifier holds a separator a Local ID tells the
identifiers on the way from the root down to the node, and where no reference name does
and these are distinct a Global ID tells the data model as well
(`Registry.names_inj_iff`).
-/

namespace ModelBinding

namespace Name

variable {segments others : List String}

/-- A joined name has the segments again between its separators. -/
theorem splitOn_join (hne : segments ≠ []) (hplain : ∀ s ∈ segments, separator ∉ s.toList) :
    (join segments).toList.splitOn separator = segments.map String.toList := by
  have hchars : (join segments).toList = [separator].intercalate (segments.map String.toList) := by
    rw [join, String.toList_intercalate, String.toList_singleton]
  rw [hchars]
  apply List.splitOn_intercalate
  · intro chars hmem
    obtain ⟨s, hs, rfl⟩ := List.mem_map.1 hmem
    exact hplain s hs
  · simpa using hne

/-- Different segments without separators are joined to different names. -/
theorem join_inj (hne : segments ≠ []) (hplain : ∀ s ∈ segments, separator ∉ s.toList)
    (hne' : others ≠ []) (hplain' : ∀ s ∈ others, separator ∉ s.toList) :
    join segments = join others ↔ segments = others := by
  constructor
  · intro h
    have hsplit := splitOn_join hne hplain
    rw [h, splitOn_join hne' hplain'] at hsplit
    exact (List.map_injective_iff.2 fun _ _ heq => String.toList_inj.1 heq) hsplit.symm
  · rintro rfl
    rfl

/-- A qualified name has the segments of both parts. -/
theorem segmentCount_qualify (outer inner : String) :
    segmentCount (qualify outer inner) = segmentCount outer + segmentCount inner := by
  simp only [segmentCount, qualify, String.toList_append, String.toList_singleton,
    List.count_append, List.count_singleton_self]
  omega

/-- As many segments without separators as are joined are counted. -/
theorem segmentCount_join (hne : segments ≠ []) (hplain : ∀ s ∈ segments, separator ∉ s.toList) :
    segmentCount (join segments) = segments.length := by
  induction segments with
  | nil => exact absurd rfl hne
  | cons s rest ih =>
    have hone : segmentCount s = 1 := by
      rw [segmentCount, List.count_eq_zero_of_not_mem (hplain s (List.mem_cons_self ..))]
    by_cases hrest : rest = []
    · rw [hrest, join_singleton, hone]
      rfl
    · have hcount := ih hrest fun t ht => hplain t (List.mem_cons_of_mem s ht)
      rw [← List.singleton_append, join_append (by simp) hrest, join_singleton,
        segmentCount_qualify, hone, hcount, List.length_append, List.length_singleton]

end Name

namespace Document

variable {d : Document} {n : NodeId}

/-- The identifiers of a node and its containers that have one, from the root down. -/
def idPath (d : Document) (n : NodeId) : List String :=
  ((n :: d.ancestors n).filterMap d.ownId?).reverse

/-- No identifier in the document holds a separator. -/
def HasPlainIds (d : Document) : Prop :=
  ∀ n own, d.ownId? n = some own → Name.separator ∉ own.toList

theorem hasPlainIds_iff :
    d.HasPlainIds ↔ ∀ node ∈ d.nodes, ∀ own ∈ node.ownId?, Name.separator ∉ own.toList := by
  constructor
  · intro h node hnode own hown
    obtain ⟨i, hi⟩ := List.mem_iff_getElem?.1 hnode
    apply h ⟨i⟩
    rw [ownId?, node?, hi]
    exact hown
  · intro h n own hown
    obtain ⟨node, hnode, hown⟩ := Option.bind_eq_some_iff.1 hown
    exact h node (List.mem_of_getElem? hnode) own hown

instance (d : Document) : Decidable d.HasPlainIds := decidable_of_iff _ hasPlainIds_iff.symm

theorem HasPlainIds.of_mem_idPath (h : d.HasPlainIds) {own : String} (hown : own ∈ d.idPath n) :
    Name.separator ∉ own.toList := by
  obtain ⟨a, -, ha⟩ := List.mem_filterMap.1 (List.mem_reverse.1 hown)
  exact h a own ha

/-- Down to a node with an identifier the last identifier is its own. -/
theorem idPath_eq {own : String} (hown : d.ownId? n = some own) :
    d.idPath n = d.containerIds n ++ [own] := by
  rw [idPath, List.filterMap_cons_some hown, List.reverse_cons, containerIds]

theorem idPath_ne_nil (hown : (d.ownId? n).isSome) : d.idPath n ≠ [] := by
  obtain ⟨own, hown⟩ := Option.isSome_iff_exists.1 hown
  rw [idPath_eq hown]
  simp

/-- On the way down to a node with an identifier stand the identifiers of its containers and its
own. -/
theorem length_idPath (hown : (d.ownId? n).isSome) :
    (d.idPath n).length = (d.ancestors n).countP (fun a => (d.ownId? a).isSome) + 1 := by
  obtain ⟨own, hown⟩ := Option.isSome_iff_exists.1 hown
  rw [idPath_eq hown, List.length_append, containerIds, List.length_reverse,
    List.length_filterMap_eq_countP]
  rfl

/-- A node with an identifier has a Local ID, which joins the identifiers on the way down. -/
theorem localId?_eq_some_iff {l : String} :
    d.localId? n = some l ↔ (d.ownId? n).isSome ∧ l = Name.join (d.idPath n) := by
  rw [localId?]
  cases hown : d.ownId? n with
  | none => simp
  | some own => simp [idPath_eq hown, eq_comm]

/-- Whether a node has a name for other data models, if its own data model has one. -/
def IsNamed (d : Document) (n : NodeId) : Prop :=
  d.kind? n = some .dataModel ∨ (d.ownId? n).isSome

/-- What stands behind the reference name in the Global ID of a node: nothing for a data model
node. -/
def globalPath (d : Document) (n : NodeId) : List String :=
  if d.kind? n = some .dataModel then [] else d.idPath n

theorem HasPlainIds.of_mem_globalPath (h : d.HasPlainIds) {own : String}
    (hown : own ∈ d.globalPath n) : Name.separator ∉ own.toList := by
  unfold globalPath at hown
  split at hown
  · cases hown
  · exact h.of_mem_idPath hown

/-- Under a reference name the Global ID of a node joins this name and what stands behind it. -/
theorem qualifiedId?_eq_some_iff {name g : String} :
    d.qualifiedId? n name = some g ↔ d.IsNamed n ∧ g = Name.join (name :: d.globalPath n) := by
  rw [qualifiedId?, IsNamed, globalPath]
  cases hkind : d.kind? n with
  | none =>
    have hnone : d.ownId? n = none := by
      rw [ownId?, Option.map_eq_none_iff.1 hkind, Option.bind_none]
    simp [hnone]
  | some kind =>
    rw [Option.bind_some]
    by_cases hdata : kind = .dataModel
    · rw [if_pos hdata, if_pos (congrArg some hdata), Name.join_singleton]
      simp only [hdata, true_or, true_and, Option.some.injEq]
      exact eq_comm
    · have hne : ¬ some kind = some NodeKind.dataModel := fun heq => hdata (Option.some.inj heq)
      have hjoin (hown : (d.ownId? n).isSome) :
          Name.qualify name (Name.join (d.idPath n)) = Name.join (name :: d.idPath n) := by
        rw [← List.singleton_append, Name.join_append (by simp) (idPath_ne_nil hown),
          Name.join_singleton]
      simp only [if_neg hdata, hne, false_or, Option.map_eq_some_iff,
        localId?_eq_some_iff]
      constructor
      · rintro ⟨l, ⟨hown, rfl⟩, rfl⟩
        exact ⟨hown, hjoin hown⟩
      · rintro ⟨hown, rfl⟩
        exact ⟨_, ⟨hown, rfl⟩, hjoin hown⟩

/-- The same stands behind the reference name for data model nodes, and for other nodes with
identifiers where the identifiers on the way down are the same. -/
theorem globalPath_eq_iff {e : Document} {k : NodeId} :
    d.IsNamed n ∧ e.IsNamed k ∧ d.globalPath n = e.globalPath k ↔
      (d.kind? n = some .dataModel ∧ e.kind? k = some .dataModel) ∨
        (d.kind? n ≠ some .dataModel ∧ e.kind? k ≠ some .dataModel ∧
          (d.ownId? n).isSome ∧ (e.ownId? k).isSome ∧ d.idPath n = e.idPath k) := by
  simp only [IsNamed, globalPath]
  by_cases hn : d.kind? n = some .dataModel <;> by_cases hk : e.kind? k = some .dataModel
  · simp [hn, hk]
  · simp only [hn, hk, true_or, false_or, true_and, if_true, if_false, and_false, not_true,
      false_and, ne_eq, or_self, iff_false, not_and]
    intro hown hpath
    exact idPath_ne_nil hown hpath.symm
  · simp only [hn, hk, true_or, false_or, true_and, if_true, if_false, false_and, not_true,
      and_false, ne_eq, or_self, iff_false, not_and]
    intro hown hpath
    exact idPath_ne_nil hown hpath
  · simp [hn, hk]

end Document

namespace Registry

variable {r : Registry} {d e : Document} {n k : NodeId}

/-- No reference name holds a separator, and no two data models share one. -/
structure HasPlainNames (r : Registry) : Prop where
  /-- Reference names are single segments. -/
  plain : ∀ m ∈ r.models, Name.separator ∉ m.referenceName.toList
  /-- They are distinct. -/
  nodup : (r.models.map (·.referenceName)).Nodup

theorem hasPlainNames_iff : r.HasPlainNames ↔
    (∀ m ∈ r.models, Name.separator ∉ m.referenceName.toList) ∧
      (r.models.map (·.referenceName)).Nodup := by
  constructor
  · intro h
    exact ⟨h.plain, h.nodup⟩
  · rintro ⟨hplain, hnodup⟩
    exact ⟨hplain, hnodup⟩

instance (r : Registry) : Decidable r.HasPlainNames := decidable_of_iff _ hasPlainNames_iff.symm

theorem exists_model_of_referenceName? {m : DataModelId} {name : String}
    (h : r.referenceName? m = some name) :
    ∃ model ∈ r.models, model.id = m ∧ model.referenceName = name := by
  obtain ⟨model, hmodel, rfl⟩ := Option.map_eq_some_iff.1 h
  exact ⟨model, List.mem_of_find?_eq_some hmodel, by simpa using List.find?_some hmodel, rfl⟩

namespace HasPlainNames

variable (h : r.HasPlainNames)
include h

theorem of_referenceName? {m : DataModelId} {name : String}
    (hname : r.referenceName? m = some name) : Name.separator ∉ name.toList := by
  obtain ⟨model, hmem, -, rfl⟩ := exists_model_of_referenceName? hname
  exact h.plain model hmem

/-- A reference name tells the data model. -/
theorem eq_of_referenceName? {m m' : DataModelId} {name : String}
    (hname : r.referenceName? m = some name) (hname' : r.referenceName? m' = some name) :
    m = m' := by
  obtain ⟨model, hmem, rfl, rfl⟩ := exists_model_of_referenceName? hname
  obtain ⟨model', hmem', rfl, heq⟩ := exists_model_of_referenceName? hname'
  rw [List.inj_on_of_nodup_map h.nodup hmem hmem' heq.symm]

/-- The segments of a Global ID hold no separators. -/
theorem plain_cons (hd : d.HasPlainIds) {m : DataModelId} {name : String}
    (hname : r.referenceName? m = some name) (n : NodeId) :
    ∀ s ∈ name :: d.globalPath n, Name.separator ∉ s.toList :=
  List.forall_mem_cons.2 ⟨h.of_referenceName? hname, fun _ => hd.of_mem_globalPath⟩

end HasPlainNames

/-- A Global ID is one that the reference name of the document's data model gives. -/
theorem globalId?_eq_some_iff {g : String} :
    r.globalId? d n = some g ↔ ∃ m name, r.modelOf? d = some m ∧ r.referenceName? m = some name ∧
      d.qualifiedId? n name = some g := by
  rw [globalId?, Option.none_or, Option.bind_eq_some_iff]
  simp only [Option.bind_eq_some_iff]
  constructor
  · rintro ⟨name, ⟨m, hm, hname⟩, hg⟩
    exact ⟨m, name, hm, hname, hg⟩
  · rintro ⟨m, name, hm, hname, hg⟩
    exact ⟨name, ⟨m, hm, hname⟩, hg⟩

/-- Where neither identifiers nor reference names hold separators and the latter are distinct, Local
IDs are equal for equal identifiers on the way down, and Global IDs for one data model and, data
model nodes apart, equal identifiers on the way down. A Global ID has a segment for the data model,
one for the node and one for each of its containers with an identifier. -/
theorem names_inj_iff (hr : r.HasPlainNames) (hd : d.HasPlainIds) (he : e.HasPlainIds)
    (n k : NodeId) :
    ((∃ l, d.localId? n = some l ∧ e.localId? k = some l) ↔
      (d.ownId? n).isSome ∧ (e.ownId? k).isSome ∧ d.idPath n = e.idPath k) ∧
    ((∃ g, r.globalId? d n = some g ∧ r.globalId? e k = some g) ↔
      ∃ m, r.modelOf? d = some m ∧ r.modelOf? e = some m ∧
        ((d.kind? n = some .dataModel ∧ e.kind? k = some .dataModel) ∨
          (d.kind? n ≠ some .dataModel ∧ e.kind? k ≠ some .dataModel ∧
            (d.ownId? n).isSome ∧ (e.ownId? k).isSome ∧ d.idPath n = e.idPath k))) ∧
    ∀ g, r.globalId? d n = some g → d.kind? n ≠ some .dataModel →
      Name.segmentCount g = 2 + (d.ancestors n).countP fun a => (d.ownId? a).isSome := by
  refine ⟨?_, ?_, ?_⟩
  · constructor
    · rintro ⟨l, hl, hl'⟩
      obtain ⟨hown, rfl⟩ := Document.localId?_eq_some_iff.1 hl
      obtain ⟨hown', hjoin⟩ := Document.localId?_eq_some_iff.1 hl'
      refine ⟨hown, hown', ?_⟩
      exact (Name.join_inj (Document.idPath_ne_nil hown) (fun _ => hd.of_mem_idPath)
        (Document.idPath_ne_nil hown') fun _ => he.of_mem_idPath).1 hjoin
    · rintro ⟨hown, hown', hpath⟩
      refine ⟨Name.join (d.idPath n), Document.localId?_eq_some_iff.2 ⟨hown, rfl⟩, ?_⟩
      exact Document.localId?_eq_some_iff.2 ⟨hown', by rw [hpath]⟩
  · constructor
    · rintro ⟨g, hg, hg'⟩
      obtain ⟨m, name, hm, hname, hqualified⟩ := globalId?_eq_some_iff.1 hg
      obtain ⟨m', name', hm', hname', hqualified'⟩ := globalId?_eq_some_iff.1 hg'
      obtain ⟨hnamed, rfl⟩ := Document.qualifiedId?_eq_some_iff.1 hqualified
      obtain ⟨hnamed', hjoin⟩ := Document.qualifiedId?_eq_some_iff.1 hqualified'
      have hsegments : name :: d.globalPath n = name' :: e.globalPath k :=
        (Name.join_inj (by simp) (hr.plain_cons hd hname n) (by simp)
          (hr.plain_cons he hname' k)).1 hjoin
      obtain ⟨rfl, hpath⟩ := List.cons.inj hsegments
      obtain rfl : m = m' := hr.eq_of_referenceName? hname hname'
      exact ⟨m, hm, hm', Document.globalPath_eq_iff.1 ⟨hnamed, hnamed', hpath⟩⟩
    · rintro ⟨m, hm, hm', hcases⟩
      obtain ⟨hnamed, hnamed', hpath⟩ := Document.globalPath_eq_iff.2 hcases
      obtain ⟨name, hname⟩ := exists_referenceName?_of_owner? hm
      refine ⟨Name.join (name :: d.globalPath n), ?_, ?_⟩
      · exact globalId?_eq_some_iff.2
          ⟨m, name, hm, hname, Document.qualifiedId?_eq_some_iff.2 ⟨hnamed, rfl⟩⟩
      · exact globalId?_eq_some_iff.2
          ⟨m, name, hm', hname, Document.qualifiedId?_eq_some_iff.2 ⟨hnamed', by rw [hpath]⟩⟩
  · intro g hg hdata
    obtain ⟨m, name, hm, hname, hqualified⟩ := globalId?_eq_some_iff.1 hg
    obtain ⟨hnamed, rfl⟩ := Document.qualifiedId?_eq_some_iff.1 hqualified
    have hown : (d.ownId? n).isSome := hnamed.resolve_left hdata
    have hlength := Document.length_idPath hown
    rw [Name.segmentCount_join (by simp) (hr.plain_cons hd hname n), List.length_cons,
      Document.globalPath, if_neg hdata]
    omega

/-- Two data models with a name of one segment each. -/
def corePair : Registry :=
  { models := [{ id := ⟨"core"⟩, referenceName := "core", root := "file:///core" },
      { id := ⟨"shop"⟩, referenceName := "shop", root := "file:///shop" }] }

/-- A document in which an attribute stands inside a mapping and a source object with a certain
identifier or none. -/
def mappingAround (uri : String) (source : Option String) : Document :=
  .ofDrafts uri
    [(.root, { kind := .mapping, id := some "Load" }),
      (⟨1⟩, { kind := .sourceObject, id := source }),
      (⟨2⟩, { kind := .sourceObjectAttribute, id := some "x" })]

/-- An empty identifier counts as none: the attributes have the same names, of three segments. -/
theorem names_inj_iff_mappingAround :
    (∃ l, (mappingAround "file:///core/a.cm" none).localId? ⟨3⟩ = some l ∧
      (mappingAround "file:///core/b.cm" (some "")).localId? ⟨3⟩ = some l) ∧
    (∃ g, corePair.globalId? (mappingAround "file:///core/a.cm" none) ⟨3⟩ = some g ∧
      corePair.globalId? (mappingAround "file:///core/b.cm" (some "")) ⟨3⟩ = some g) ∧
    ∀ g, corePair.globalId? (mappingAround "file:///core/a.cm" none) ⟨3⟩ = some g →
      Name.segmentCount g = 3 := by
  obtain ⟨hlocal, hglobal, hcount⟩ := names_inj_iff (r := corePair)
    (d := mappingAround "file:///core/a.cm" none)
    (e := mappingAround "file:///core/b.cm" (some "")) (by decide +kernel) (by decide +kernel)
    (by decide +kernel) ⟨3⟩ ⟨3⟩
  have hpath : (mappingAround "file:///core/a.cm" none).idPath ⟨3⟩ =
      (mappingAround "file:///core/b.cm" (some "")).idPath ⟨3⟩ := by
    decide +kernel
  refine ⟨hlocal.2 ⟨by decide +kernel, by decide +kernel, hpath⟩, ?_, ?_⟩
  · apply hglobal.2
    refine ⟨⟨"core"⟩, by decide +kernel, by decide +kernel, Or.inr ?_⟩
    exact ⟨by decide +kernel, by decide +kernel, by decide +kernel, by decide +kernel, hpath⟩
  · intro g hg
    rw [hcount g hg (by decide +kernel)]
    decide +kernel

end Registry

end ModelBinding
