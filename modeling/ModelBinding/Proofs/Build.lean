import ModelBinding.Proofs.Index
import ModelBinding.Proofs.Workspace
import ModelBinding.Proofs.Written

/-!
# What a build does

A snapshot holds three things for every document: the document, its exports and its
container tables. A build treats them document by document (`part_build_of_mem`): what
it makes of one that is out of date follows from that document and from the snapshot
that the exports of all of them gave. Of the others only what references remember is
lost (`part_build_of_notMem`).
-/

namespace ModelBinding

/-- What a snapshot holds for one document. -/
structure Part where
  /-- The document. -/
  document : Option Document
  /-- Its exports. -/
  exports : Option (List Description)
  /-- Its container tables. -/
  tables : Option LocalTables

namespace Part

/-- The part of a document that has been exported. -/
def exported (p : Part) (r : Registry) : Part :=
  match p.document with
  | none => p
  | some d =>
    ⟨some (d.prepare r), some ((d.prepare r).exports r), some ((d.prepare r).localTables r)⟩

/-- The part of a document to which a plan has been applied. -/
def derived (p : Part) (r : Registry) (plan : DerivationPlan) : Part :=
  match p.document with
  | none => p
  | some d =>
    let grown := plan.apply r d (p.tables.getD .empty)
    ⟨some grown.document, p.exports, some grown.tables⟩

/-- The part of a document whose references have been forgotten. -/
def reset (p : Part) : Part := { p with document := p.document.map (·.resetReferences) }

/-- Exporting again changes nothing. -/
@[simp] theorem exported_exported (p : Part) (r : Registry) :
    (p.exported r).exported r = p.exported r := by
  obtain ⟨document, exports, tables⟩ := p
  cases document with
  | none => rfl
  | some d => simp [exported]

end Part

namespace Snapshot

/-- What the snapshot holds for a document. -/
def part (s : Snapshot) (id : DocumentId) : Part :=
  ⟨s.workspace.get? id, s.index.exports.get? id, s.index.locals? id⟩

section Export

/-- An export leaves the registry alone. -/
@[simp] theorem registry_exportDocument (s : Snapshot) (id : DocumentId) :
    (s.exportDocument id).registry = s.registry := by
  unfold exportDocument
  split <;> rfl

/-- An export concerns one document. -/
theorem part_exportDocument (s : Snapshot) (id j : DocumentId) :
    (s.exportDocument id).part j =
      if j = id then (s.part j).exported s.registry else s.part j := by
  cases hd : s.workspace.get? id with
  | none =>
    have hsame : s.exportDocument id = s := by simp only [exportDocument, hd]
    rw [hsame]
    split
    · subst ‹j = id›
      simp [Part.exported, part, hd]
    · rfl
  | some d =>
    simp only [exportDocument, hd, part, Workspace.get?_modify_const hd, Index.setExports,
      Index.setLocals, Index.locals?, Index.exports_forgetKinds, Index.locals_forgetKinds,
      Keyed.get?_insert]
    split
    · subst ‹j = id›
      simp [Part.exported, hd]
    · rfl

/-- Exports concern the documents that are exported. -/
theorem part_foldl_exportDocument (ids : List DocumentId) (s : Snapshot) (j : DocumentId) :
    (ids.foldl exportDocument s).registry = s.registry ∧
      (ids.foldl exportDocument s).part j =
        if j ∈ ids then (s.part j).exported s.registry else s.part j := by
  induction ids generalizing s with
  | nil => exact ⟨rfl, rfl⟩
  | cons id ids ih =>
    obtain ⟨hregistry, hpart⟩ := ih (s.exportDocument id)
    rw [List.foldl_cons, hregistry, hpart, registry_exportDocument, part_exportDocument]
    refine ⟨rfl, ?_⟩
    by_cases hid : j = id
    · subst hid
      simp
    · simp [hid]

/-- Exporting leaves the registry alone. -/
@[simp] theorem registry_exportAll (s : Snapshot) (ids : List DocumentId) :
    (s.exportAll ids).registry = s.registry :=
  (part_foldl_exportDocument _ s .unassigned).1

/-- Exporting concerns the documents that are exported. -/
theorem part_exportAll (s : Snapshot) (ids : List DocumentId) (j : DocumentId) :
    (s.exportAll ids).part j =
      if j ∈ ids then (s.part j).exported s.registry else s.part j := by
  refine (part_foldl_exportDocument _ s j).2.trans ?_
  by_cases hj : j ∈ s.workspace.ids
  · simp [hj]
  · have hnone : s.workspace.get? j = none := (Keyed.get?_eq_none_iff _ _).2 hj
    have hpart : (s.part j).exported s.registry = s.part j := by
      simp [Part.exported, part, hnone]
    simp [hpart]

/-- A document that is exported has been prepared. -/
theorem part_exportAll_of_mem {s : Snapshot} {ids : List DocumentId} {id : DocumentId}
    (hid : id ∈ ids) {d : Document} (hd : s.workspace.get? id = some d) :
    (s.exportAll ids).part id = ⟨some (d.prepare s.registry),
      some ((d.prepare s.registry).exports s.registry),
      some ((d.prepare s.registry).localTables s.registry)⟩ := by
  rw [part_exportAll, if_pos hid]
  simp [Part.exported, part, hd]

end Export

section Derive

/-- Applying a plan leaves the registry alone. -/
@[simp] theorem registry_applyPlan (s : Snapshot) (p : DerivationPlan) :
    (s.applyPlan p).registry = s.registry := by
  unfold applyPlan
  split <;> rfl

/-- Applying a plan concerns its document. -/
theorem part_applyPlan (s : Snapshot) (p : DerivationPlan) (j : DocumentId) :
    (s.applyPlan p).part j =
      if j = p.document then (s.part j).derived s.registry p else s.part j := by
  cases hd : s.workspace.get? p.document with
  | none =>
    have hsame : s.applyPlan p = s := by simp only [applyPlan, hd]
    rw [hsame]
    split
    · subst ‹j = p.document›
      simp [Part.derived, part, hd]
    · rfl
  | some d =>
    simp only [applyPlan, hd, part, Workspace.get?_modify_const hd, Index.setLocals, Index.locals?,
      Keyed.get?_insert]
    split
    · subst ‹j = p.document›
      simp [Part.derived, hd, Index.localsOf, Index.locals?]
    · rfl

/-- Applying plans for different documents concerns each of these once. -/
theorem part_foldl_applyPlan {plan : DocumentId → Option DerivationPlan}
    (hplan : ∀ id p, plan id = some p → p.document = id) {ids : List DocumentId} (hids : ids.Nodup)
    (s : Snapshot) (j : DocumentId) :
    ((ids.filterMap plan).foldl applyPlan s).part j =
      if j ∈ ids then ((plan j).map ((s.part j).derived s.registry)).getD (s.part j)
      else s.part j := by
  induction ids generalizing s with
  | nil => rfl
  | cons id ids ih =>
    obtain ⟨hnot, hids'⟩ := List.nodup_cons.1 hids
    cases hp : plan id with
    | none =>
      rw [List.filterMap_cons_none hp, ih hids' s]
      by_cases hid : j = id
      · subst hid
        simp [hnot, hp]
      · simp [hid]
    | some p =>
      rw [List.filterMap_cons_some hp, List.foldl_cons, ih hids' (s.applyPlan p),
        registry_applyPlan, part_applyPlan, hplan id p hp]
      by_cases hid : j = id
      · subst hid
        simp [hnot, hp]
      · simp [hid]

end Derive

/-- What a build makes of a document that is out of date, before references are forgotten. -/
def rebuilt (s : Snapshot) (ids : List DocumentId) (d : Document) : Derivation :=
  ((s.exportAll ids).resolver.plan (d.prepare s.registry)).apply s.registry (d.prepare s.registry)
    ((d.prepare s.registry).localTables s.registry)

/-- A build concerns the documents that are out of date, and the references of all. -/
theorem part_build {s : Snapshot} (hs : s.workspace.Consistent) {ids : List DocumentId}
    (hids : ids.Nodup) (j : DocumentId) :
    (s.build ids).part j = if j ∈ ids then
      (((((s.exportAll ids).workspace.get? j).map (s.exportAll ids).resolver.plan).map
        (((s.exportAll ids).part j).derived s.registry)).getD ((s.exportAll ids).part j)).reset
      else (s.part j).reset := by
  have hplan : ∀ id p, ((s.exportAll ids).workspace.get? id).map (s.exportAll ids).resolver.plan =
      some p → p.document = id := by
    intro id p hp
    obtain ⟨e, he, rfl⟩ := Option.map_eq_some_iff.1 hp
    have hpart := congrArg Part.document (part_exportAll s ids id)
    have he' : (if id ∈ ids then (s.part id).exported s.registry else s.part id).document =
        some e := hpart.symm.trans he
    cases hd : s.workspace.get? id with
    | none => simp [Part.exported, part, hd] at he'
    | some d =>
      have hid := hs.id_eq id d hd
      split at he'
      · simp only [Part.exported, part, hd, Option.some.injEq] at he'
        rw [← he']
        exact hid
      · simp only [part, hd, Option.some.injEq] at he'
        rw [← he']
        exact hid
  have hfold := part_foldl_applyPlan hplan hids (s.exportAll ids) j
  have hreset : (s.build ids).part j =
      ((((s.exportAll ids).plans ids).foldl applyPlan (s.exportAll ids)).part j).reset := by
    have hdocument := Keyed.get?_mapValues
      (((s.exportAll ids).plans ids).foldl applyPlan (s.exportAll ids)).workspace.documents
      (·.resetReferences) j
    simp only [Part.reset, part, Part.mk.injEq]
    exact ⟨hdocument, rfl, rfl⟩
  rw [hreset, plans, hfold, registry_exportAll]
  split
  · rfl
  · rw [part_exportAll, if_neg ‹j ∉ ids›]

variable {s : Snapshot} (hs : s.workspace.Consistent) {ids : List DocumentId} (hids : ids.Nodup)
  {id : DocumentId}
include hs hids

/-- What a build makes of a document that is out of date. -/
theorem part_build_of_mem (hid : id ∈ ids) {d : Document} (hd : s.workspace.get? id = some d) :
    (s.build ids).part id = ⟨some (s.rebuilt ids d).document.resetReferences,
      some ((d.prepare s.registry).exports s.registry), some (s.rebuilt ids d).tables⟩ := by
  have hpart := part_exportAll_of_mem hid hd
  have hdocument : (s.exportAll ids).workspace.get? id = some (d.prepare s.registry) :=
    congrArg Part.document hpart
  rw [part_build hs hids, if_pos hid, hdocument, hpart]
  rfl

/-- What a build does to a document that is not out of date. -/
theorem part_build_of_notMem (hid : id ∉ ids) : (s.build ids).part id = (s.part id).reset := by
  rw [part_build hs hids, if_neg hid]

omit hs hids

/-- What exporting one document keeps, exporting documents keeps. -/
theorem exportAll_induction {P : Snapshot → Prop} (hexport : ∀ s id, P s → P (s.exportDocument id))
    {s : Snapshot} (h : P s) (ids : List DocumentId) : P (s.exportAll ids) := by
  have hfold : ∀ (l : List DocumentId) (t : Snapshot), P t → P (l.foldl exportDocument t) := by
    intro l
    induction l with
    | nil => exact fun t ht => ht
    | cons id l ih => exact fun t ht => ih _ (hexport t id ht)
  exact hfold _ s h

/-- What applying one plan keeps, applying plans keeps. -/
theorem foldl_applyPlan_induction {P : Snapshot → Prop} (happly : ∀ s p, P s → P (s.applyPlan p))
    {s : Snapshot} (h : P s) (plans : List DerivationPlan) : P (plans.foldl applyPlan s) := by
  induction plans generalizing s with
  | nil => exact h
  | cons p plans ih => exact ih (happly s p h)

/-- What exporting, applying plans and forgetting references keep, a build keeps. -/
theorem build_induction {P : Snapshot → Prop} (hexport : ∀ s id, P s → P (s.exportDocument id))
    (happly : ∀ s p, P s → P (s.applyPlan p)) (hreset : ∀ s, P s → P s.resetReferences)
    {s : Snapshot} (h : P s) (ids : List DocumentId) : P (s.build ids) :=
  hreset _ (foldl_applyPlan_induction happly (exportAll_induction hexport h ids) _)

/-- A build changes nothing in which a workspace could become inconsistent. -/
theorem consistent_build (hs : s.workspace.Consistent) : (s.build ids).workspace.Consistent := by
  refine build_induction (P := fun t => t.workspace.Consistent) (fun t id ht => ?_)
    (fun t p ht => ?_) (fun t ht => ht.resetReferences) hs ids
  · unfold exportDocument
    cases hd : t.workspace.get? id with
    | none => exact ht
    | some d =>
      refine ht.modify fun e he => ?_
      rw [hd] at he
      cases he
      exact ⟨rfl, rfl⟩
  · unfold applyPlan
    cases hd : t.workspace.get? p.document with
    | none => exact ht
    | some d =>
      refine ht.modify fun e he => ?_
      rw [hd] at he
      cases he
      exact Derivation.id_uri_apply p d _

/-- Exporting a document keeps an index faithful. -/
theorem faithful_exportDocument (h : s.index.Faithful) (id : DocumentId) :
    (s.exportDocument id).index.Faithful := by
  unfold exportDocument
  split
  · exact h
  · exact (h.setExports _ _).setLocals _ _

/-- Exporting documents keeps an index faithful. -/
theorem faithful_exportAll (h : s.index.Faithful) (ids : List DocumentId) :
    (s.exportAll ids).index.Faithful :=
  exportAll_induction (P := fun t => t.index.Faithful)
    (fun _ id ht => faithful_exportDocument ht id) h ids

/-- A build keeps an index faithful. -/
theorem faithful_build (h : s.index.Faithful) : (s.build ids).index.Faithful := by
  refine build_induction (P := fun t => t.index.Faithful)
    (fun _ id ht => faithful_exportDocument ht id) (fun t p ht => ?_) (fun t ht => ht) h ids
  unfold applyPlan
  split
  · exact ht
  · exact ht.setLocals _ _

/-- A build leaves the addresses, the number still to come and the registry alone. -/
theorem frame_build (s : Snapshot) (ids : List DocumentId) :
    (s.build ids).workspace.byUri = s.workspace.byUri ∧
      (s.build ids).workspace.nextId = s.workspace.nextId ∧
      (s.build ids).registry = s.registry := by
  refine build_induction (P := fun t => t.workspace.byUri = s.workspace.byUri ∧
    t.workspace.nextId = s.workspace.nextId ∧ t.registry = s.registry) (fun t id ht => ?_)
    (fun t p ht => ?_) (fun t ht => ht) ⟨rfl, rfl, rfl⟩ ids
  · unfold exportDocument
    split <;> exact ht
  · unfold applyPlan
    split <;> exact ht

section Keys

/-- Exporting a document of the workspace lists it, where it is not listed yet. -/
theorem keys_exportDocument {s : Snapshot} {id : DocumentId} (hid : id ∈ s.workspace.ids) :
    (s.exportDocument id).index.exports.keys =
        (if id ∈ s.index.exports.keys then s.index.exports.keys
          else s.index.exports.keys ++ [id]) ∧
      (s.exportDocument id).index.locals.keys =
        if id ∈ s.index.locals.keys then s.index.locals.keys else s.index.locals.keys ++ [id] := by
  obtain ⟨d, hd⟩ := Workspace.exists_get?_of_mem_ids hid
  simp only [exportDocument, hd]
  exact ⟨Keyed.keys_insert _ _ _, Keyed.keys_insert _ _ _⟩

/-- Exporting documents lists those that are not listed yet, in their order. -/
theorem keys_foldl_exportDocument {l : List DocumentId} (hl : l.Nodup) {s : Snapshot}
    (hlocals : s.index.locals.keys = s.index.exports.keys) (hmem : ∀ id ∈ l, id ∈ s.workspace.ids) :
    (l.foldl exportDocument s).index.exports.keys =
        s.index.exports.keys ++ l.filter (· ∉ s.index.exports.keys) ∧
      (l.foldl exportDocument s).index.locals.keys =
        (l.foldl exportDocument s).index.exports.keys := by
  induction l generalizing s with
  | nil => simp [hlocals]
  | cons id l ih =>
    obtain ⟨hnot, hl'⟩ := List.nodup_cons.1 hl
    obtain ⟨hexports, hlocals'⟩ := keys_exportDocument (hmem id (List.mem_cons_self ..))
    have hsame : (s.exportDocument id).index.locals.keys =
        (s.exportDocument id).index.exports.keys := by
      rw [hlocals', hexports, hlocals]
    have hmem' : ∀ j ∈ l, j ∈ (s.exportDocument id).workspace.ids := by
      intro j hj
      rw [ids_exportDocument]
      exact hmem j (List.mem_cons_of_mem _ hj)
    obtain ⟨hkeys, hkeys'⟩ := ih hl' hsame hmem'
    refine ⟨?_, hkeys'⟩
    rw [List.foldl_cons, hkeys, hexports]
    by_cases hid : id ∈ s.index.exports.keys
    · rw [if_pos hid, List.filter_cons_of_neg (by simpa using hid)]
    · rw [if_neg hid, List.filter_cons_of_pos (by simpa using hid), List.append_assoc,
        List.singleton_append]
      refine congrArg (fun rest => _ ++ id :: rest) (List.filter_congr fun j hj => ?_)
      have hne : j ≠ id := fun heq => hnot (heq ▸ hj)
      simp [hne]

/-- Exporting all documents not listed yet lists all documents, in the order of the workspace. -/
theorem keys_exportAll {s : Snapshot} (hs : s.workspace.Consistent) {ids : List DocumentId}
    (hleading : s.index.exports.keys <+: s.workspace.ids)
    (hlocals : s.index.locals.keys = s.index.exports.keys)
    (hall : ∀ id ∈ s.workspace.ids, id ∉ s.index.exports.keys → id ∈ ids) :
    (s.exportAll ids).index.exports.keys = s.workspace.ids ∧
      (s.exportAll ids).index.locals.keys = s.workspace.ids := by
  have hnodup := hs.nodup_ids.filter (ids.contains ·)
  obtain ⟨hexports, hsame⟩ := keys_foldl_exportDocument hnodup hlocals
    fun id hid => (List.mem_filter.1 hid).1
  obtain ⟨rest, hrest⟩ := hleading
  have hdisjoint : ∀ id ∈ rest, id ∉ s.index.exports.keys := by
    intro id hid hmem
    have hnodup := hs.nodup_ids
    rw [← hrest] at hnodup
    exact (List.nodup_append.1 hnodup).2.2 id hmem id hid rfl
  have hkeys : (s.exportAll ids).index.exports.keys = s.workspace.ids := by
    have hnil : s.index.exports.keys.filter (fun id =>
        decide (id ∉ s.index.exports.keys) && ids.contains id) = [] :=
      List.filter_eq_nil_iff.2 fun id hid => by simp [hid]
    have hself : rest.filter (fun id =>
        decide (id ∉ s.index.exports.keys) && ids.contains id) = rest := by
      refine List.filter_eq_self.2 fun id hid => ?_
      have hmem : id ∈ s.workspace.ids := hrest ▸ List.mem_append_right _ hid
      simp [hdisjoint id hid, hall id hmem (hdisjoint id hid)]
    refine hexports.trans ?_
    conv_rhs => rw [← hrest]
    rw [← hrest, List.filter_filter, List.filter_append, hnil, hself, List.nil_append]
  exact ⟨hkeys, hsame.trans hkeys⟩

/-- Exporting neither adds nor removes documents. -/
@[simp] theorem ids_exportAll (s : Snapshot) (ids : List DocumentId) :
    (s.exportAll ids).workspace.ids = s.workspace.ids :=
  exportAll_induction (P := fun t => t.workspace.ids = s.workspace.ids)
    (fun t id ht => (ids_exportDocument t id).trans ht) rfl ids

/-- A build of all documents not listed yet lists all documents, in the order of the workspace. -/
theorem keys_build {s : Snapshot} (hs : s.workspace.Consistent) {ids : List DocumentId}
    (hleading : s.index.exports.keys <+: s.workspace.ids)
    (hlocals : s.index.locals.keys = s.index.exports.keys)
    (hall : ∀ id ∈ s.workspace.ids, id ∉ s.index.exports.keys → id ∈ ids) :
    (s.build ids).index.exports.keys = s.workspace.ids ∧
      (s.build ids).index.locals.keys = s.workspace.ids := by
  have hexported := keys_exportAll hs hleading hlocals hall
  have hderived := foldl_applyPlan_induction (P := fun t => t.workspace.ids = s.workspace.ids ∧
    t.index.exports.keys = s.workspace.ids ∧ t.index.locals.keys = s.workspace.ids)
    (fun t p ht => ?_) ⟨ids_exportAll s ids, hexported⟩ ((s.exportAll ids).plans ids)
  · exact hderived.2
  · obtain ⟨hids, hexports, hlocals⟩ := ht
    refine ⟨(ids_applyPlan t p).trans hids, ?_⟩
    unfold applyPlan
    split
    · exact ⟨hexports, hlocals⟩
    · have hmem : p.document ∈ t.index.locals.keys := by
        rw [hlocals, ← hids]
        exact Keyed.mem_keys_of_get? ‹t.workspace.get? p.document = some _›
      exact ⟨hexports, (Keyed.keys_insert _ _ _).trans ((if_pos hmem).trans hlocals)⟩

end Keys

end Snapshot

end ModelBinding
