import ModelBinding.Index
import ModelBinding.Proofs.Keyed

/-!
# Faithful indexes

The answers that an index remembers are what a search would give, whatever exports are
replaced or forgotten: an answer is only kept if no description that came or went could
occur in it. Asking an index is therefore asking its exports (`globalScope_eq`).
-/

namespace ModelBinding.Index

/-- What the index remembers is what a search would give. -/
structure Faithful (i : Index) : Prop where
  /-- No document exports twice. -/
  nodup_exports : i.exports.keys.Nodup
  /-- Remembered answers are right. -/
  remembered_eq : ∀ k answer, i.remembered.get? k = some answer →
    answer = Description.ofKind k i.all

/-- The exports of a kind are gathered document by document. -/
theorem ofKind_all (i : Index) (k : NodeKind) :
    Description.ofKind k i.all = i.exports.values.flatMap (Description.ofKind k) := by
  rw [all, Description.ofKind, List.filter_flatten, List.flatMap_def]
  rfl

/-- Nothing is of a kind among descriptions none of whose kinds may stand for it. -/
theorem ofKind_eq_nil {k : NodeKind} {exports : List Description}
    (h : ∀ e ∈ exports, e.kind.isSubtypeOf k = false) : Description.ofKind k exports = [] := by
  refine List.filter_eq_nil_iff.2 fun e he => ?_
  simp [h e he]

/-- An answer is kept only if it is of a kind that none of the kinds may stand for. -/
theorem remembered_forgetKinds {i : Index} {kinds : List NodeKind} {k : NodeKind}
    {answer : List Description} (h : (i.forgetKinds kinds).remembered.get? k = some answer) :
    i.remembered.get? k = some answer ∧ ∀ kind ∈ kinds, kind.isSubtypeOf k = false := by
  have hfind := Keyed.find_filter_keys (fun key => !kinds.any fun kind => kind.isSubtypeOf key) k
    i.remembered.entries
  have h' : (if (!kinds.any fun kind => kind.isSubtypeOf k) = true then i.remembered.get? k
      else none) = some answer := hfind.symm.trans h
  split at h'
  · exact ⟨h', by simpa using ‹(!kinds.any fun kind => kind.isSubtypeOf k) = true›⟩
  · cases h'

/-- The exports found for a document are of the kinds of what it exports. -/
theorem kinds_exportsOf {i : Index} {id : DocumentId} {k : NodeKind} {old : List Description}
    (h : ∀ kind ∈ (i.exportsOf id).map Description.kind, kind.isSubtypeOf k = false)
    (hold : i.exports.get? id = some old) : Description.ofKind k old = [] := by
  refine ofKind_eq_nil fun e he => h e.kind (List.mem_map_of_mem ?_)
  rw [exportsOf, hold]
  exact he

/-- The index of no documents is faithful. -/
theorem faithful_empty : empty.Faithful where
  nodup_exports := List.nodup_nil
  remembered_eq := by
    intro k answer h
    cases h

namespace Faithful

variable {i : Index} (h : i.Faithful)
include h

/-- Remembered or not, the answer is what a search gives. -/
theorem globalScope_eq (k : NodeKind) : i.globalScope k = Description.ofKind k i.all := by
  rw [globalScope]
  cases hk : i.remembered.get? k with
  | none => rfl
  | some answer => exact h.remembered_eq k answer hk

/-- What is answered for a kind is what is exported and may stand for it. -/
theorem mem_globalScope_iff {k : NodeKind} {x : Description} :
    x ∈ i.globalScope k ↔ x ∈ i.all ∧ x.kind.isSubtypeOf k = true := by
  rw [h.globalScope_eq, Description.mem_ofKind]

/-- Replacing exports keeps an index faithful. -/
theorem setExports (id : DocumentId) (exports : List Description) :
    (i.setExports id exports).Faithful where
  nodup_exports := Keyed.nodup_keys_insert h.nodup_exports id exports
  remembered_eq := by
    intro k answer hk
    obtain ⟨hold, hkinds⟩ := remembered_forgetKinds hk
    rw [List.map_append] at hkinds
    have hnew : Description.ofKind k exports = [] := ofKind_eq_nil fun e he =>
      hkinds e.kind (List.mem_append_left _ (List.mem_map_of_mem he))
    have hall : (i.setExports id exports).exports.values.flatMap (Description.ofKind k) =
        i.exports.values.flatMap (Description.ofKind k) :=
      Keyed.flatMap_values_insert hnew fun old =>
        kinds_exportsOf fun kind hkind => hkinds kind (List.mem_append_right _ hkind)
    rw [ofKind_all, hall, ← ofKind_all]
    exact h.remembered_eq k answer hold

/-- Forgetting a document keeps an index faithful. -/
theorem remove (id : DocumentId) : (i.remove id).Faithful where
  nodup_exports := Keyed.nodup_keys_erase h.nodup_exports id
  remembered_eq := by
    intro k answer hk
    obtain ⟨hold, hkinds⟩ := remembered_forgetKinds hk
    have hall : (i.remove id).exports.values.flatMap (Description.ofKind k) =
        i.exports.values.flatMap (Description.ofKind k) :=
      Keyed.flatMap_values_erase h.nodup_exports fun old => kinds_exportsOf hkinds
    rw [ofKind_all, hall, ← ofKind_all]
    exact h.remembered_eq k answer hold

/-- Forgetting all answers keeps an index faithful. -/
theorem forgetAll : i.forgetAll.Faithful where
  nodup_exports := h.nodup_exports
  remembered_eq := by
    intro k answer hk
    cases hk

/-- Container tables have no part in answers. -/
theorem setLocals (id : DocumentId) (tables : LocalTables) : (i.setLocals id tables).Faithful :=
  ⟨h.nodup_exports, h.remembered_eq⟩

/-- Remembering one more answer keeps an index faithful. -/
theorem remember (k : NodeKind) : (i.remember k).Faithful where
  nodup_exports := h.nodup_exports
  remembered_eq := by
    intro k' answer hk
    have hk' : (i.remembered.insert k (i.globalScope k)).get? k' = some answer := hk
    rw [Keyed.get?_insert] at hk'
    split at hk'
    · subst ‹k' = k›
      rw [← Option.some.inj hk']
      exact h.globalScope_eq k'
    · exact h.remembered_eq k' answer hk'

end Faithful

end ModelBinding.Index
