import ModelBinding.Keyed
import Mathlib.Data.List.Nodup

/-!
# Laws of insertion-ordered maps

A map is determined by its keys, in order, and by what is found under each of them, as
long as no key occurs twice (`ext_get?`). The other statements say for each operation
what becomes of the keys and of what is found.
-/

namespace ModelBinding.Keyed

variable {κ α β : Type} [DecidableEq κ]

/-- What is found after an insertion. -/
theorem get?_insert (m : Keyed κ α) (k k' : κ) (a : α) :
    (m.insert k a).get? k' = if k' = k then some a else m.get? k' := by
  by_cases h : k' = k
  · subst h
    simp
  · rw [if_neg h, get?_insert_of_ne m h]

/-- What is found after an erasure. -/
theorem get?_erase (m : Keyed κ α) (k k' : κ) :
    (m.erase k).get? k' = if k' = k then none else m.get? k' := by
  by_cases h : k' = k
  · subst h
    simp
  · rw [if_neg h, get?_erase_of_ne m h]

/-- What is found after one value was changed. -/
theorem get?_modify (m : Keyed κ α) (k k' : κ) (f : α → α) :
    (m.modify k f).get? k' = if k' = k then (m.get? k').map f else m.get? k' := by
  obtain ⟨es⟩ := m
  induction es with
  | nil => simp [modify, get?, find]
  | cons e es ih =>
    have ih' : find k' (es.map fun e => if e.1 = k then (e.1, f e.2) else e) =
        if k' = k then (find k' es).map f else find k' es := ih
    by_cases hk : e.1 = k' <;> by_cases hk' : e.1 = k <;>
      simp_all [modify, get?, find]

/-- What is found after all values were changed. -/
@[simp] theorem get?_mapValues (m : Keyed κ α) (f : α → β) (k : κ) :
    (m.mapValues f).get? k = (m.get? k).map f := by
  obtain ⟨es⟩ := m
  induction es with
  | nil => rfl
  | cons e es ih =>
    have ih' : find k (es.map fun e => (e.1, f e.2)) = (find k es).map f := ih
    by_cases h : e.1 = k <;> simp [mapValues, get?, find, h, ih']

/-- Nothing is found exactly under what is no key. -/
theorem get?_eq_none_iff (m : Keyed κ α) (k : κ) : m.get? k = none ↔ k ∉ m.keys := by
  rw [← get?_isSome_iff_mem_keys, Option.not_isSome_iff_eq_none]

/-- What is found under a key is there. -/
theorem mem_keys_of_get? {m : Keyed κ α} {k : κ} {a : α} (h : m.get? k = some a) : k ∈ m.keys := by
  rw [← get?_isSome_iff_mem_keys, h]
  rfl

/-- Something is found under every key. -/
theorem exists_get?_of_mem_keys {m : Keyed κ α} {k : κ} (h : k ∈ m.keys) :
    ∃ a, m.get? k = some a :=
  Option.isSome_iff_exists.1 ((get?_isSome_iff_mem_keys m k).2 h)

/-- Where no key occurs twice, the entries are what is found. -/
theorem mem_entries_iff {m : Keyed κ α} (h : m.keys.Nodup) {k : κ} {a : α} :
    (k, a) ∈ m.entries ↔ m.get? k = some a := by
  obtain ⟨es⟩ := m
  induction es with
  | nil => simp [get?, find]
  | cons e es ih =>
    have hcons : e.1 ∉ es.map (·.1) ∧ (es.map (·.1)).Nodup := List.nodup_cons.1 h
    have ih' : (k, a) ∈ es ↔ find k es = some a := ih hcons.2
    by_cases hk : e.1 = k
    · have hnot : (k, a) ∉ es := fun hmem => hcons.1 (hk ▸ List.mem_map_of_mem (f := (·.1)) hmem)
      simp only [get?, find, hk, if_true, List.mem_cons, hnot, or_false, Option.some.injEq]
      exact ⟨fun heq => heq ▸ rfl, fun heq => by rw [← hk, ← heq]⟩
    · have hne : (k, a) ≠ e := fun heq => hk (heq ▸ rfl)
      simp [get?, find, hk, hne, ih']

/-- Insertion keeps keys apart. -/
theorem nodup_keys_insert {m : Keyed κ α} (h : m.keys.Nodup) (k : κ) (a : α) :
    (m.insert k a).keys.Nodup := by
  rw [keys_insert]
  split
  · exact h
  · rename_i hk
    exact List.nodup_append.2 ⟨h, List.nodup_singleton k, fun x hx y hy heq =>
      hk (List.mem_singleton.1 hy ▸ heq ▸ hx)⟩

/-- Erasure keeps keys apart. -/
theorem nodup_keys_erase {m : Keyed κ α} (h : m.keys.Nodup) (k : κ) : (m.erase k).keys.Nodup := by
  rw [keys_erase]
  exact h.filter _

/-- A new key and its value come last. -/
theorem entries_insert_of_notMem {m : Keyed κ α} {k : κ} (h : k ∉ m.keys) (a : α) :
    (m.insert k a).entries = m.entries ++ [(k, a)] := by
  obtain ⟨es⟩ := m
  induction es with
  | nil => rfl
  | cons e es ih =>
    simp only [keys, List.map_cons, List.mem_cons, not_or] at h
    have ih' : put k a es = es ++ [(k, a)] := ih h.2
    simp [insert, put, Ne.symm h.1, ih']

/-- The value of a known key is replaced in its place. -/
theorem entries_insert_of_mem {m : Keyed κ α} (hnodup : m.keys.Nodup) {k : κ} (h : k ∈ m.keys)
    (a : α) : (m.insert k a).entries = m.entries.map fun e => if e.1 = k then (k, a) else e := by
  obtain ⟨es⟩ := m
  induction es with
  | nil => simp [keys] at h
  | cons e es ih =>
    have hcons : e.1 ∉ es.map (·.1) ∧ (es.map (·.1)).Nodup := List.nodup_cons.1 hnodup
    by_cases hk : e.1 = k
    · have hrest : es.map (fun e => if e.1 = k then (k, a) else e) = es := by
        conv_rhs => rw [← List.map_id' es]
        refine List.map_congr_left fun e' he' => if_neg fun heq => hcons.1 ?_
        rw [hk, ← heq]
        exact List.mem_map_of_mem he'
      simp [insert, put, hk, hrest]
    · have hmem : k ∈ es.map (·.1) := by
        rcases List.mem_cons.1 h with heq | hmem
        · exact absurd heq.symm hk
        · exact hmem
      have ih' : put k a es = es.map fun e => if e.1 = k then (k, a) else e := ih hcons.2 hmem
      simp [insert, put, hk, ih']

/-- The entries follow from the keys and from what is found under them. -/
theorem entries_eq_of_get? {m : Keyed κ α} (h : m.keys.Nodup) :
    m.entries = m.keys.filterMap fun k => (m.get? k).map fun a => (k, a) := by
  obtain ⟨es⟩ := m
  induction es with
  | nil => rfl
  | cons e es ih =>
    have hcons : e.1 ∉ es.map (·.1) ∧ (es.map (·.1)).Nodup := List.nodup_cons.1 h
    have ih' : es = (es.map (·.1)).filterMap fun k => (find k es).map fun a => (k, a) := ih hcons.2
    have hrest :
        (es.map (·.1)).filterMap (fun k => (find k (e :: es)).map fun a => (k, a)) = es := by
      conv_rhs => rw [ih']
      refine List.filterMap_congr fun k hk => ?_
      have hne : ¬ e.1 = k := fun heq => hcons.1 (heq ▸ hk)
      simp [find, hne]
    show e :: es = (e.1 :: es.map (·.1)).filterMap (fun k => (find k (e :: es)).map fun a => (k, a))
    rw [List.filterMap_cons, hrest]
    simp [find]

omit [DecidableEq κ] in
/-- A map is its entries. -/
theorem eq_of_entries {m m' : Keyed κ α} (h : m.entries = m'.entries) : m = m' := by
  cases m
  cases m'
  exact congrArg Keyed.mk h

/-- Two maps with the same keys, none of them twice, that find the same are equal. -/
theorem ext_get? {m m' : Keyed κ α} (hkeys : m.keys = m'.keys) (hnodup : m.keys.Nodup)
    (hget : ∀ k, m.get? k = m'.get? k) : m = m' := by
  refine eq_of_entries ?_
  rw [entries_eq_of_get? hnodup, entries_eq_of_get? (hkeys ▸ hnodup), hkeys]
  simp only [hget]

omit [DecidableEq κ] in
/-- The entries are the keys with the values beside them. -/
theorem entries_eq_zip (m : Keyed κ α) : m.entries = m.keys.zip m.values := by
  simp [keys, values, List.zip_map']

/-- Where no key occurs twice, the values are what is found under the keys. -/
theorem mem_values_iff {m : Keyed κ α} (h : m.keys.Nodup) {a : α} :
    a ∈ m.values ↔ ∃ k, m.get? k = some a := by
  simp only [values, List.mem_map, Prod.exists, exists_eq_right, mem_entries_iff h]

/-- Maps with the same keys, none of them twice, agree after a change of all values if what they
find does. -/
theorem mapValues_congr {m m' : Keyed κ α} {g : α → β} (hkeys : m'.keys = m.keys)
    (hnodup : m.keys.Nodup) (hget : ∀ k, (m'.get? k).map g = (m.get? k).map g) :
    m'.mapValues g = m.mapValues g := by
  refine ext_get? (by simpa using hkeys) ?_ fun k => ?_
  · rw [keys_mapValues, hkeys]
    exact hnodup
  · rw [get?_mapValues, get?_mapValues, hget]

/-- Changing all values after an insertion is an insertion of the changed value. -/
theorem mapValues_insert (m : Keyed κ α) (k : κ) (a : α) (g : α → β) :
    (m.insert k a).mapValues g = (m.mapValues g).insert k (g a) := by
  obtain ⟨es⟩ := m
  refine congrArg Keyed.mk ?_
  show (put k a es).map (fun e => (e.1, g e.2)) = put k (g a) (es.map fun e => (e.1, g e.2))
  induction es with
  | nil => rfl
  | cons e es ih => by_cases hk : e.1 = k <;> simp [put, hk, ih]

/-- What does not see the change of one value sees the map as it was. -/
theorem mapValues_modify {m : Keyed κ α} (h : m.keys.Nodup) {k : κ} {f : α → α} {g : α → β}
    (hg : ∀ a, m.get? k = some a → g (f a) = g a) :
    (m.modify k f).mapValues g = m.mapValues g := by
  refine mapValues_congr (keys_modify m k f) h fun k' => ?_
  rw [get?_modify]
  split
  · subst ‹k' = k›
    rw [Option.map_map]
    cases hm : m.get? k' with
    | none => rfl
    | some a => exact congrArg some (hg a hm)
  · rfl

/-- What is found when entries are kept by their keys. -/
theorem find_filter_keys (p : κ → Bool) (k : κ) (es : List (κ × α)) :
    find k (es.filter fun e => p e.1) = if p k then find k es else none := by
  induction es with
  | nil => simp [find]
  | cons e es ih =>
    by_cases hk : e.1 = k
    · subst hk
      by_cases hp : p e.1 <;> simp_all [find]
    · by_cases hp : p e.1 <;> simp_all [find]

/-- An insertion is not seen by what sees nothing in the old value and in the new one. -/
theorem flatMap_values_insert {m : Keyed κ α} {k : κ} {a : α} {g : α → List β} (ha : g a = [])
    (hold : ∀ old, m.get? k = some old → g old = []) :
    (m.insert k a).values.flatMap g = m.values.flatMap g := by
  obtain ⟨es⟩ := m
  show ((put k a es).map (·.2)).flatMap g = (es.map (·.2)).flatMap g
  replace hold : ∀ old, find k es = some old → g old = [] := hold
  induction es with
  | nil => simp [put, ha]
  | cons e es ih =>
    by_cases hk : e.1 = k
    · have hfirst : g e.2 = [] := hold e.2 (by simp [find, hk])
      simp [put, hk, ha, hfirst]
    · have ih' := ih fun old h => hold old (by simpa [find, hk] using h)
      simp only [List.flatMap_map] at ih'
      simp [put, hk, List.flatMap_map, ih']

/-- An erasure is not seen by what sees nothing in the value. -/
theorem flatMap_values_erase {m : Keyed κ α} (hnodup : m.keys.Nodup) {k : κ} {g : α → List β}
    (hold : ∀ old, m.get? k = some old → g old = []) :
    (m.erase k).values.flatMap g = m.values.flatMap g := by
  replace hold : ∀ e ∈ m.entries, e.1 = k → g e.2 = [] := by
    intro e he hk
    have hget : m.get? e.1 = some e.2 := (mem_entries_iff hnodup).1 he
    exact hold e.2 (hk ▸ hget)
  obtain ⟨es⟩ := m
  show ((es.filter (·.1 ≠ k)).map (·.2)).flatMap g = (es.map (·.2)).flatMap g
  clear hnodup
  induction es with
  | nil => rfl
  | cons e es ih =>
    have ih' := ih fun e' he' => hold e' (List.mem_cons_of_mem _ he')
    by_cases hk : e.1 = k
    · rw [List.filter_cons_of_neg (by simpa using hk), List.map_cons, List.flatMap_cons,
        hold e (List.mem_cons_self ..) hk, ih', List.nil_append]
    · rw [List.filter_cons_of_pos (by simpa using hk), List.map_cons, List.map_cons,
        List.flatMap_cons, List.flatMap_cons, ih']

end ModelBinding.Keyed
