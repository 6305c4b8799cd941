/-!
# Maps that remember insertion order

Documents, exports and free properties are all kept under keys, and the order in
which the keys first arrived is visible in answers. `Keyed` is such a map:
`insert` replaces the value of a known key where it stands and puts a new key
last, and `erase` leaves the order of the others alone. The main statements say
what each operation does to the view `get?` and to the list of keys.
-/

namespace ModelBinding

/-- A finite map whose entries stand in the order their keys were first inserted. -/
structure Keyed (κ α : Type) where
  /-- Keys with their values, in insertion order. -/
  entries : List (κ × α) := []
  deriving DecidableEq

namespace Keyed

variable {κ α : Type} [DecidableEq κ]

/-- The map without entries. -/
def empty : Keyed κ α := ⟨[]⟩

instance : Inhabited (Keyed κ α) := ⟨empty⟩

/-- The keys, in insertion order. -/
def keys (m : Keyed κ α) : List κ := m.entries.map (·.1)

/-- The values, in insertion order of their keys. -/
def values (m : Keyed κ α) : List α := m.entries.map (·.2)

/-- The number of entries. -/
def size (m : Keyed κ α) : Nat := m.entries.length

/-- The value found in a list of entries under a key. -/
def find (k : κ) : List (κ × α) → Option α
  | [] => none
  | e :: es => if e.1 = k then some e.2 else find k es

/-- The value stored under a key. -/
def get? (m : Keyed κ α) (k : κ) : Option α := find k m.entries

/-- Whether a key has a value. -/
def contains (m : Keyed κ α) (k : κ) : Bool := (m.get? k).isSome

/-- A list of entries after storing a value: in the place of the key, or at the end. -/
def put (k : κ) (a : α) : List (κ × α) → List (κ × α)
  | [] => [(k, a)]
  | e :: es => if e.1 = k then (k, a) :: es else e :: put k a es

/-- Store a value under a key; a known key keeps its place and a new one comes last. -/
def insert (m : Keyed κ α) (k : κ) (a : α) : Keyed κ α := ⟨put k a m.entries⟩

/-- Forget a key; the other entries keep their order. -/
def erase (m : Keyed κ α) (k : κ) : Keyed κ α := ⟨m.entries.filter (·.1 ≠ k)⟩

/-- Change the value of a key, if it has one. -/
def modify (m : Keyed κ α) (k : κ) (f : α → α) : Keyed κ α :=
  ⟨m.entries.map fun e => if e.1 = k then (e.1, f e.2) else e⟩

/-- Change every value. -/
def mapValues {β : Type} (m : Keyed κ α) (f : α → β) : Keyed κ β :=
  ⟨m.entries.map fun e => (e.1, f e.2)⟩

/-- The map of a list of entries, inserted from the left. -/
def ofList (entries : List (κ × α)) : Keyed κ α :=
  entries.foldl (fun m e => m.insert e.1 e.2) empty

@[simp] theorem get?_empty (k : κ) : (empty : Keyed κ α).get? k = none := rfl

@[simp] theorem find_put_self (k : κ) (a : α) (es : List (κ × α)) :
    find k (put k a es) = some a := by
  induction es with
  | nil => simp [put, find]
  | cons e es ih => by_cases h : e.1 = k <;> simp [put, find, h, ih]

theorem find_put_of_ne {k k' : κ} (h : k' ≠ k) (a : α) (es : List (κ × α)) :
    find k' (put k a es) = find k' es := by
  induction es with
  | nil => simp [put, find, h.symm]
  | cons e es ih =>
    by_cases he : e.1 = k
    · simp [put, find, he, h.symm]
    · simp [put, find, he, ih]

/-- The inserted value is found. -/
@[simp] theorem get?_insert_self (m : Keyed κ α) (k : κ) (a : α) : (m.insert k a).get? k = some a :=
  find_put_self k a m.entries

/-- Other keys are not affected by an insertion. -/
theorem get?_insert_of_ne (m : Keyed κ α) {k k' : κ} (h : k' ≠ k) (a : α) :
    (m.insert k a).get? k' = m.get? k' :=
  find_put_of_ne h a m.entries

theorem find_filter_self (k : κ) (es : List (κ × α)) : find k (es.filter (·.1 ≠ k)) = none := by
  induction es with
  | nil => rfl
  | cons e es ih => by_cases h : e.1 = k <;> simp_all [find]

theorem find_filter_of_ne {k k' : κ} (h : k' ≠ k) (es : List (κ × α)) :
    find k' (es.filter (·.1 ≠ k)) = find k' es := by
  induction es with
  | nil => rfl
  | cons e es ih =>
    by_cases he : e.1 = k
    · have hne : ¬ e.1 = k' := fun h' => h (h'.symm.trans he)
      simp_all [find]
    · by_cases he' : e.1 = k' <;> simp_all [find]

/-- An erased key has no value. -/
@[simp] theorem get?_erase_self (m : Keyed κ α) (k : κ) : (m.erase k).get? k = none :=
  find_filter_self k m.entries

/-- Other keys are not affected by an erasure. -/
theorem get?_erase_of_ne (m : Keyed κ α) {k k' : κ} (h : k' ≠ k) :
    (m.erase k).get? k' = m.get? k' :=
  find_filter_of_ne h m.entries

/-- A key has a value exactly when it is listed. -/
theorem get?_isSome_iff_mem_keys (m : Keyed κ α) (k : κ) : (m.get? k).isSome ↔ k ∈ m.keys := by
  obtain ⟨es⟩ := m
  induction es with
  | nil => simp [get?, find, keys]
  | cons e es ih =>
    have ih' : (find k es).isSome ↔ k ∈ es.map (·.1) := ih
    by_cases h : e.1 = k
    · simp [get?, find, keys, h]
    · have h' : ¬ k = e.1 := fun hk => h hk.symm
      simp [get?, find, keys, h, h', ih']

/-- A known key keeps the list of keys as it is; a new one is put last. -/
theorem keys_insert (m : Keyed κ α) (k : κ) (a : α) :
    (m.insert k a).keys = if k ∈ m.keys then m.keys else m.keys ++ [k] := by
  obtain ⟨es⟩ := m
  induction es with
  | nil => simp [insert, put, keys]
  | cons e es ih =>
    have ih' : (put k a es).map (·.1) =
        if k ∈ es.map (·.1) then es.map (·.1) else es.map (·.1) ++ [k] := ih
    by_cases h : e.1 = k
    · simp [insert, put, keys, h]
    · have h' : ¬ k = e.1 := fun hk => h hk.symm
      simp only [insert, put, keys, h, ↓reduceIte, List.map_cons, List.mem_cons, h', false_or, ih']
      split <;> simp

/-- Erasing a key removes it from the list of keys and leaves the rest in order. -/
theorem keys_erase (m : Keyed κ α) (k : κ) : (m.erase k).keys = m.keys.filter (· ≠ k) := by
  simp [erase, keys, List.filter_map, Function.comp_def]

/-- Changing a value keeps the list of keys. -/
@[simp] theorem keys_modify (m : Keyed κ α) (k : κ) (f : α → α) : (m.modify k f).keys = m.keys := by
  simp only [modify, keys, List.map_map]
  refine List.map_congr_left fun e _ => ?_
  by_cases h : e.1 = k <;> simp [h]

omit [DecidableEq κ] in
/-- Changing all values keeps the list of keys. -/
@[simp] theorem keys_mapValues {β : Type} (m : Keyed κ α) (f : α → β) :
    (m.mapValues f).keys = m.keys := by
  simp [mapValues, keys, Function.comp_def]

end Keyed

end ModelBinding
