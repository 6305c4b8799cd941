import ModelBinding.Description

/-!
# Scopes

A scope is a sequence of layers of descriptions, the innermost first; there is always
at least one layer. A name means the first description that bears it, so an inner
layer hides the outer ones, and within a layer the first entry counts. Main statement:
looking up layer by layer is looking up among all elements (`lookup_eq_find?`).
-/

namespace ModelBinding

/-- Layers of descriptions, innermost first. -/
structure Scope where
  /-- The innermost layer. -/
  inner : List Description := []
  /-- The layers around it, from the inside out. -/
  outer : List (List Description) := []
  deriving DecidableEq

namespace Scope

/-- One layer without descriptions. -/
def empty : Scope := {}

/-- One layer. -/
def single (elements : List Description) : Scope := { inner := elements }

/-- A new innermost layer around which the old ones stand. -/
def push (elements : List Description) (s : Scope) : Scope := ⟨elements, s.inner :: s.outer⟩

/-- All layers, innermost first. -/
def layers (s : Scope) : List (List Description) := s.inner :: s.outer

/-- All descriptions, innermost layer first. -/
def elements (s : Scope) : List Description := s.layers.flatten

/-- The number of layers. -/
def depth (s : Scope) : Nat := s.layers.length

/-- The number of descriptions. -/
def size (s : Scope) : Nat := s.elements.length

/-- What a name means: the first description bearing it in the innermost layer that has one. -/
def lookup (s : Scope) (name : String) : Option Description :=
  s.layers.findSome? fun layer => layer.find? (·.name = name)

/-- Keep the descriptions with a property, in every layer. -/
def filter (s : Scope) (keep : Description → Bool) : Scope :=
  ⟨s.inner.filter keep, s.outer.map (·.filter keep)⟩

/-- Looking up layer by layer finds the first description of that name among all elements. -/
theorem lookup_eq_find? (s : Scope) (name : String) :
    s.lookup name = s.elements.find? (·.name = name) := by
  unfold lookup elements
  induction s.layers with
  | nil => rfl
  | cons layer layers ih =>
    rw [List.findSome?_cons, List.flatten_cons, List.find?_append]
    cases layer.find? (·.name = name) with
    | none => exact ih
    | some d => rfl

/-- What a name means is in the scope and bears the name. -/
theorem of_lookup {s : Scope} {name : String} {d : Description} (h : s.lookup name = some d) :
    d ∈ s.elements ∧ d.name = name := by
  rw [lookup_eq_find?] at h
  exact ⟨List.mem_of_find?_eq_some h, by simpa using List.find?_some h⟩

/-- Every name in the scope means something. -/
theorem exists_lookup_of_mem {s : Scope} {d : Description} (h : d ∈ s.elements) :
    ∃ e, s.lookup d.name = some e := by
  rw [lookup_eq_find?]
  exact Option.isSome_iff_exists.1 (List.find?_isSome.2 ⟨d, h, by simp⟩)

@[simp] theorem layers_push (elements : List Description) (s : Scope) :
    (s.push elements).layers = elements :: s.layers := rfl

/-- A new layer comes before all that was there. -/
@[simp] theorem elements_push (elements : List Description) (s : Scope) :
    (s.push elements).elements = elements ++ s.elements := rfl

/-- A single layer shows its descriptions. -/
@[simp] theorem elements_single (elements : List Description) :
    (single elements).elements = elements :=
  List.append_nil elements

/-- Filtering layer by layer filters the elements. -/
@[simp] theorem elements_filter (s : Scope) (keep : Description → Bool) :
    (s.filter keep).elements = s.elements.filter keep := by
  simp [elements, layers, filter, List.filter_flatten]

/-- Looking up in what is kept finds the first description of that name that is kept. -/
theorem lookup_filter (s : Scope) (keep : Description → Bool) (name : String) :
    (s.filter keep).lookup name = s.elements.find? fun d => keep d && decide (d.name = name) := by
  rw [lookup_eq_find?, elements_filter, List.find?_filter]
  simp

/-- Filtering keeps all layers. -/
@[simp] theorem depth_filter (s : Scope) (keep : Description → Bool) :
    (s.filter keep).depth = s.depth := by
  simp [depth, layers, filter]

end Scope

end ModelBinding
