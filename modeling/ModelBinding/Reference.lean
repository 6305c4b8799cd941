import ModelBinding.Handle

/-!
# References

A reference is the text under which a node is referred to, with the memory of what
it was found to mean. The memory distinguishes a reference that was never looked up
from one that was looked up in vain.
-/

namespace ModelBinding

/-- A textual reference to a node. -/
structure Reference where
  /-- The name that the document gives. -/
  text : String
  /-- `none` before the first look-up; then what it found, if anything. -/
  cached : Option (Option NodePtr) := none
  deriving DecidableEq

namespace Reference

/-- The answer of a reference, looked up only if it is not remembered, and the reference that
remembers it. -/
def resolveWith (r : Reference) (lookUp : String → Option NodePtr) :
    Option NodePtr × Reference :=
  match r.cached with
  | some found => (found, r)
  | none => (lookUp r.text, { r with cached := some (lookUp r.text) })

/-- Forget what was found. -/
def reset (r : Reference) : Reference := { r with cached := none }

/-- After a look-up the reference remembers its answer. -/
theorem cached_resolveWith (r : Reference) (lookUp : String → Option NodePtr) :
    (r.resolveWith lookUp).2.cached = some (r.resolveWith lookUp).1 := by
  cases h : r.cached <;> simp [resolveWith, h]

/-- A reference that was looked up once answers the same whatever is asked later. -/
theorem resolveWith_resolveWith (r : Reference) (f g : String → Option NodePtr) :
    (r.resolveWith f).2.resolveWith g = r.resolveWith f := by
  cases h : r.cached <;> simp [resolveWith, h]

@[simp] theorem text_resolveWith (r : Reference) (lookUp : String → Option NodePtr) :
    (r.resolveWith lookUp).2.text = r.text := by
  cases h : r.cached <;> simp [resolveWith, h]

end Reference

end ModelBinding
