import ModelBinding.Pool
import ModelBinding.Text.Identifier

/-!
# Names

A qualified name is a sequence of segments joined by full stops. This module joins
and counts segments, turns any text into a segment, and finds the first name of the
sequence `base`, `base-2`, `base-3`, … that is still free.
-/

namespace ModelBinding.Name

/-- The character between the segments of a qualified name. -/
def separator : Char := '.'

/-- The character that takes the place of one that no segment may hold. -/
def replacement : Char := '_'

/-- The name `inner` qualified by `outer`. -/
def qualify (outer inner : String) : String := outer ++ String.singleton separator ++ inner

/-- Segments joined to one name, outermost first. -/
def join (segments : List String) : String :=
  (String.singleton separator).intercalate segments

/-- Whether a name begins with a text. -/
def startsWith (start name : String) : Bool := start.toList.isPrefixOf name.toList

/-- Whether a name is qualified by `outer`. -/
def isInside (outer name : String) : Bool := startsWith (outer ++ String.singleton separator) name

/-- The number of segments of a name: one more than its separators. -/
def segmentCount (name : String) : Nat := name.toList.count separator + 1

/-- Whether a character may stand in a segment: identifier characters, hyphens and low lines. -/
def isAllowed (c : Char) : Bool := c == '-' || c == '_' || Text.isIdentifierContinue c

/-- Replace every character that no segment may hold, one for one. -/
def normalize (proposal : String) : String :=
  String.ofList (proposal.toList.map fun c => if isAllowed c then c else replacement)

/-- The names tried for a base, in order: the base, then the base with `-2`, `-3` and so on. -/
def candidate (base : String) : Nat → String
  | 0 => base
  | n + 1 => base ++ "-" ++ toString (n + 2)

/-- The first candidate from the `n`-th on that is not taken. A candidate that is taken is met
only once, so it is dropped from the list, which bounds the search by the length of the list. -/
def firstFree (base : String) (n : Nat) (taken : List String) : String :=
  if candidate base n ∈ taken then
    firstFree base (n + 1) (Pool.without (candidate base n) taken)
  else candidate base n
termination_by taken.length
decreasing_by exact Pool.length_without_lt ‹_›

/-- A segment close to the proposal that is none of the existing names. -/
def fresh (proposal : String) (existing : List String) : String :=
  firstFree (normalize proposal) 0 existing

/-- A qualified name is inside what qualifies it. -/
theorem isInside_qualify (outer inner : String) : isInside outer (qualify outer inner) = true := by
  simp [isInside, qualify, startsWith]

/-- A single segment is its own name. -/
@[simp] theorem join_singleton (segment : String) : join [segment] = segment :=
  String.intercalate_singleton

/-- Segments after others are qualified by them. -/
theorem join_append {outer inner : List String} (houter : outer ≠ []) (hinner : inner ≠ []) :
    join (outer ++ inner) = qualify (join outer) (join inner) :=
  String.intercalate_append_of_ne_nil houter hinner

/-- A qualified name is longer than what is qualified. -/
theorem length_lt_length_qualify (outer inner : String) :
    inner.length < (qualify outer inner).length := by
  simp only [qualify, String.length_append, String.length_singleton]
  omega

/-- Two segments make a qualified name. -/
@[simp] theorem join_pair (outer inner : String) : join [outer, inner] = qualify outer inner := by
  rw [← List.singleton_append, join_append (by simp) (by simp), join_singleton, join_singleton]

/-- A name is qualified by one outermost segment at most. -/
theorem qualify_inj {outer outer' inner inner' : String} (h : separator ∉ outer.toList)
    (h' : separator ∉ outer'.toList) (heq : qualify outer inner = qualify outer' inner') :
    outer = outer' ∧ inner = inner' := by
  have hlists : outer.toList ++ separator :: inner.toList =
      outer'.toList ++ separator :: inner'.toList := by
    simpa [qualify] using congrArg String.toList heq
  -- Neither front holds a separator, so neither can go on where the other one ends.
  have hfronts : outer.toList = outer'.toList ∧ inner.toList = inner'.toList := by
    rcases List.append_eq_append_iff.1 hlists with ⟨rest, hfront, hback⟩ | ⟨rest, hfront, hback⟩
    · cases rest <;> simp_all
    · cases rest <;> simp_all
  exact ⟨String.toList_inj.1 hfronts.1, String.toList_inj.1 hfronts.2⟩

/-- A name is qualified as the innermost segment of one name at most. -/
theorem qualify_inj_last {outer outer' inner inner' : String} (h : separator ∉ inner.toList)
    (h' : separator ∉ inner'.toList) (heq : qualify outer inner = qualify outer' inner') :
    outer = outer' ∧ inner = inner' := by
  have hlists : outer.toList ++ separator :: inner.toList =
      outer'.toList ++ separator :: inner'.toList := by
    simpa [qualify] using congrArg String.toList heq
  -- Neither back holds a separator, so neither can begin before the other one.
  have hbacks : outer.toList = outer'.toList ∧ inner.toList = inner'.toList := by
    rcases List.append_eq_append_iff.1 hlists with ⟨rest, hfront, hback⟩ | ⟨rest, hfront, hback⟩
    · cases rest <;> simp_all
    · cases rest <;> simp_all
  exact ⟨String.toList_inj.1 hbacks.1, String.toList_inj.1 hbacks.2⟩

/-- Qualifying twice is qualifying by a qualified name. -/
theorem qualify_assoc (outer middle inner : String) :
    qualify outer (qualify middle inner) = qualify (qualify outer middle) inner := by
  simp only [qualify, String.append_assoc]

/-- No segment holds a separator. -/
theorem isAllowed_separator : isAllowed separator = false := by decide

/-- Normalizing keeps the number of characters. -/
theorem length_normalize (proposal : String) : (normalize proposal).length = proposal.length := by
  simp [normalize, ← String.length_toList]

/-- A name that is free is taken as it is. -/
theorem firstFree_of_notMem {base : String} {n : Nat} {taken : List String}
    (h : candidate base n ∉ taken) : firstFree base n taken = candidate base n := by
  rw [firstFree, if_neg h]

end ModelBinding.Name
