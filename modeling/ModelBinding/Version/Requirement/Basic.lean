import ModelBinding.Version.Basic

/-!
# Version requirements

A requirement is a list of comparators, all of which a version must satisfy. A
version with a pre-release must besides be named, in its three numbers, by a
comparator that has a pre-release itself; so the requirement without comparators
admits every release and no pre-release (`admits_any_iff`).
-/

namespace ModelBinding.Version

/-- How a comparator compares. -/
inductive Operator where
  | exact
  | greater
  | greaterEq
  | less
  | lessEq
  /-- Corrections of the version given. -/
  | tilde
  /-- Versions compatible with the version given. -/
  | caret
  /-- Any value in the parts not given. -/
  | wildcard
  deriving DecidableEq

/-- A condition on versions. -/
structure Comparator where
  /-- How versions are compared with the one given. -/
  op : Operator
  /-- The major number. -/
  major : Nat
  /-- The minor number, if given. -/
  minor : Option Nat := none
  /-- The patch number, if given. -/
  patch : Option Nat := none
  /-- The pre-release, if given. -/
  preRelease : List Segment := []
  deriving DecidableEq

/-- A list of conditions on versions. -/
structure Requirement where
  /-- The conditions. -/
  comparators : List Comparator
  deriving DecidableEq

namespace Comparator

/-- The parts given are equal, and so are the pre-releases. -/
def isExact (c : Comparator) (v : Version) : Bool :=
  v.major = c.major && c.minor.all (v.minor = ·) && c.patch.all (v.patch = ·) &&
    decide (v.preRelease = c.preRelease)

/-- Decide by the first part given that differs, in the direction of `later`; where a part is
missing and all before it are equal, the answer is no. -/
def isBeyond (later : Nat → Nat → Bool) (preRelease : Ordering) (c : Comparator) (v : Version) :
    Bool :=
  if v.major ≠ c.major then later v.major c.major
  else
    match c.minor with
    | none => false
    | some minor =>
      if v.minor ≠ minor then later v.minor minor
      else
        match c.patch with
        | none => false
        | some patch =>
          if v.patch ≠ patch then later v.patch patch
          else comparePreRelease v.preRelease c.preRelease == preRelease

/-- The version comes after the one given. -/
def isGreater : Comparator → Version → Bool := isBeyond (fun a b => b < a) .gt

/-- The version comes before the one given. -/
def isLess : Comparator → Version → Bool := isBeyond (fun a b => a < b) .lt

/-- The pre-release does not come before the one given. -/
def preReleaseReached (c : Comparator) (v : Version) : Bool :=
  comparePreRelease v.preRelease c.preRelease != .lt

/-- The same major and minor numbers, and a patch not before the one given. -/
def isCorrection (c : Comparator) (v : Version) : Bool :=
  if v.major ≠ c.major then false
  else if c.minor.any (v.minor ≠ ·) then false
  else
    match c.patch with
    | some patch => if v.patch ≠ patch then patch < v.patch else c.preReleaseReached v
    | none => c.preReleaseReached v

/-- Not before the one given, and equal to it up to and including the leftmost number that is not
zero. -/
def isCompatible (c : Comparator) (v : Version) : Bool :=
  if v.major ≠ c.major then false
  else
    match c.minor, c.patch with
    | none, _ => true
    | some minor, none => if 0 < c.major then minor ≤ v.minor else v.minor = minor
    | some minor, some patch =>
      if 0 < c.major then
        if v.minor ≠ minor then minor < v.minor
        else if v.patch ≠ patch then patch < v.patch
        else c.preReleaseReached v
      else if 0 < minor then
        if v.minor ≠ minor then false
        else if v.patch ≠ patch then patch < v.patch
        else c.preReleaseReached v
      else if v.minor ≠ minor || v.patch ≠ patch then false
      else c.preReleaseReached v

/-- Whether a version satisfies a comparator, pre-releases aside. -/
def admits (c : Comparator) (v : Version) : Bool :=
  match c.op with
  | .exact | .wildcard => c.isExact v
  | .greater => c.isGreater v
  | .greaterEq => c.isExact v || c.isGreater v
  | .less => c.isLess v
  | .lessEq => c.isExact v || c.isLess v
  | .tilde => c.isCorrection v
  | .caret => c.isCompatible v

/-- Whether a comparator gives a pre-release of the same three numbers. -/
def namesPreReleaseOf (c : Comparator) (v : Version) : Bool :=
  c.major = v.major && c.minor = some v.minor && c.patch = some v.patch &&
    !c.preRelease.isEmpty

end Comparator

namespace Requirement

/-- The requirement without conditions. -/
def any : Requirement := ⟨[]⟩

/-- Whether a version meets a requirement. -/
def admits (r : Requirement) (v : Version) : Bool :=
  r.comparators.all (·.admits v) &&
    (v.preRelease.isEmpty || r.comparators.any (·.namesPreReleaseOf v))

/-- The requirement without conditions is met by releases only. -/
theorem admits_any_iff (v : Version) : any.admits v = true ↔ v.preRelease = [] := by
  simp [admits, any]

end Requirement

end ModelBinding.Version
