/-!
# Versions

A version is three numbers, an optional pre-release and optional build metadata.
Pre-releases are ordered segment by segment; a version without one comes after all
versions with one. Build metadata is shown and otherwise ignored. Main statement:
a pre-release equals itself in the order (`comparePreRelease_self`).
-/

namespace ModelBinding

/-- One of the dot-separated segments of a pre-release. -/
inductive Version.Segment where
  /-- A segment of digits only, compared as a number. -/
  | number (n : Nat)
  /-- Any other segment, compared as text. -/
  | text (s : String)
  deriving DecidableEq

/-- A version of a data model. -/
structure Version where
  /-- Incompatible changes. -/
  major : Nat
  /-- Additions. -/
  minor : Nat
  /-- Corrections. -/
  patch : Nat
  /-- The segments of the pre-release; none for a release. -/
  preRelease : List Version.Segment := []
  /-- The segments of the build metadata. -/
  build : List String := []
  deriving DecidableEq

namespace Version

/-- The version of a data model that states none. -/
def zero : Version := { major := 0, minor := 0, patch := 0 }

/-- The number that a row of decimal digits denotes. -/
def numberOfDigits (digits : List Char) : Nat :=
  digits.foldl (fun n c => 10 * n + (c.toNat - '0'.toNat)) 0

/-- A written segment, read as a number if it holds digits only. -/
def Segment.ofChars (cs : List Char) : Segment :=
  if cs.all Char.isDigit then .number (numberOfDigits cs) else .text (String.ofList cs)

/-- The written form of a segment. -/
def Segment.render : Segment → String
  | .number n => toString n
  | .text s => s

/-- The order of segments: numbers by value, texts by code point, numbers before texts. -/
def Segment.compare : Segment → Segment → Ordering
  | .number m, .number n => Ord.compare m n
  | .number _, .text _ => .lt
  | .text _, .number _ => .gt
  | .text s, .text t => Ord.compare s t

/-- The order of lists of segments: the first difference decides, and of two lists that differ
only in length the shorter comes first. -/
def compareSegments : List Segment → List Segment → Ordering
  | [], [] => .eq
  | [], _ :: _ => .lt
  | _ :: _, [] => .gt
  | s :: ss, t :: ts =>
    match s.compare t with
    | .eq => compareSegments ss ts
    | o => o

/-- The order of pre-releases: as lists of segments, but a release comes last. -/
def comparePreRelease : List Segment → List Segment → Ordering
  | [], [] => .eq
  | [], _ :: _ => .gt
  | _ :: _, [] => .lt
  | s, t => compareSegments s t

/-- The written form of a version. -/
def render (v : Version) : String :=
  toString v.major ++ "." ++ toString v.minor ++ "." ++ toString v.patch ++
    (if v.preRelease = [] then ""
      else "-" ++ ".".intercalate (v.preRelease.map (·.render))) ++
    (if v.build = [] then "" else "+" ++ ".".intercalate v.build)

@[simp] theorem Segment.compare_self (s : Segment) : s.compare s = .eq := by
  cases s with
  | number n => simp [Segment.compare]
  | text t => simp [Segment.compare]

@[simp] theorem compareSegments_self (ss : List Segment) : compareSegments ss ss = .eq := by
  induction ss with
  | nil => rfl
  | cons s ss ih => simp [compareSegments, ih]

/-- A pre-release comes neither before nor after itself. -/
@[simp] theorem comparePreRelease_self (ss : List Segment) : comparePreRelease ss ss = .eq := by
  cases ss with
  | nil => rfl
  | cons s ss => simp [comparePreRelease]

end Version

end ModelBinding
