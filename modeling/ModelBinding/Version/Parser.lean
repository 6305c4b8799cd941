import ModelBinding.Version.Basic
import ModelBinding.Version.Error

/-!
# Reading versions

A version is read from the left, and the first thing that is wrong is the error. The
readers for a number and for dotted segments return what is left of the text; they
serve for requirements too.
-/

namespace ModelBinding.Version

/-- The largest number a part may have. -/
def maxNumber : Nat := 18446744073709551615

/-- The value of a decimal digit. -/
def digitValue (c : Char) : Nat := c.toNat - '0'.toNat

/-- The rest of a number of which `value` has been read. A further digit after a zero is a leading
zero, and the value may not exceed `maxNumber`. -/
def digitsFrom (part : Part) (value : Nat) : List Char → Except ParseError (Nat × List Char)
  | [] => .ok (value, [])
  | c :: cs =>
    if c.isDigit then
      if value = 0 then .error (.leadingZero part)
      else if maxNumber < 10 * value + digitValue c then .error (.overflow part)
      else digitsFrom part (10 * value + digitValue c) cs
    else .ok (value, c :: cs)

/-- A number, which has at least one digit. -/
def number (part : Part) : List Char → Except ParseError (Nat × List Char)
  | [] => .error (.unexpectedEnd part)
  | c :: cs =>
    if c.isDigit then digitsFrom part (digitValue c) cs else .error (.unexpectedChar part c)

/-- The dot after a number. -/
def dot (part : Part) : List Char → Except ParseError (List Char)
  | [] => .error (.unexpectedEnd part)
  | c :: cs => if c = '.' then .ok cs else .error (.unexpectedCharAfter part c)

/-- Whether a character may stand in a segment: ASCII letters and digits, and hyphens. -/
def isSegmentChar (c : Char) : Bool := c.isAlphanum || c == '-'

/-- A whole segment. It may not be empty, and in a pre-release a number has no zero in front. -/
def segment (part : Part) (cs : List Char) : Except ParseError (List Char) :=
  if cs = [] then .error (.emptySegment part)
  else if part = .preRelease ∧ cs.all Char.isDigit ∧ 1 < cs.length ∧ cs.head? = some '0' then
    .error (.leadingZero part)
  else .ok cs

/-- Dotted segments; `current` is what has been read of the first. -/
def segments (part : Part) (current : List Char) :
    List Char → Except ParseError (List (List Char) × List Char)
  | [] => do
    let s ← segment part current
    .ok ([s], [])
  | c :: cs =>
    if isSegmentChar c then segments part (current ++ [c]) cs
    else if c = '.' then do
      let s ← segment part current
      let (ss, rest) ← segments part [] cs
      .ok (s :: ss, rest)
    else do
      let s ← segment part current
      .ok ([s], c :: cs)

/-- Dotted segments behind a mark, if the mark is there; then there must be at least one. -/
def marked (mark : Char) (part : Part) :
    List Char → Except ParseError (List (List Char) × List Char)
  | [] => .ok ([], [])
  | c :: cs => if c = mark then segments part [] cs else .ok ([], c :: cs)

/-- Read a version. -/
def parse (text : String) : Except ParseError Version := do
  if text.isEmpty then .error .empty
  let (major, cs) ← number .major text.toList
  let cs ← dot .major cs
  let (minor, cs) ← number .minor cs
  let cs ← dot .minor cs
  let (patch, cs) ← number .patch cs
  let (preRelease, cs) ← marked '-' .preRelease cs
  let (build, cs) ← marked '+' .build cs
  match cs with
  | [] =>
    .ok { major, minor, patch
          preRelease := preRelease.map Segment.ofChars
          build := build.map String.ofList }
  | c :: _ =>
    let last := if build ≠ [] then .build else if preRelease ≠ [] then .preRelease else .patch
    .error (.unexpectedCharAfter last c)

end ModelBinding.Version
