import ModelBinding.Text.Blank
import ModelBinding.Version.Parser
import ModelBinding.Version.Requirement.Basic

/-!
# Reading requirements

A requirement is written as comparators between commas. Blank text states no
condition, and a wildcard states none either if it is all there is.
-/

namespace ModelBinding.Version.Requirement

/-- The most comparators a requirement may have. -/
def maxComparators : Nat := 32

/-- The text behind leading spaces. -/
def skipSpaces (cs : List Char) : List Char := cs.dropWhile (· = ' ')

/-- Whether a character stands for any number. -/
def isWildcard (c : Char) : Bool := c == '*' || c == 'x' || c == 'X'

/-- The operator in front of a comparator, if there is one, and the rest. -/
def operator : List Char → Option Operator × List Char
  | '=' :: cs => (some .exact, cs)
  | '>' :: '=' :: cs => (some .greaterEq, cs)
  | '>' :: cs => (some .greater, cs)
  | '<' :: '=' :: cs => (some .lessEq, cs)
  | '<' :: cs => (some .less, cs)
  | '~' :: cs => (some .tilde, cs)
  | '^' :: cs => (some .caret, cs)
  | cs => (none, cs)

/-- What stands in the place of a minor or patch number. -/
inductive Component where
  /-- Nothing, not even the dot. -/
  | absent
  /-- A wildcard. -/
  | any
  /-- A number. -/
  | exactly (n : Nat)
  deriving DecidableEq

/-- The number of a component, if it has one. -/
def Component.number? : Component → Option Nat
  | .exactly n => some n
  | _ => none

/-- A dot with a wildcard or a number behind it, if there is a dot. -/
def component (part : Part) : List Char → Except ParseError (Component × List Char)
  | '.' :: c :: cs =>
    if isWildcard c then .ok (.any, cs)
    else do
      let (n, rest) ← number part (c :: cs)
      .ok (.exactly n, rest)
  | ['.'] => .error (.unexpectedEnd part)
  | cs => .ok (.absent, cs)

/-- The patch component. Behind a wildcard only a wildcard may follow. -/
def patchComponent (minor : Component) : List Char → Except ParseError (Component × List Char)
  | '.' :: cs =>
    if minor = .any ∧ !(cs.head?.any isWildcard) then .error .unexpectedAfterWildcard
    else component .patch ('.' :: cs)
  | cs => .ok (.absent, cs)

/-- Dotted segments behind a mark, which only a full version may have. -/
def markedIfFull (patch : Component) (mark : Char) (part : Part) (cs : List Char) :
    Except ParseError (List (List Char) × List Char) :=
  if patch.number?.isSome then marked mark part cs else .ok ([], cs)

/-- One comparator, the last part it gives, and the rest behind trailing spaces. -/
def comparator (cs : List Char) : Except ParseError (Comparator × Part × List Char) := do
  let (op, cs) := operator cs
  let (major, cs) ← number .major (skipSpaces cs)
  let (minor, cs) ← component .minor cs
  let (patch, cs) ← patchComponent minor cs
  let (preRelease, cs) ← markedIfFull patch '-' .preRelease cs
  let (build, cs) ← markedIfFull patch '+' .build cs
  let implied := if minor = .any ∨ patch = .any then .wildcard else .caret
  let last :=
    if build ≠ [] then .build
    else if preRelease ≠ [] then .preRelease
    else if patch ≠ .absent then .patch
    else if minor ≠ .absent then .minor
    else .major
  .ok ({ op := op.getD implied, major, minor := minor.number?, patch := patch.number?
         preRelease := preRelease.map Segment.ofChars }, last, skipSpaces cs)

/-- The wildcard in front of a text in which it stands alone, up to spaces, before the end or a
comma. -/
def loneWildcard? : List Char → Option Char
  | [] => none
  | c :: cs =>
    if isWildcard c then
      match skipSpaces cs with
      | [] => some c
      | d :: _ => if d = ',' then some c else none
    else none

/-- Comparators separated by commas, at most `budget` of them. A comparator that fails because it
is a wildcard is reported as such. -/
def readComparators : (budget : Nat) → List Char → Except ParseError (List Comparator)
  | 0, _ => .error .tooManyComparators
  | budget + 1, cs =>
    match comparator cs with
    | .error e =>
      match loneWildcard? cs with
      | some w => .error (.wildcardNotAlone w)
      | none => .error e
    | .ok (c, last, rest) =>
      match rest with
      | [] => .ok [c]
      | d :: rest =>
        if d = ',' then do
          let others ← readComparators budget (skipSpaces rest)
          .ok (c :: others)
        else .error (.expectedComma last d)

/-- Read a requirement. A wildcard in front must be all there is. -/
def parse (text : String) : Except ParseError Requirement :=
  match skipSpaces text.toList with
  | [] => Requirement.mk <$> readComparators maxComparators []
  | c :: cs =>
    if isWildcard c then
      match skipSpaces cs with
      | [] => .ok any
      | d :: _ => .error (if d = ',' then .wildcardNotAlone c else .unexpectedAfterWildcard)
    else Requirement.mk <$> readComparators maxComparators (c :: cs)

/-- The requirement that a text states; blank text states no condition. -/
def ofText (text : String) : Except ParseError Requirement :=
  if Text.isBlank text then .ok any else parse text

end ModelBinding.Version.Requirement
