import ModelBinding.Text.Quoted

/-!
# Errors in versions and requirements

What can be wrong with the text of a version or of a version requirement, and the
message for each.
-/

namespace ModelBinding.Version

/-- The parts of a version, as messages name them. -/
inductive Part where
  | major
  | minor
  | patch
  | preRelease
  | build
  deriving DecidableEq

/-- How messages name a part. -/
def Part.describe : Part → String
  | .major => "major version number"
  | .minor => "minor version number"
  | .patch => "patch version number"
  | .preRelease => "pre-release identifier"
  | .build => "build metadata"

/-- What is wrong with a text that should be a version or a requirement. -/
inductive ParseError where
  /-- A version was expected and there is no text. -/
  | empty
  /-- The text ends where a part should begin or go on. -/
  | unexpectedEnd (part : Part)
  /-- A part begins with something else. -/
  | unexpectedChar (part : Part) (found : Char)
  /-- A part is followed by something that may not follow it. -/
  | unexpectedCharAfter (part : Part) (found : Char)
  /-- A comparator is followed by something else than a comma. -/
  | expectedComma (part : Part) (found : Char)
  /-- A number has a zero in front. -/
  | leadingZero (part : Part)
  /-- A number does not fit in 64 bits. -/
  | overflow (part : Part)
  /-- A segment between dots holds nothing. -/
  | emptySegment (part : Part)
  /-- A wildcard stands beside other comparators. -/
  | wildcardNotAlone (wildcard : Char)
  /-- A wildcard is followed by something else than the end or a comma. -/
  | unexpectedAfterWildcard
  /-- There are more comparators than a requirement may have. -/
  | tooManyComparators
  deriving DecidableEq

/-- The message for an error. -/
def ParseError.message : ParseError → String
  | .empty => "empty string, expected a semver version"
  | .unexpectedEnd part => "unexpected end of input while parsing " ++ part.describe
  | .unexpectedChar part found =>
    "unexpected character " ++ Text.quoteChar found ++ " while parsing " ++ part.describe
  | .unexpectedCharAfter part found =>
    "unexpected character " ++ Text.quoteChar found ++ " after " ++ part.describe
  | .expectedComma part found =>
    "expected comma after " ++ part.describe ++ ", found " ++ Text.quoteChar found
  | .leadingZero part => "invalid leading zero in " ++ part.describe
  | .overflow part => "value of " ++ part.describe ++ " exceeds u64::MAX"
  | .emptySegment part => "empty identifier segment in " ++ part.describe
  | .wildcardNotAlone wildcard =>
    "wildcard req (" ++ String.singleton wildcard ++
      ") must be the only comparator in the version req"
  | .unexpectedAfterWildcard => "unexpected character after wildcard in version req"
  | .tooManyComparators => "excessive number of version comparators"

end ModelBinding.Version
