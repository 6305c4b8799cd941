import ModelBinding.Handle
import ModelBinding.Version.Requirement.Parser

/-!
# Data models

A data model is a package of documents: it has an identifier, the name by which other
models qualify its declarations, a version, the directory whose files it owns, and
the data models it depends on. A file belongs to the directory `root` if it is that
very place, or if its address goes on behind `root` at a slash.
-/

namespace ModelBinding

/-- That a data model depends on another in certain versions. -/
structure Dependency where
  /-- The data model depended on; it need not be registered. -/
  target : DataModelId
  /-- The versions that will do. -/
  requirement : Version.Requirement
  deriving DecidableEq

/-- A package of model documents. -/
structure DataModel where
  /-- The identifier it is registered under. -/
  id : DataModelId
  /-- The name that qualifies its declarations elsewhere. -/
  referenceName : String
  /-- The version it states. -/
  version : Version := .zero
  /-- The place under which its documents lie. -/
  root : String
  /-- What it depends on, in order of declaration. -/
  dependencies : List Dependency := []
  deriving DecidableEq

/-- What can be wrong with a data model or with registering one. -/
inductive RegistryError where
  /-- A data model of that identifier is there already. -/
  | duplicate (id : DataModelId)
  /-- There is no data model of that identifier. -/
  | unknown (id : DataModelId)
  /-- The text of the version is none. -/
  | invalidVersion (id : DataModelId) (text : String) (cause : Version.ParseError)
  /-- The text of a dependency's requirement is none. -/
  | invalidRequirement (target : DataModelId) (text : String) (cause : Version.ParseError)
  deriving DecidableEq

/-- The message for an error. -/
def RegistryError.message : RegistryError → String
  | .duplicate id => "data model '" ++ id.text ++ "' is already registered"
  | .unknown id => "unknown data model '" ++ id.text ++ "'"
  | .invalidVersion id text cause =>
    "invalid version '" ++ text ++ "' for data model '" ++ id.text ++ "': " ++ cause.message
  | .invalidRequirement target text cause =>
    "invalid version requirement '" ++ text ++ "' on dependency '" ++ target.text ++ "': " ++
      cause.message

namespace DataModel

/-- The data model with the version that a text states. -/
def withVersion (m : DataModel) (text : String) : Except RegistryError DataModel :=
  match Version.parse text with
  | .ok version => .ok { m with version }
  | .error cause => .error (.invalidVersion m.id text cause)

/-- The data model with one more dependency, in the versions that a text states. -/
def withDependency (m : DataModel) (target : DataModelId) (text : String) :
    Except RegistryError DataModel :=
  match Version.Requirement.ofText text with
  | .ok requirement => .ok { m with dependencies := m.dependencies ++ [⟨target, requirement⟩] }
  | .error cause => .error (.invalidRequirement target text cause)

/-- Whether an address is `root` itself or goes on behind it at a slash. -/
def isUnder (root uri : List Char) : Bool :=
  root == uri ||
    (root.isPrefixOf uri && (root.getLast? == some '/' || uri[root.length]? == some '/'))

/-- Whether a file lies under the root of the data model. -/
def owns (m : DataModel) (uri : String) : Bool := isUnder m.root.toList uri.toList

/-- A data model owns its root. -/
@[simp] theorem owns_root (m : DataModel) : m.owns m.root = true := by
  simp [owns, isUnder]

/-- An address lies under a root exactly when it is the root, or goes on behind it at a slash that
ends the root or follows it. -/
theorem isUnder_iff (root uri : List Char) :
    isUnder root uri = true ↔
      root = uri ∨ ∃ rest, uri = root ++ rest ∧
        (root.getLast? = some '/' ∨ rest.head? = some '/') := by
  simp only [isUnder, Bool.or_eq_true, beq_iff_eq, Bool.and_eq_true, List.isPrefixOf_iff_prefix]
  refine or_congr_right ⟨?_, ?_⟩
  · rintro ⟨⟨rest, rfl⟩, hslash⟩
    refine ⟨rest, rfl, hslash.imp_right fun h => ?_⟩
    rw [List.getElem?_append_right (Nat.le_refl _)] at h
    simpa [List.head?_eq_getElem?] using h
  · rintro ⟨rest, rfl, hslash⟩
    refine ⟨List.prefix_append _ _, hslash.imp_right fun h => ?_⟩
    rw [List.getElem?_append_right (Nat.le_refl _)]
    simpa [List.head?_eq_getElem?] using h

end DataModel

end ModelBinding
