import ModelBinding.Handle
import ModelBinding.Kind

/-!
# Diagnostics

A diagnostic is a finding at a node, perhaps at one of its properties, with a message
and with places that help to understand it. The findings of this library are a
reference that means nothing, a reference to something that is not visible, and an
identifier that is taken.
-/

namespace ModelBinding

/-- How serious a finding is. -/
inductive Severity where
  | error
  | warning
  | info
  | hint
  deriving DecidableEq

/-- How a severity is shown. -/
def Severity.name : Severity → String
  | .error => "Error"
  | .warning => "Warning"
  | .info => "Info"
  | .hint => "Hint"

/-- The number of a severity in the Language Server Protocol. -/
def Severity.number : Severity → Nat
  | .error => 1
  | .warning => 2
  | .info => 3
  | .hint => 4

/-- A place that helps to understand a finding. -/
structure RelatedPlace where
  /-- The node. -/
  node : NodePtr
  /-- What it has to do with the finding. -/
  message : String
  deriving DecidableEq

/-- A finding. -/
structure Diagnostic where
  /-- Where it was found. -/
  node : NodePtr
  /-- The property, if one is concerned. -/
  property : Option Property := none
  /-- How serious it is. -/
  severity : Severity
  /-- What sort of finding it is. -/
  code : Option String := none
  /-- The finding in words. -/
  message : String
  /-- Places that help to understand it. -/
  related : List RelatedPlace := []
  deriving DecidableEq

namespace Diagnostic

/-- The code of references that mean nothing. -/
def unresolvedCode : String := "E0001"

/-- The code of references to what is not visible. -/
def invisibleCode : String := "E0002"

/-- The code of identifiers that are taken. -/
def duplicateCode : String := "E0003"

/-- An error of which nothing but the message is known. -/
def error (node : NodePtr) (message : String) : Diagnostic := { node, severity := .error, message }

/-- A warning of which nothing but the message is known. -/
def warning (node : NodePtr) (message : String) : Diagnostic :=
  { error node message with severity := .warning }

/-- The finding with one more related place. -/
def withRelated (d : Diagnostic) (place : RelatedPlace) : Diagnostic :=
  { d with related := d.related ++ [place] }

/-- The reference `text` under a property of a node of the kind means nothing. -/
def unresolved (node : NodePtr) (kind : NodeKind) (p : Property) (text : String) : Diagnostic :=
  { error node ("could not resolve " ++ kind.name ++ " " ++ p.name ++ " '" ++ text ++ "'") with
    property := some p
    code := some unresolvedCode }

/-- The reference `text` names the node `target` of a data model that is not visible. -/
def invisible (node : NodePtr) (p : Property) (text : String) (target : NodePtr)
    (owner : DataModelId) : Diagnostic :=
  { error node ("'" ++ text ++ "' is not visible here; add a dependency on data model '" ++
      owner.text ++ "'") with
    property := some p
    code := some invisibleCode
    related := [⟨target, "declared here"⟩] }

/-- The name of a node is that of the node `first`. -/
def duplicate (node : NodePtr) (name : String) (first : NodePtr) : Diagnostic :=
  { error node ("duplicate id '" ++ name ++ "'") with
    code := some duplicateCode
    related := [⟨first, "first declared here"⟩] }

end Diagnostic

end ModelBinding
