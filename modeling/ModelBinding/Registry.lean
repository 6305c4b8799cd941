import ModelBinding.DataModel
import ModelBinding.Pool

/-!
# The registry of data models

The registry knows the data models of a workspace, in the order they were registered.
It answers three questions: which data model owns a file, which data models are
visible from one, and under which name one is referred to.

A file belongs to the data model with the longest root it lies under; of several with
the same root the one registered last owns it. A data model sees itself and what its
counted dependencies lead to, either in one step or in any number. Where visibility is
asked for in order to refer to something, a dependency counts only if its target is
registered in a version that the requirement admits.
-/

namespace ModelBinding

/-- How far dependencies lead. -/
inductive Visibility where
  /-- To what is depended on. -/
  | direct
  /-- Also to what that depends on, and so forth. -/
  | transitive
  deriving DecidableEq

/-- How a mode is shown. -/
def Visibility.name : Visibility → String
  | .direct => "Direct"
  | .transitive => "Transitive"

/-- The data models of a workspace. -/
structure Registry where
  /-- How far dependencies lead. -/
  mode : Visibility := .direct
  /-- The data models, in order of registration. -/
  models : List DataModel := []
  deriving DecidableEq

namespace Registry

/-- The data model registered under an identifier. -/
def get? (r : Registry) (id : DataModelId) : Option DataModel := r.models.find? (·.id = id)

/-- Add a data model under an identifier that is free. -/
def register (r : Registry) (m : DataModel) : Except RegistryError Registry :=
  if (r.get? m.id).isSome then .error (.duplicate m.id)
  else .ok { r with models := r.models ++ [m] }

/-- Replace the data model registered under the same identifier, in its place. -/
def update (r : Registry) (m : DataModel) : Except RegistryError Registry :=
  if (r.get? m.id).isSome then
    .ok { r with models := r.models.map fun old => if old.id = m.id then m else old }
  else .error (.unknown m.id)

/-- Forget the data model registered under an identifier. -/
def remove (r : Registry) (id : DataModelId) : Registry :=
  { r with models := r.models.filter (·.id ≠ id) }

/-- Of two data models the one with the longer root, and the second if the roots are of one
length. -/
def deeper (best : Option DataModel) (m : DataModel) : Option DataModel :=
  match best with
  | none => some m
  | some b => if b.root.length ≤ m.root.length then some m else some b

/-- The data model that a file belongs to. -/
def ownerModel? (r : Registry) (uri : String) : Option DataModel :=
  (r.models.filter (·.owns uri)).foldl deeper none

/-- The identifier of the data model that a file belongs to. -/
def owner? (r : Registry) (uri : String) : Option DataModelId := (r.ownerModel? uri).map (·.id)

/-- The name under which a data model is referred to. -/
def referenceName? (r : Registry) (id : DataModelId) : Option String :=
  (r.get? id).map (·.referenceName)

/-- Whether a dependency counts. For a reference, its target must be registered in a version that
the requirement admits. -/
def counts (r : Registry) (forReference : Bool) (d : Dependency) : Bool :=
  !forReference || (r.get? d.target).any fun m => d.requirement.admits m.version

/-- The targets of the counted dependencies of a registered data model. -/
def targets (r : Registry) (forReference : Bool) (id : DataModelId) : List DataModelId :=
  match r.get? id with
  | none => []
  | some m => (m.dependencies.filter (r.counts forReference)).map (·.target)

/-- Whether the targets of something in the queue, or of something they lead to, include `target`.
The pool holds the data models whose targets have not been looked at yet. -/
def leadsTo (r : Registry) (forReference : Bool) (target : DataModelId) (pool : List DataModelId) :
    List DataModelId → Bool
  | [] => false
  | id :: queue =>
    if id ∈ pool then
      (r.targets forReference id).contains target ||
        r.leadsTo forReference target (Pool.without id pool) (queue ++ r.targets forReference id)
    else r.leadsTo forReference target pool queue
termination_by queue => (pool.length, queue.length)
decreasing_by
  · exact Prod.Lex.left _ _ (Pool.length_without_lt ‹_›)
  · exact Prod.Lex.right _ (Nat.lt_succ_self _)

/-- Whether the declarations of `target` can be seen from `source`. -/
def isVisible (r : Registry) (source target : DataModelId) (forReference : Bool) : Bool :=
  source = target ||
    match r.mode with
    | .direct => (r.targets forReference source).contains target
    | .transitive => r.leadsTo forReference target (r.models.map (·.id)) [source]

/-- A data model sees itself. -/
@[simp] theorem isVisible_self (r : Registry) (id : DataModelId) (forReference : Bool) :
    r.isVisible id id forReference = true := by
  simp [isVisible]

/-- A data model that was removed is not found. -/
theorem get?_remove_self (r : Registry) (id : DataModelId) : (r.remove id).get? id = none := by
  simp [get?, remove]

end Registry

end ModelBinding
