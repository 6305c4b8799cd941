import ModelBinding.Name
import ModelBinding.Scope

/-!
# Completion

What to offer where a reference is about to be written: the names of the scope, each
once and bound as the scope binds it. A node that is offered under its Local ID need not
be offered under its Global ID too. Names of fewer segments come first, and names of
equally many in the order of their code points.
-/

namespace ModelBinding

/-- How the offer is made. -/
structure CompletionOptions where
  /-- Whether a node offered under its Local ID is left out under its Global ID. -/
  suppressQualifiedDuplicates : Bool := true
  deriving DecidableEq

/-- What an editor shows a candidate as. -/
inductive CompletionKind where
  | dataModel
  | entity
  | entityAttribute
  | relationship
  | diagramNode
  | sourceObject
  deriving DecidableEq

namespace CompletionKind

/-- How a kind of candidate is named. -/
def name : CompletionKind → String
  | dataModel => "DataModel"
  | entity => "Entity"
  | entityAttribute => "Attribute"
  | relationship => "Relationship"
  | diagramNode => "DiagramNode"
  | sourceObject => "SourceObject"

/-- The number in the Language Server Protocol: module, class, field, reference, or variable. -/
def number : CompletionKind → Nat
  | dataModel => 9
  | entity => 7
  | entityAttribute => 5
  | relationship => 18
  | diagramNode => 6
  | sourceObject => 6

/-- What nodes of a kind are shown as. -/
def ofNodeKind : NodeKind → CompletionKind
  | .dataModel => dataModel
  | .logicalEntity => entity
  | .relationship => relationship
  | .logicalEntityNode => diagramNode
  | .sourceObject => sourceObject
  | _ => entityAttribute

end CompletionKind

/-- A candidate as an editor shows it. -/
structure CompletionItem where
  /-- The name. -/
  label : String
  /-- What it is shown as. -/
  kind : CompletionKind
  /-- What the node is and where it belongs. -/
  detail : Option String := none
  /-- More about the node. -/
  documentation : Option String := none
  /-- The place in the offer, counted from zero. -/
  priority : Nat
  /-- The node. -/
  target : NodePtr
  deriving DecidableEq

/-- The item that shows a description. -/
def CompletionItem.ofDescription (d : Description) (priority : Nat) : CompletionItem where
  label := d.name
  kind := .ofNodeKind d.kind
  detail := some <|
    match d.dataModel with
    | none => d.kind.name
    | some m => d.kind.name ++ " (" ++ m.text ++ ")"
  priority := priority
  target := d.node

namespace Completion

/-- The first description of each name. -/
def firstOfName : List Description → List Description
  | [] => []
  | d :: ds => d :: (firstOfName ds).filter (·.name ≠ d.name)

/-- Leave out the Global forms of nodes that are there in Local form. -/
def dropQualified (ds : List Description) : List Description :=
  ds.filter fun d => d.isLocal || !((ds.filter (·.isLocal)).map (·.node)).contains d.node

/-- Whether a description comes no later than another: fewer segments first, then by code
points. -/
def comesFirst (a b : Description) : Bool :=
  Name.segmentCount a.name < Name.segmentCount b.name ||
    (Name.segmentCount a.name == Name.segmentCount b.name && !decide (b.name < a.name))

/-- The candidates of a scope, in the order in which they are offered. -/
def candidates (s : Scope) (options : CompletionOptions) : List Description :=
  let unique := firstOfName s.elements
  (if options.suppressQualifiedDuplicates then dropQualified unique else unique).mergeSort
    comesFirst

/-- The items of a scope, in the order in which they are offered. -/
def items (s : Scope) (options : CompletionOptions) : List CompletionItem :=
  (candidates s options).mapIdx fun i d => .ofDescription d i

/-- Among the first descriptions of each name no name occurs twice. -/
theorem nodup_names_firstOfName (ds : List Description) :
    ((firstOfName ds).map (·.name)).Nodup := by
  induction ds with
  | nil => exact List.nodup_nil
  | cons d ds ih =>
    refine List.nodup_cons.2 ⟨?_, ?_⟩
    · simp only [List.mem_map, List.mem_filter, decide_eq_true_eq, not_exists, not_and]
      exact fun e he h => he.2 h
    · exact ih.sublist (List.filter_sublist.map _)

end Completion

end ModelBinding
