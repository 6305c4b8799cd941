import ModelBinding.Derivation

/-!
# Linking

To link a document is to look up every reference in it and to remember what each was
found to mean. A reference that was looked up before is not looked up again.
-/

namespace ModelBinding

/-- How many references of a document mean something and how many do not. -/
structure LinkSummary where
  /-- The references that mean something. -/
  resolved : Nat := 0
  /-- The references that do not. -/
  unresolved : Nat := 0
  deriving DecidableEq

/-- The summary with one more answer counted. -/
def LinkSummary.count (s : LinkSummary) (found : Option NodePtr) : LinkSummary :=
  if found.isSome then { s with resolved := s.resolved + 1 }
  else { s with unresolved := s.unresolved + 1 }

namespace Snapshot

/-- The reference at a position of a property of a node. -/
def reference? (s : Snapshot) (ptr : NodePtr) (p : Property) (i : Nat) : Option Reference :=
  ((s.workspace.get? ptr.document).bind (·.node? ptr.node)).bind (·.referenceAt? p i)

/-- The snapshot with one reference changed. -/
def modifyReference (s : Snapshot) (ptr : NodePtr) (p : Property) (i : Nat)
    (f : Reference → Reference) : Snapshot :=
  { s with
    workspace := s.workspace.modify ptr.document fun d =>
      d.modifyNode ptr.node fun n => n.modifyReferenceAt p i f }

/-- The node that a reference means, if any, and the snapshot in which the reference remembers
it. -/
def resolveReference (s : Snapshot) (ptr : NodePtr) (p : Property) (i : Nat) :
    Option NodePtr × Snapshot :=
  match s.reference? ptr p i with
  | none => (none, s)
  | some ref =>
    let answer := ref.resolveWith fun _ => (s.resolve (.ofNode ptr p i)).map (·.node)
    (answer.1, s.modifyReference ptr p i fun _ => answer.2)

/-- The places of the references of a document: nodes in the order of the walk, for each of them
its properties in order of first use, and for each of those its references in order. -/
def referencePlaces (d : Document) : List (NodeId × Property × Nat) :=
  d.walk.flatMap fun n =>
    match d.node? n with
    | none => []
    | some node =>
      node.referenceProperties.flatMap fun p =>
        (List.range (node.referencesOf p).length).map fun i => (n, p, i)

/-- Link one reference of a document and count the answer. -/
def linkPlace (id : DocumentId) (state : LinkSummary × Snapshot) (place : NodeId × Property × Nat) :
    LinkSummary × Snapshot :=
  let answer := state.2.resolveReference ⟨id, place.1⟩ place.2.1 place.2.2
  (state.1.count answer.1, answer.2)

/-- Link the document at an address. -/
def link (s : Snapshot) (uri : String) : LinkSummary × Snapshot :=
  match s.workspace.at? uri with
  | none => ({}, s)
  | some d => (referencePlaces d).foldl (linkPlace d.id) ({}, s)

/-- Looking up a reference changes neither the index nor the registry. -/
theorem index_resolveReference (s : Snapshot) (ptr : NodePtr) (p : Property) (i : Nat) :
    (s.resolveReference ptr p i).2.index = s.index ∧
      (s.resolveReference ptr p i).2.registry = s.registry := by
  unfold resolveReference
  split <;> exact ⟨rfl, rfl⟩

end Snapshot

end ModelBinding
