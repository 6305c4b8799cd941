/-!
# Handles

Documents and nodes are referred to by number. A `DocumentId` is given out by a
workspace; a `NodeId` is the place of a node in its document's arena; a
`NodePtr` names a node in the whole workspace.
-/

namespace ModelBinding

/-- The number of a document in a workspace. -/
structure DocumentId where
  /-- The number itself; numbers are given out in increasing order. -/
  index : Nat
  deriving DecidableEq

/-- The number of a document that was never inserted in a workspace. It is the largest 32-bit
number, which no workspace reaches. -/
def DocumentId.unassigned : DocumentId := ⟨4294967295⟩

/-- The place of a node in the arena of its document. -/
structure NodeId where
  /-- The position, counted from zero. -/
  index : Nat
  deriving DecidableEq

/-- The root of every document stands first in its arena. -/
def NodeId.root : NodeId := ⟨0⟩

/-- A node of a workspace: its document, and its place there. -/
structure NodePtr where
  /-- The document that holds the node. -/
  document : DocumentId
  /-- The node in that document. -/
  node : NodeId
  deriving DecidableEq

/-- The identifier under which a data model is registered. -/
structure DataModelId where
  /-- The identifier as text. -/
  text : String
  deriving DecidableEq

end ModelBinding
