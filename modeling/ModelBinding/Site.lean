import ModelBinding.Handle
import ModelBinding.Kind

/-!
# Reference sites

A site is a place where a reference stands or could stand: a property of a node, and a
position among the references of that property. The node may exist, or it may be one
that is only imagined, at the end of a chain of new nodes below a node of some
document; an editor asks about such a site before the text is there.
-/

namespace ModelBinding

/-- A node that is only imagined. -/
structure ImaginedNode where
  /-- Its kind. -/
  kind : NodeKind
  /-- Its identifier. -/
  id : Option String := none
  /-- Its references, each under a property, in order. -/
  references : List (Property × String) := []
  deriving DecidableEq

/-- A chain of imagined nodes, each inside the one before it, and where it hangs. -/
structure ImaginedChain where
  /-- The address of the document. -/
  uri : String
  /-- The Global ID of the node that contains the chain; the root if not given. -/
  anchor : Option String := none
  /-- The nodes of the chain, outermost first. -/
  nodes : List ImaginedNode := []
  /-- Whether the document itself may be one that is not there yet. -/
  unsaved : Bool := false
  deriving DecidableEq

namespace ImaginedChain

/-- What marks the address of a document that was never saved. -/
def unsavedSuffix : String := ".synthetic.cm"

/-- The address of a document that was never saved, in a directory; `token` tells it from others.
Slashes at the end of the directory do not count. -/
def unsavedUri (directory token : String) : String :=
  String.ofList (directory.toList.reverse.dropWhile (· = '/')).reverse ++ "/" ++ token ++
    unsavedSuffix

/-- The empty chain in a document that was never saved. -/
def inDirectory (directory token : String) : ImaginedChain where
  uri := unsavedUri directory token
  unsaved := true

end ImaginedChain

/-- Where the references of a site belong. -/
inductive Container where
  /-- A node of the workspace. -/
  | node (ptr : NodePtr)
  /-- The last node of an imagined chain. -/
  | imagined (chain : ImaginedChain)
  deriving DecidableEq

/-- A place for a reference. -/
structure Site where
  /-- The node it belongs to. -/
  container : Container
  /-- The property it stands under. -/
  property : Property
  /-- Its position among the references of that property. -/
  index : Nat := 0
  deriving DecidableEq

/-- The site of a reference of an existing node. -/
def Site.ofNode (ptr : NodePtr) (property : Property) (index : Nat := 0) : Site :=
  ⟨.node ptr, property, index⟩

/-- Why a site has no scope. -/
inductive ScopeError where
  /-- There is no document of that number. -/
  | unknownDocument (document : DocumentId)
  /-- There is no document at that address. -/
  | unknownUri (uri : String)
  /-- The document has no such node. -/
  | unknownNode (ptr : NodePtr)
  /-- No node of the document has that Global ID. -/
  | unknownAnchor (anchor uri : String)
  /-- Nodes of that kind hold no references under that property. -/
  | invalidProperty (kind : NodeKind) (property : Property)
  deriving DecidableEq

/-- How messages show the number of a document. -/
def DocumentId.render (id : DocumentId) : String := "DocumentId(" ++ toString id.index ++ ")"

/-- How messages show the number of a node. -/
def NodeId.render (id : NodeId) : String := "NodeId(" ++ toString id.index ++ ")"

/-- The message for an error. -/
def ScopeError.message : ScopeError → String
  | .unknownDocument document => "unknown document " ++ document.render
  | .unknownUri uri => "no document with uri '" ++ uri ++ "'"
  | .unknownNode ptr =>
    "node " ++ ptr.node.render ++ " does not exist in document " ++ ptr.document.render
  | .unknownAnchor anchor uri => "no container with global id '" ++ anchor ++ "' in '" ++ uri ++ "'"
  | .invalidProperty kind property =>
    kind.name ++ " has no reference property '" ++ property.name ++ "'"

end ModelBinding
