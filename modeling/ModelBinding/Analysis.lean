import ModelBinding.Check
import ModelBinding.Completion

/-!
# Questions to a snapshot

What an editor asks about the nodes and documents of a snapshot: identities, names that
are still free, findings, exports, derived attributes, and what to offer at a site.
-/

namespace ModelBinding

/-- Where a new identifier must be free. -/
inductive FreshScope where
  /-- In the subtree of a node. -/
  | inside (container : NodePtr)
  /-- Among the Local IDs exported in the data model of a document. -/
  | forDocument (uri : String)
  /-- Among all exported Global IDs. -/
  | everywhere
  deriving DecidableEq

namespace Snapshot

/-- The Local ID of a node. -/
def localId? (s : Snapshot) (ptr : NodePtr) : Option String :=
  (s.workspace.get? ptr.document).bind (·.localId? ptr.node)

/-- The Global ID of a node: the one it remembers, or else its current one. -/
def globalId? (s : Snapshot) (ptr : NodePtr) : Option String :=
  (s.workspace.get? ptr.document).bind fun d =>
    (d.node? ptr.node).bind fun n => n.globalId.or (s.registry.globalId? d ptr.node)

/-- The name by which one node is referred to from another. -/
def referenceId? (s : Snapshot) (target source : NodePtr) (forReference : Bool := true) :
    Option String :=
  (s.workspace.get? target.document).bind fun t =>
    (s.workspace.get? source.document).bind fun d =>
      s.registry.referenceId? t target.node d forReference

/-- An identifier close to a proposal that is free for a kind. -/
def freshId (s : Snapshot) (k : NodeKind) (proposal : String) : FreshScope → String
  | .inside container =>
    match s.workspace.get? container.document with
    | some d => d.freshId k proposal container.node
    | none => Name.fresh proposal []
  | .forDocument uri => s.index.freshLocalName k proposal (s.registry.owner? uri)
  | .everywhere => s.index.freshGlobalName k proposal

/-- The findings for the document at an address. -/
def diagnostics (s : Snapshot) (uri : String) : List Diagnostic :=
  match s.workspace.at? uri with
  | none => []
  | some d => s.resolver.checkReferences d ++ s.index.checkDuplicates d.id

/-- The exports of the document at an address. -/
def exportsAt (s : Snapshot) (uri : String) : List Description :=
  ((s.workspace.idOf? uri).map s.index.exportsOf).getD []

/-- The derived attributes of a node. -/
def derivedAttributes (s : Snapshot) (view : NodePtr) : List NodePtr :=
  match s.workspace.get? view.document with
  | none => []
  | some d => ((d.children view.node).filter d.isDerived).map d.ptr

/-- The descriptions to offer at a site. -/
def candidates (s : Snapshot) (site : Site) (options : CompletionOptions) : List Description :=
  Completion.candidates (s.scope site) options

/-- The items to offer at a site. -/
def completions (s : Snapshot) (site : Site) (options : CompletionOptions) : List CompletionItem :=
  Completion.items (s.scope site) options

end Snapshot

end ModelBinding
