import ModelBinding.Document

/-!
# Workspaces

A workspace holds documents under numbers that it gives out itself. A document that
is set again at the same address keeps its number and its place in the order; one
that was removed and comes back gets a new number and comes last.
-/

namespace ModelBinding

/-- The documents that are open, in the order in which their addresses first arrived. -/
structure Workspace where
  /-- The documents under their numbers. -/
  documents : Keyed DocumentId Document := .empty
  /-- The number of the document at an address. -/
  byUri : Keyed String DocumentId := .empty
  /-- The number the next new address will get. -/
  nextId : Nat := 0
  deriving DecidableEq

namespace Workspace

/-- The workspace without documents. -/
def empty : Workspace := {}

/-- The number of the document at an address. -/
def idOf? (w : Workspace) (uri : String) : Option DocumentId := w.byUri.get? uri

/-- The document of a number. -/
def get? (w : Workspace) (id : DocumentId) : Option Document := w.documents.get? id

/-- The document at an address. -/
def at? (w : Workspace) (uri : String) : Option Document := (w.idOf? uri).bind w.get?

/-- The numbers of all documents, in order. -/
def ids (w : Workspace) : List DocumentId := w.documents.keys

/-- All documents, in order. -/
def list (w : Workspace) : List Document := w.documents.values

/-- The number of documents. -/
def size (w : Workspace) : Nat := w.documents.size

/-- Set a document at its address. The result has the number it got. -/
def insert (w : Workspace) (d : Document) : DocumentId × Workspace :=
  match w.idOf? d.uri with
  | some id => (id, { w with documents := w.documents.insert id { d with id } })
  | none =>
    let id : DocumentId := ⟨w.nextId⟩
    (id, { documents := w.documents.insert id { d with id }
           byUri := w.byUri.insert d.uri id
           nextId := w.nextId + 1 })

/-- Take the document at an address out of the workspace. -/
def remove (w : Workspace) (uri : String) : Option Document × Workspace :=
  match w.idOf? uri with
  | none => (none, w)
  | some id =>
    (w.get? id, { w with documents := w.documents.erase id, byUri := w.byUri.erase uri })

/-- Change the document of a number, if there is one. -/
def modify (w : Workspace) (id : DocumentId) (f : Document → Document) : Workspace :=
  { w with documents := w.documents.modify id f }

/-- Forget in all documents what the references were found to mean. -/
def resetReferences (w : Workspace) : Workspace :=
  { w with documents := w.documents.mapValues (·.resetReferences) }

/-- The inserted document is found under the number that it got. -/
theorem get?_insert (w : Workspace) (d : Document) :
    (w.insert d).2.get? (w.insert d).1 = some { d with id := (w.insert d).1 } := by
  unfold insert
  split <;> simp [get?]

/-- The inserted document is found at its address. -/
theorem idOf?_insert (w : Workspace) (d : Document) :
    (w.insert d).2.idOf? d.uri = some (w.insert d).1 := by
  unfold insert
  split
  · simpa [idOf?] using ‹w.idOf? d.uri = some _›
  · simp [idOf?]

@[simp] theorem ids_modify (w : Workspace) (id : DocumentId) (f : Document → Document) :
    (w.modify id f).ids = w.ids := by
  simp [ids, modify]

@[simp] theorem ids_resetReferences (w : Workspace) : w.resetReferences.ids = w.ids := by
  simp [ids, resetReferences]

end Workspace

end ModelBinding
