import ModelBinding.LocalTables

/-!
# The index of a workspace

The index keeps, for every document, what it exports and the tables of its
containers. Look-ups across documents ask for all exports that may stand where a kind
is asked for. The answer for a kind can be remembered; it is forgotten when the
exports of a document change that could occur in it.
-/

namespace ModelBinding

/-- What the documents of a workspace declare. -/
structure Index where
  /-- The exports of each document, in the order in which documents first exported. -/
  exports : Keyed DocumentId (List Description) := .empty
  /-- The container tables of each document. -/
  locals : Keyed DocumentId LocalTables := .empty
  /-- Remembered answers of `globalScope`. -/
  remembered : Keyed NodeKind (List Description) := .empty
  deriving DecidableEq

namespace Index

/-- The index of no documents. -/
def empty : Index := {}

/-- The exports of one document. -/
def exportsOf (i : Index) (id : DocumentId) : List Description := (i.exports.get? id).getD []

/-- The exports of all documents, in order. -/
def all (i : Index) : List Description := i.exports.values.flatten

/-- The number of exports. -/
def size (i : Index) : Nat := i.all.length

/-- Forget the remembered answers in which a node of one of the kinds could occur. -/
def forgetKinds (i : Index) (kinds : List NodeKind) : Index :=
  { i with
    remembered :=
      ⟨i.remembered.entries.filter fun e => !kinds.any fun k => k.isSubtypeOf e.1⟩ }

/-- Forget all remembered answers. -/
def forgetAll (i : Index) : Index := { i with remembered := .empty }

/-- Replace the exports of a document. -/
def setExports (i : Index) (id : DocumentId) (exports : List Description) : Index :=
  { i with exports := i.exports.insert id exports }.forgetKinds
    ((exports ++ i.exportsOf id).map Description.kind)

/-- Replace the container tables of a document. -/
def setLocals (i : Index) (id : DocumentId) (tables : LocalTables) : Index :=
  { i with locals := i.locals.insert id tables }

/-- The container tables of a document, if it has any set. -/
def locals? (i : Index) (id : DocumentId) : Option LocalTables := i.locals.get? id

/-- The container tables of a document, empty if none were set. -/
def localsOf (i : Index) (id : DocumentId) : LocalTables := (i.locals? id).getD .empty

/-- Put one description more at the end of a container table of a document. -/
def addLocal (i : Index) (id : DocumentId) (container : NodeId) (d : Description) : Index :=
  i.setLocals id ((i.localsOf id).add container d)

/-- Forget a document. -/
def remove (i : Index) (id : DocumentId) : Index :=
  { i with exports := i.exports.erase id, locals := i.locals.erase id }.forgetKinds
    ((i.exportsOf id).map Description.kind)

/-- All exports that may stand where a kind is asked for, in order: the remembered answer, or else
a search. -/
def globalScope (i : Index) (k : NodeKind) : List Description :=
  (i.remembered.get? k).getD (Description.ofKind k i.all)

/-- The index that remembers its answer for a kind. -/
def remember (i : Index) (k : NodeKind) : Index :=
  { i with remembered := i.remembered.insert k (i.globalScope k) }

/-- A name under which no node of the kind is exported in Local form by documents of the data
model. -/
def freshLocalName (i : Index) (k : NodeKind) (proposal : String) (model : Option DataModelId) :
    String :=
  Name.fresh proposal
    (((i.globalScope k).filter fun d => d.isLocal && d.dataModel = model).map (·.name))

/-- A name under which no node of the kind is exported in Global form. -/
def freshGlobalName (i : Index) (k : NodeKind) (proposal : String) : String :=
  Name.fresh proposal (((i.globalScope k).filter (·.isGlobal)).map (·.name))

@[simp] theorem exports_forgetKinds (i : Index) (kinds : List NodeKind) :
    (i.forgetKinds kinds).exports = i.exports := rfl

@[simp] theorem locals_forgetKinds (i : Index) (kinds : List NodeKind) :
    (i.forgetKinds kinds).locals = i.locals := rfl

/-- Replaced exports are what is found for the document. -/
@[simp] theorem exportsOf_setExports_self (i : Index) (id : DocumentId)
    (exports : List Description) : (i.setExports id exports).exportsOf id = exports := by
  simp [setExports, exportsOf]

/-- Replacing the exports of one document leaves those of the others alone. -/
theorem exportsOf_setExports_of_ne (i : Index) {id other : DocumentId} (h : other ≠ id)
    (exports : List Description) :
    (i.setExports id exports).exportsOf other = i.exportsOf other := by
  simp [setExports, exportsOf, Keyed.get?_insert_of_ne _ h]

/-- A remembered answer is the one that was given. -/
@[simp] theorem globalScope_remember_self (i : Index) (k : NodeKind) :
    (i.remember k).globalScope k = i.globalScope k := by
  simp [remember, globalScope]

end Index

end ModelBinding
