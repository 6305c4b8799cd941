import ModelBinding.Proofs.Index

/-!
# Requests to an index

An index may be asked for the exports of a kind at any time, and it remembers what it
answered until exports of such a kind change. This cannot be told from its answers: in
whatever order exports and container tables come, change and go, and whatever is asked
in between, every answer is that of a table of exports that remembers nothing
(`answers_eq_search`).
-/

namespace ModelBinding

/-- What can be done with an index. -/
inductive IndexRequest where
  /-- Replace the exports of a document. -/
  | setExports (id : DocumentId) (exports : List Description)
  /-- Forget a document. -/
  | remove (id : DocumentId)
  /-- Replace the container tables of a document. -/
  | setLocals (id : DocumentId) (tables : LocalTables)
  /-- Put one description more into a container table. -/
  | addLocal (id : DocumentId) (container : NodeId) (d : Description)
  /-- Forget all remembered answers. -/
  | forgetAll
  /-- Ask for all exports of a kind. -/
  | ask (kind : NodeKind)
  deriving DecidableEq

/-- The exports of documents, in the order in which these first exported, and nothing else. -/
structure ExportTable where
  /-- The exports of each document. -/
  exports : Keyed DocumentId (List Description) := .empty

namespace ExportTable

/-- The table of no documents. -/
def empty : ExportTable := {}

/-- The exports of all documents, in order. -/
def all (t : ExportTable) : List Description := t.exports.values.flatten

/-- The table after a request. -/
def serve (t : ExportTable) : IndexRequest → ExportTable
  | .setExports id exports => ⟨t.exports.insert id exports⟩
  | .remove id => ⟨t.exports.erase id⟩
  | .setLocals .. | .addLocal .. | .forgetAll | .ask _ => t

/-- The answer to a request: where a kind is asked for, a search through all exports. -/
def answer? (t : ExportTable) : IndexRequest → Option (List Description)
  | .ask kind => some (Description.ofKind kind t.all)
  | _ => none

/-- The table after a sequence of requests. -/
def serveAll (t : ExportTable) (requests : List IndexRequest) : ExportTable :=
  requests.foldl serve t

/-- The answers to a sequence of requests, in order. -/
def answers (t : ExportTable) : List IndexRequest → List (List Description)
  | [] => []
  | request :: requests => (t.answer? request).toList ++ (t.serve request).answers requests

end ExportTable

namespace Index

/-- The index after a request; it remembers what it answers. -/
def serve (i : Index) : IndexRequest → Index
  | .setExports id exports => i.setExports id exports
  | .remove id => i.remove id
  | .setLocals id tables => i.setLocals id tables
  | .addLocal id container d => i.addLocal id container d
  | .forgetAll => i.forgetAll
  | .ask kind => i.remember kind

/-- The answer to a request, if a kind is asked for. -/
def answer? (i : Index) : IndexRequest → Option (List Description)
  | .ask kind => some (i.globalScope kind)
  | _ => none

/-- The index after a sequence of requests. -/
def serveAll (i : Index) (requests : List IndexRequest) : Index := requests.foldl serve i

/-- The answers to a sequence of requests, in order. -/
def answers (i : Index) : List IndexRequest → List (List Description)
  | [] => []
  | request :: requests => (i.answer? request).toList ++ (i.serve request).answers requests

/-- The index has the exports of the table, and what it remembers is right. -/
structure Shows (i : Index) (t : ExportTable) : Prop where
  /-- What is remembered is right. -/
  faithful : i.Faithful
  /-- The exports are the same, in the same order. -/
  exports_eq : i.exports = t.exports

/-- Every request keeps an index faithful. -/
theorem Faithful.serve {i : Index} (h : i.Faithful) (request : IndexRequest) :
    (i.serve request).Faithful := by
  cases request with
  | setExports id exports => exact h.setExports id exports
  | remove id => exact h.remove id
  | setLocals id tables => exact h.setLocals id tables
  | addLocal id container d => exact h.setLocals id _
  | forgetAll => exact h.forgetAll
  | ask kind => exact h.remember kind

namespace Shows

variable {i : Index} {t : ExportTable} (h : i.Shows t)
include h

/-- All exports are the same, in the same order. -/
theorem all_eq : i.all = t.all := by
  rw [all, ExportTable.all, h.exports_eq]

/-- A request is answered as the table answers it. -/
theorem answer?_eq (request : IndexRequest) : i.answer? request = t.answer? request := by
  cases request with
  | ask kind => exact congrArg some (h.all_eq ▸ h.faithful.globalScope_eq kind)
  | setExports | remove | setLocals | addLocal | forgetAll => rfl

/-- A request does to the exports what it does to the table. -/
theorem serve (request : IndexRequest) : (i.serve request).Shows (t.serve request) := by
  refine ⟨h.faithful.serve request, ?_⟩
  cases request with
  | setExports id exports => exact congrArg (·.insert id exports) h.exports_eq
  | remove id => exact congrArg (·.erase id) h.exports_eq
  | setLocals | addLocal | forgetAll | ask => exact h.exports_eq

/-- So does a sequence of requests. -/
theorem serveAll (requests : List IndexRequest) :
    (i.serveAll requests).Shows (t.serveAll requests) := by
  induction requests generalizing i t with
  | nil => exact h
  | cons request requests ih => exact ih (h.serve request)

/-- A sequence of requests is answered as the table answers it. -/
theorem answers_eq (requests : List IndexRequest) : i.answers requests = t.answers requests := by
  induction requests generalizing i t with
  | nil => rfl
  | cons request requests ih =>
    rw [answers, ExportTable.answers, h.answer?_eq, ih (h.serve request)]

end Shows

/-- The empty index shows the empty table. -/
theorem shows_empty : empty.Shows .empty := ⟨faithful_empty, rfl⟩

/-- Whatever is requested of an index in whatever order, it gives the answers of a table that
remembers nothing. It has the exports of the table, in the same order, and for every kind it would
now answer what a search through them finds. -/
theorem answers_eq_search (requests : List IndexRequest) :
    empty.answers requests = ExportTable.empty.answers requests ∧
      (empty.serveAll requests).all = (ExportTable.empty.serveAll requests).all ∧
      ∀ k, (empty.serveAll requests).globalScope k =
        Description.ofKind k (empty.serveAll requests).all := by
  have hshows := shows_empty.serveAll requests
  exact ⟨shows_empty.answers_eq requests, hshows.all_eq, hshows.faithful.globalScope_eq⟩

end Index

end ModelBinding
