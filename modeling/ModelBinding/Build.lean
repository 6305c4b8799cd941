import ModelBinding.Derivation
import ModelBinding.Export

/-!
# Builds

A build brings a snapshot up to date for some of its documents: each of them is exported
and its container tables are computed, then the derived attributes of all of them are
planned, and only then are the plans applied, so that no plan sees what another one
adds. At the end no reference of any document remembers what it meant.
-/

namespace ModelBinding.Snapshot

/-- Prepare a document and put its exports and container tables into the index. -/
def exportDocument (s : Snapshot) (id : DocumentId) : Snapshot :=
  match s.workspace.get? id with
  | none => s
  | some d =>
    let prepared := d.prepare s.registry
    { s with
      workspace := s.workspace.modify id fun _ => prepared
      index := (s.index.setExports id (prepared.exports s.registry)).setLocals id
        (prepared.localTables s.registry) }

/-- Export those documents whose numbers are given, in the order of the workspace. -/
def exportAll (s : Snapshot) (ids : List DocumentId) : Snapshot :=
  (s.workspace.ids.filter (ids.contains ·)).foldl exportDocument s

/-- The plans for the documents whose numbers are given, in that order. -/
def plans (s : Snapshot) (ids : List DocumentId) : List DerivationPlan :=
  ids.filterMap fun id => (s.workspace.get? id).map s.resolver.plan

/-- Apply a plan to its document, if it is there, and to the document's tables in the index. -/
def applyPlan (s : Snapshot) (p : DerivationPlan) : Snapshot :=
  match s.workspace.get? p.document with
  | none => s
  | some d =>
    let derived := p.apply s.registry d (s.index.localsOf p.document)
    { s with
      workspace := s.workspace.modify p.document fun _ => derived.document
      index := s.index.setLocals p.document derived.tables }

/-- Forget in all documents what the references were found to mean. -/
def resetReferences (s : Snapshot) : Snapshot := { s with workspace := s.workspace.resetReferences }

/-- Bring the documents whose numbers are given up to date. -/
def build (s : Snapshot) (ids : List DocumentId) : Snapshot :=
  let exported := s.exportAll ids
  ((exported.plans ids).foldl applyPlan exported).resetReferences

@[simp] theorem ids_exportDocument (s : Snapshot) (id : DocumentId) :
    (s.exportDocument id).workspace.ids = s.workspace.ids := by
  unfold exportDocument
  split <;> simp

@[simp] theorem ids_applyPlan (s : Snapshot) (p : DerivationPlan) :
    (s.applyPlan p).workspace.ids = s.workspace.ids := by
  unfold applyPlan
  split <;> simp

/-- A build neither adds nor removes documents. -/
theorem ids_build (s : Snapshot) (ids : List DocumentId) :
    (s.build ids).workspace.ids = s.workspace.ids := by
  have hexport (l : List DocumentId) (t : Snapshot) :
      (l.foldl exportDocument t).workspace.ids = t.workspace.ids := by
    induction l generalizing t with
    | nil => rfl
    | cons id l ih => simp [ih]
  have happly (l : List DerivationPlan) (t : Snapshot) :
      (l.foldl applyPlan t).workspace.ids = t.workspace.ids := by
    induction l generalizing t with
    | nil => rfl
    | cons p l ih => simp [ih]
  simp [build, resetReferences, exportAll, hexport, happly]

end ModelBinding.Snapshot
