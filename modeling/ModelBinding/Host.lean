import ModelBinding.Build

/-!
# The host

The host keeps a snapshot up to date while documents come, change and go and the
registry is replaced. It notes which documents are out of date and rebuilds just
those, when it is asked for the snapshot. Removing a document puts no other document out
of date, but what references meant may have changed, and that is noted too.
-/

namespace ModelBinding

/-- A snapshot and what is out of date in it. -/
structure Host extends Snapshot where
  /-- The documents that are out of date, in the order in which they became so. -/
  dirty : List DocumentId := []
  /-- Whether references may remember what they no longer mean. -/
  referencesStale : Bool := false
  /-- Whether documents may be built at the same time. Documents are built from what does not
  change meanwhile, so no answer depends on this. -/
  concurrent : Bool := true
  deriving DecidableEq

namespace Host

/-- A host without documents. -/
def new (registry : Registry) (concurrent : Bool := true) : Host :=
  { registry, concurrent }

/-- The host with one more document out of date. -/
def mark (h : Host) (id : DocumentId) : Host :=
  if id ∈ h.dirty then h else { h with dirty := h.dirty ++ [id] }

/-- Whether anything is out of date. -/
def isDirty (h : Host) : Bool := !h.dirty.isEmpty || h.referencesStale

/-- Set a document at its address. The result has the number it got. -/
def setDocument (h : Host) (d : Document) : DocumentId × Host :=
  let inserted := h.workspace.insert d
  (inserted.1, { h with workspace := inserted.2 }.mark inserted.1)

/-- Take out the document at an address. -/
def removeDocument (h : Host) (uri : String) : Option Document × Host :=
  match h.workspace.remove uri with
  | (none, workspace) => (none, { h with workspace })
  | (some d, workspace) =>
    (some d,
      { h with
        workspace
        index := h.index.remove d.id
        dirty := h.dirty.filter (· ≠ d.id)
        referencesStale := true })

/-- Put the document at an address out of date. The result has whether there is one. -/
def touchDocument (h : Host) (uri : String) : Bool × Host :=
  match h.workspace.idOf? uri with
  | none => (false, h)
  | some id => (true, h.mark id)

/-- Replace the registry, which puts all documents out of date. -/
def setRegistry (h : Host) (registry : Registry) : Host :=
  h.workspace.ids.foldl mark { h with registry, index := h.index.forgetAll }

/-- Bring everything up to date. -/
def rebuild (h : Host) : Host :=
  if h.isDirty then
    { h with toSnapshot := h.toSnapshot.build h.dirty, dirty := [], referencesStale := false }
  else h

/-- After a rebuild nothing is out of date. -/
@[simp] theorem isDirty_rebuild (h : Host) : h.rebuild.isDirty = false := by
  unfold rebuild
  split
  · rfl
  · simpa using ‹¬ h.isDirty = true›

/-- A host with nothing out of date is left as it is. -/
theorem rebuild_of_not_isDirty {h : Host} (hd : h.isDirty = false) : h.rebuild = h := by
  simp [rebuild, hd]

/-- Rebuilding again changes nothing. -/
@[simp] theorem rebuild_rebuild (h : Host) : h.rebuild.rebuild = h.rebuild :=
  rebuild_of_not_isDirty (isDirty_rebuild h)

/-- Marking keeps what was marked and adds one document. -/
theorem mem_dirty_mark {h : Host} {id other : DocumentId} :
    other ∈ (h.mark id).dirty ↔ other ∈ h.dirty ∨ other = id := by
  unfold mark
  split
  · rename_i hmem
    exact ⟨Or.inl, fun h' => h'.elim (fun h' => h') fun heq => heq ▸ hmem⟩
  · simp

end Host

end ModelBinding
