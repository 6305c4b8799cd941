import ModelBinding.Build
import ModelBinding.Link
import ModelBinding.Proofs.Keyed
import ModelBinding.Proofs.Written

/-!
# What a look-up changes

Looking up references, one or all of a document, changes what they remember and nothing
else: with references forgotten the snapshot is what it was
(`Read.resetReferences_eq`).
-/

namespace ModelBinding

namespace Node

variable {p q : Property} {f : Reference → Reference}

/-- One reference is changed among those of its property. -/
theorem referencesOf_modifyReferenceAt_self (n : Node) (p : Property) (i : Nat)
    (f : Reference → Reference) :
    (n.modifyReferenceAt p i f).referencesOf p = (n.referencesOf p).modify i f := by
  show ((modifyReferenceAt.go p f n.references i).filter (·.1 = p)).map (·.2) =
    ((n.references.filter (·.1 = p)).map (·.2)).modify i f
  induction n.references generalizing i with
  | nil => simp [modifyReferenceAt.go]
  | cons r rs ih =>
    by_cases hr : r.1 = p
    · cases i with
      | zero => simp [modifyReferenceAt.go, hr]
      | succ i => simp [modifyReferenceAt.go, hr, ih i]
    · simp [modifyReferenceAt.go, hr, ih i]

/-- The references of other properties are left alone. -/
theorem referencesOf_modifyReferenceAt_of_ne (n : Node) (h : q ≠ p) (i : Nat) :
    (n.modifyReferenceAt p i f).referencesOf q = n.referencesOf q := by
  show ((modifyReferenceAt.go p f n.references i).filter (·.1 = q)).map (·.2) =
    (n.references.filter (·.1 = q)).map (·.2)
  induction n.references generalizing i with
  | nil => simp [modifyReferenceAt.go]
  | cons r rs ih =>
    by_cases hr : r.1 = p
    · have hq : ¬ r.1 = q := fun heq => h (heq.symm.trans hr)
      cases i with
      | zero => simp [modifyReferenceAt.go, hr, Ne.symm h]
      | succ i => simpa [modifyReferenceAt.go, hr, hq, Ne.symm h] using ih i
    · by_cases hq : r.1 = q <;> simpa [modifyReferenceAt.go, hr, hq, h] using ih i

/-- What is found under one property and position after the change of a reference. -/
theorem referenceAt?_modifyReferenceAt (n : Node) (p q : Property) (i j : Nat)
    (f : Reference → Reference) :
    (n.modifyReferenceAt p i f).referenceAt? q j =
      if p = q ∧ i = j then (n.referenceAt? q j).map f else n.referenceAt? q j := by
  by_cases hp : p = q
  · subst hp
    rw [referenceAt?, referencesOf_modifyReferenceAt_self, List.getElem?_modify]
    by_cases hi : i = j
    · simp [hi, referenceAt?]
    · simp [hi, referenceAt?]
  · rw [referenceAt?, referencesOf_modifyReferenceAt_of_ne n (Ne.symm hp), if_neg fun h => hp h.1]
    rfl

/-- A change of what one reference remembers is lost when references are forgotten. -/
theorem resetReferences_modifyReferenceAt {n : Node} {i : Nat}
    (h : ∀ ref, n.referenceAt? p i = some ref → (f ref).reset = ref.reset) :
    (n.modifyReferenceAt p i f).resetReferences = n.resetReferences := by
  have hgo : ∀ (rs : List (Property × Reference)) (i : Nat),
      (∀ ref, ((rs.filter (·.1 = p)).map (·.2))[i]? = some ref → (f ref).reset = ref.reset) →
      (modifyReferenceAt.go p f rs i).map (fun r => (r.1, r.2.reset)) =
        rs.map fun r => (r.1, r.2.reset) := by
    intro rs
    induction rs with
    | nil => simp [modifyReferenceAt.go]
    | cons r rs ih =>
      intro i h
      by_cases hr : r.1 = p
      · cases i with
        | zero => simp [modifyReferenceAt.go, hr, h r.2 (by simp [hr])]
        | succ i =>
          have ih' := ih i fun ref href => h ref (by simpa [hr] using href)
          simp [modifyReferenceAt.go, hr, ih']
      · have ih' := ih i fun ref href => h ref (by simpa [hr] using href)
        simp [modifyReferenceAt.go, hr, ih']
  exact congrArg (fun rs => { n with references := rs }) (hgo n.references i h)

end Node

/-- The memory that a look-up leaves is lost when the reference is forgotten. -/
theorem Reference.reset_resolveWith (ref : Reference) (lookUp : String → Option NodePtr) :
    (ref.resolveWith lookUp).2.reset = ref.reset := by
  cases h : ref.cached <;> simp [resolveWith, h, reset]

namespace Snapshot

variable {s : Snapshot}

/-- The reference at a place, seen from its node. -/
theorem reference?_eq_some_iff {ptr : NodePtr} {p : Property} {i : Nat} {ref : Reference} :
    s.reference? ptr p i = some ref ↔ ∃ d node, s.workspace.get? ptr.document = some d ∧
      d.node? ptr.node = some node ∧ node.referenceAt? p i = some ref := by
  simp only [reference?, Option.bind_eq_some_iff]
  constructor
  · rintro ⟨node, ⟨d, hd, hnode⟩, href⟩
    exact ⟨d, node, hd, hnode, href⟩
  · rintro ⟨d, node, hd, hnode, href⟩
    exact ⟨node, ⟨d, hd, hnode⟩, href⟩

/-- A change of what one reference remembers is lost when references are forgotten. -/
theorem resetReferences_modifyReference (hs : s.workspace.ids.Nodup) {ptr : NodePtr} {p : Property}
    {i : Nat} {f : Reference → Reference}
    (hf : ∀ ref, s.reference? ptr p i = some ref → (f ref).reset = ref.reset) :
    (s.modifyReference ptr p i f).resetReferences = s.resetReferences := by
  have hdocument : ∀ d, s.workspace.documents.get? ptr.document = some d →
      (d.modifyNode ptr.node fun n => n.modifyReferenceAt p i f).resetReferences =
        d.resetReferences := by
    intro d hd
    refine Document.ext_node? rfl rfl rfl fun n => ?_
    rw [Document.node?_resetReferences, Document.node?_resetReferences,
      Document.node?_modifyNode]
    split
    · subst ‹ptr.node = n›
      cases hnode : d.node? ptr.node with
      | none => rfl
      | some node =>
        have hreset := Node.resetReferences_modifyReferenceAt (n := node) (p := p) (f := f) (i := i)
          fun ref href => hf ref (reference?_eq_some_iff.2 ⟨d, node, hd, hnode, href⟩)
        rw [Option.map_some, Option.map_some, Option.map_some, hreset]
    · rfl
  have hdocuments := Keyed.mapValues_modify hs hdocument
  simp only [modifyReference, resetReferences, Workspace.resetReferences, Workspace.modify,
    hdocuments]

/-- Looking up one reference changes what it remembers and nothing else. -/
theorem resetReferences_resolveReference (hs : s.workspace.ids.Nodup) (ptr : NodePtr)
    (p : Property) (i : Nat) :
    (s.resolveReference ptr p i).2.resetReferences = s.resetReferences := by
  unfold resolveReference
  cases href : s.reference? ptr p i with
  | none => rfl
  | some ref =>
    refine resetReferences_modifyReference hs fun ref' href' => ?_
    rw [href] at href'
    rw [← Option.some.inj href']
    exact ref.reset_resolveWith _

/-- The snapshots that look-ups lead to. -/
inductive Read (s : Snapshot) : Snapshot → Prop where
  /-- Without a look-up. -/
  | refl : s.Read s
  /-- By a further look-up. -/
  | resolveReference {t : Snapshot} (h : s.Read t) (ptr : NodePtr) (p : Property) (i : Nat) :
    s.Read (t.resolveReference ptr p i).2

/-- Looking up all references of a document is nothing but look-ups. -/
theorem read_link (s : Snapshot) (uri : String) : s.Read (s.link uri).2 := by
  unfold link
  split
  · exact .refl
  · rename_i d hd
    have hplaces : ∀ (places : List (NodeId × Property × Nat)) (state : LinkSummary × Snapshot),
        s.Read state.2 → s.Read (places.foldl (linkPlace d.id) state).2 := by
      intro places
      induction places with
      | nil => exact fun _ hstate => hstate
      | cons place places ih =>
        exact fun state hstate => ih _ (hstate.resolveReference _ place.2.1 place.2.2)
    exact hplaces _ _ .refl

/-- Snapshots that are the same with references forgotten have the same documents. -/
theorem ids_eq_of_resetReferences_eq {t : Snapshot} (h : t.resetReferences = s.resetReferences) :
    t.workspace.ids = s.workspace.ids := by
  have hids := congrArg (·.workspace.ids) h
  simpa [resetReferences] using hids

/-- Snapshots that are the same with references forgotten hold the same documents, but for what
references remember. -/
theorem get?_of_resetReferences_eq {s t : Snapshot} (h : t.resetReferences = s.resetReferences)
    (id : DocumentId) : (t.workspace.get? id).map (·.resetReferences) =
      (s.workspace.get? id).map (·.resetReferences) := by
  have hget := congrArg (fun s : Snapshot => s.workspace.documents.get? id) h
  simp only [resetReferences, Workspace.resetReferences, Keyed.get?_mapValues] at hget
  exact hget

/-- Look-ups change what references remember and nothing else. -/
theorem Read.resetReferences_eq {t : Snapshot} (h : s.Read t) (hs : s.workspace.ids.Nodup) :
    t.resetReferences = s.resetReferences := by
  induction h with
  | refl => rfl
  | @resolveReference t _ ptr p i ih =>
    have hnodup : t.workspace.ids.Nodup := ids_eq_of_resetReferences_eq ih ▸ hs
    exact (resetReferences_resolveReference hnodup ptr p i).trans ih

end Snapshot

end ModelBinding
