import ModelBinding.Proofs.Mirror

/-!
# Built documents are trees

A build appends every copy as the last child of its view, and a copy contains nothing. So
what was a tree before is one afterwards, with the derived nodes as leaves
(`Resolver.isTree_apply_plan`), and the root is of the kind it always had
(`Session.Reachable.kind?_root`). An entry of the container tables about a derived node
stands in the table of the view's container, behind the identifier of the view, or bare in
the view's own table; the former is there whenever the view has an identifier
(`Document.CopyEntry`).
-/

namespace ModelBinding

/-- What an entry of container tables about a derived node of the document says: it is named by the
identifier of the node, behind that of its view in the table of the view's container, or bare in
the view's own table, and the tables hold the former entry if there can be one. -/
structure Document.CopyEntry (d : Document) (tables : LocalTables) (c : NodeId) (x : Description)
    (own : String) (view : NodeId) : Prop where
  /-- The identifier of the node. -/
  ownId?_eq : d.ownId? x.node.node = some own
  /-- The view that contains the node. -/
  parent?_eq : d.parent? x.node.node = some view
  /-- The view is of a viewing kind. -/
  view_kind : ∃ k, d.kind? view = some k ∧ k.isEntityView = true
  /-- The name, and the table in which the entry stands. -/
  name_eq : (∃ viewId, d.ownId? view = some viewId ∧ d.parent? view = some c ∧
    x.name = Name.qualify viewId own) ∨ (c = view ∧ x.name = own)
  /-- The entry in the table of the view's container. -/
  qualified_mem : ∀ viewId container, d.ownId? view = some viewId →
    d.parent? view = some container →
      (container, { x with name := Name.qualify viewId own }) ∈ tables.entries

/-- A tree stays one when a copy that contains nothing is appended to it. -/
theorem Derivation.isTree_addCopy (registry : Registry) {s : Derivation} (h : s.document.IsTree)
    {c : NodeId × Node} (hc : c.2.children = []) : (addCopy registry s c).document.IsTree := by
  cases hk : s.document.kind? c.1 with
  | none =>
    have hsame : addCopy registry s c = s := by simp only [addCopy, hk]
    rw [hsame]
    exact h
  | some k =>
    rw [(addCopy_of_kind? registry hk).1, attach]
    apply (h.push (Document.index_lt_of_kind? hk) hc).congr
    · exact Document.size_modifyNode _ _ _
    · intro n
      rw [Document.parent?, Document.node?_modifyNode]
      split
      · rw [Option.bind_map]
        rfl
      · rfl
    · intro n
      rw [Document.children, Document.node?_modifyNode]
      split
      · rw [Option.map_map]
        rfl
      · rfl

/-- A tree stays one when a plan is applied to it. -/
theorem Resolver.isTree_apply_plan (r : Resolver) (planned : Document) (registry : Registry)
    {d : Document} (h : d.IsTree) (tables : LocalTables) :
    ((r.plan planned).apply registry d tables).document.IsTree := by
  have hleaf : ∀ c ∈ (r.plan planned).copies, c.2.children = [] := by
    intro c hc
    obtain ⟨_, _, _, _, -, -, hcopy⟩ := exists_derive_of_mem_copies_plan hc
    rw [hcopy]
    rfl
  rw [Derivation.apply_eq_foldl]
  refine List.foldlRecOn _ _ (motive := fun s : Derivation => s.document.IsTree) h ?_
  intro s hs c hc
  exact Derivation.isTree_addCopy registry hs (hleaf c hc)

/-- What a build makes of a well-formed document is a tree. -/
theorem Document.WellFormed.isTree_builtWith {d : Document} (h : d.WellFormed) (r : Resolver) :
    (d.builtWith r).document.IsTree :=
  r.isTree_apply_plan _ _ (h.isTree_prepare r.registry) _

namespace Derivation.Planned

variable {r : Resolver} {p : Document} {s : Derivation} (h : Planned r p s)
include h

/-- Nodes that were there have got the copies for them as further children. -/
theorem children_old {n : NodeId} (hn : n.index < p.size) :
    s.document.children n = p.children n ++ copyPlaces p.size (r.plan p).copies n := by
  obtain ⟨node, hnode⟩ := Option.isSome_iff_exists.1 ((Document.node?_isSome_iff p n).2 hn)
  simp [Document.children, h.copied.node?_old n hn, hnode]

/-- An entry of the tables about a derived node is one for a copy. -/
theorem copyEntry {entry : NodeId × Description} (hentry : entry ∈ s.tables.entries)
    (hderived : s.document.isDerived entry.2.node.node = true) :
    ∃ own view, s.document.CopyEntry s.tables entry.1 entry.2 own view := by
  rw [Document.isDerived, h.copied.parsedLen_eq, h.parsedLen_eq, decide_eq_true_eq] at hderived
  have hnew : entry ∉ (p.localTables r.registry).entries := fun hwritten =>
    Nat.not_lt.2 hderived (h.index_lt_of_mem_localTables hwritten)
  have htables := congrArg LocalTables.entries h.copied.tables_eq
  rw [htables] at hentry
  obtain ⟨⟨copy, i⟩, hc, hentry⟩ :=
    List.mem_flatMap.1 ((List.mem_append.1 hentry).resolve_left hnew)
  obtain ⟨viewKind, hkind, hview⟩ := Resolver.of_mem_copies_plan (List.fst_mem_of_mem_zipIdx hc)
  have hlt := Document.index_lt_of_kind? hkind
  obtain ⟨own, hown⟩ : ∃ own, copy.2.ownId? = some own := by
    cases hown : copy.2.ownId? with
    | none => simp [copyEntries, hown] at hentry
    | some own => exact ⟨own, rfl⟩
  have hentries : copyEntries r.registry p copy ⟨i⟩ =
      (tableNames p copy.1 viewKind own).map fun t =>
        (t.1, p.describe (r.registry.modelOf? p) ⟨i⟩ copy.2.kind t.2 .localForm) := by
    rw [copyEntries, hown, hkind]
  rw [hentries] at hentry
  obtain ⟨t, ht, rfl⟩ := List.mem_map.1 hentry
  obtain ⟨g, hg⟩ := h.copied.node?_of_mem_zipIdx hc
  refine ⟨own, copy.1, ?_, h.copied.parent?_of_mem_zipIdx hc, ⟨viewKind, ?_, ?_⟩, ?_, ?_⟩
  · show s.document.ownId? ⟨i⟩ = _
    rw [Document.ownId?, hg]
    exact hown
  · exact (h.copied.kind?_old hlt).trans hkind
  · rw [NodeKind.isEntityView, hview]
    rfl
  · rw [h.copied.ownId?_old hlt, h.copied.parent?_old hlt]
    refine (mem_tableNames_iff.1 ht).imp id ?_
    rintro ⟨-, rfl⟩
    exact ⟨rfl, rfl⟩
  · rw [h.copied.ownId?_old hlt, h.copied.parent?_old hlt, htables]
    intro viewId container hviewId hcontainer
    refine List.mem_append_right _ (List.mem_flatMap.2 ⟨_, hc, hentries ▸ List.mem_map.2
      ⟨(container, Name.qualify viewId own), ?_, rfl⟩⟩)
    exact mem_tableNames_iff.2 (Or.inl ⟨viewId, hviewId, hcontainer, rfl⟩)

end Derivation.Planned

/-- What it says depends on kinds, parents and identifiers alone. -/
theorem Document.CopyEntry.of_alike {d e : Document} (halike : Alike (fun i => i) d e)
    {tables : LocalTables} {c : NodeId} {x : Description} {own : String} {view : NodeId}
    (h : d.CopyEntry tables c x own view) : e.CopyEntry tables c x own view where
  ownId?_eq := (halike.ownId? _).trans h.ownId?_eq
  parent?_eq := (halike.parent? _).trans h.parent?_eq
  view_kind := by
    rw [halike.kind?]
    exact h.view_kind
  name_eq := by
    rw [halike.ownId?, halike.parent?]
    exact h.name_eq
  qualified_mem := by
    rw [halike.ownId?, halike.parent?]
    exact h.qualified_mem

namespace Snapshot.Current

variable {s : Snapshot} (h : s.Current Document.WellFormed) {id : DocumentId} {d : Document}
  (hd : s.workspace.get? id = some d)
include h hd

/-- Every document of the snapshot is a tree. -/
theorem isTree : d.IsTree := by
  obtain ⟨e, r, hok, -, -, hdocument, -⟩ := h.of_get? hd
  exact (hok.isTree_builtWith r).of_resetReferences_eq hdocument

/-- Derived nodes are inside viewing nodes. -/
theorem isEntityView_of_isDerived {n p : NodeId} (hderived : d.isDerived n = true)
    (hparent : d.parent? n = some p) : ∃ k, d.kind? p = some k ∧ k.isEntityView = true := by
  obtain ⟨e, r, hok, -, -, hdocument, -⟩ := h.of_get? hd
  have halike := Document.alike_of_resetReferences_eq hdocument
  have hplanned := hok.planned_builtWith r
  rw [halike.parent?] at hparent
  rw [halike.isDerived, Document.isDerived, hplanned.copied.parsedLen_eq, hplanned.parsedLen_eq,
    decide_eq_true_eq] at hderived
  obtain ⟨c, hc⟩ := hplanned.copied.exists_mem_zipIdx hderived (Document.index_lt_of_parent? hparent)
  have hview := hplanned.copied.parent?_of_mem_zipIdx hc
  obtain rfl : c.1 = p := Option.some.inj (hview.symm.trans hparent)
  obtain ⟨k, hk, hcopy⟩ := Resolver.of_mem_copies_plan (List.fst_mem_of_mem_zipIdx hc)
  refine ⟨k, ?_, ?_⟩
  · rw [halike.kind?, hplanned.copied.kind?_old (Document.index_lt_of_kind? hk), hk]
  · rw [NodeKind.isEntityView, hcopy]
    rfl

/-- Every entry of its tables about a derived node says what such an entry does. -/
theorem copyEntry {tables : LocalTables} (htables : s.index.locals? id = some tables)
    {entry : NodeId × Description} (hentry : entry ∈ tables.entries)
    (hderived : d.isDerived entry.2.node.node = true) :
    ∃ own view, d.CopyEntry tables entry.1 entry.2 own view := by
  obtain ⟨e, r, hok, -, -, hdocument, -, hlocals⟩ := h.of_get? hd
  have halike := Document.alike_of_resetReferences_eq hdocument
  rw [halike.isDerived] at hderived
  cases hlocals.symm.trans htables
  obtain ⟨own, view, hcopy⟩ := (hok.planned_builtWith r).copyEntry hentry hderived
  exact ⟨own, view, hcopy.of_alike halike⟩

end Snapshot.Current

namespace Document

/-- The root of what is built from drafts has nothing but children. -/
theorem node?_root_of_drafted {d : Document} (h : d.Drafted) :
    ∃ children, d.node? .root = some { kind := .root, children } := by
  obtain ⟨uri, drafts, -, rfl⟩ := h
  show ∃ children, Document.node? (drafts.foldl (fun d n => d.push n.1 n.2.toNode) (blank uri))
    .root = _
  suffices hfold : ∀ e : Document, 0 < e.size →
      (∃ children, e.node? .root = some { kind := .root, children }) →
      ∃ children, (drafts.foldl (fun d n => d.push n.1 n.2.toNode) e).node? .root =
        some { kind := .root, children } from
    hfold _ Nat.zero_lt_one ⟨[], rfl⟩
  induction drafts with
  | nil => exact fun e _ h => h
  | cons draft drafts ih =>
    rintro e hpos ⟨children, hroot⟩
    have hnode := node?_push_of_lt (n := .root) hpos draft.1 draft.2.toNode
    rw [hroot, Option.map_some] at hnode
    refine ih _ (by simp) ?_
    split at hnode
    · exact ⟨_, hnode⟩
    · exact ⟨_, hnode⟩

/-- What is built from drafts lasts: a document that was so when it was set is so as it was
written. -/
theorem lasting_drafted : Lasting fun d => d.WellFormed ∧ d.asWritten.Drafted where
  withId d id h := ⟨lasting_wellFormed.withId d id h.1, h.2⟩
  congr d e heq h := ⟨lasting_wellFormed.congr d e heq h.1, asWritten_congr heq ▸ h.2⟩
  builtWith d r h := ⟨lasting_wellFormed.builtWith d r h.1,
    d.asWritten_builtWith h.1.parsedLen_le r ▸ h.2⟩

end Document

namespace Session.Reachable

variable {s : Session} (hs : s.Reachable) {id : DocumentId} {d : Document}
  (hd : s.host.rebuild.workspace.get? id = some d)
include hs hd

/-- After a rebuild every document of a reachable session, as it was written, is built from
drafts. -/
theorem drafted : d.asWritten.Drafted := by
  obtain ⟨registry, actions, hsound, rfl⟩ := hs
  have hsets : ∀ a ∈ actions, a.Sets fun d => d.WellFormed ∧ d.asWritten.Drafted := by
    rintro _ ha d rfl
    have hdrafted : d.Drafted := hsound _ ha
    refine ⟨hdrafted.wellFormed, ?_⟩
    rw [hdrafted.plain.asWritten_eq]
    exact hdrafted
  exact ((current_rebuild Document.lasting_drafted registry hsets).all Document.lasting_drafted
    id d hd).2

/-- After a rebuild the root of every document of a reachable session is of the root's kind. -/
theorem kind?_root : d.kind? .root = some .root := by
  obtain ⟨children, hnode⟩ := Document.node?_root_of_drafted (hs.drafted hd)
  have hroot : d.asWritten.kind? .root = some .root := by
    rw [Document.kind?, hnode, Option.map_some]
  rw [Document.kind?_asWritten, Document.kind?, Document.node?_dropDerived] at hroot
  split at hroot
  · simpa [Document.kind?, Function.comp_def] using hroot
  · cases hroot

end Session.Reachable

end ModelBinding
