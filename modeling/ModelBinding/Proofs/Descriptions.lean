import ModelBinding.Proofs.Mirror
import ModelBinding.Proofs.Visibility

/-!
# What descriptions say

A description in the index or in a scope is about a node that is there: the workspace
holds its document at its address, the node is of its kind, and its data model is the one
that owns the document now (`Description.Fits`). Exports and container tables moreover
name a written node by the Local ID or the Global ID that it has now, and a derived
attribute as its view does (`Description.NamedIn`). All this is true of what a build finds
(`Document.fits_of_mem_exports_prepare`, `Document.fits_of_mem_tables_builtWith`), and it
stays true when the document grows.
-/

namespace ModelBinding

namespace Description

/-- A description that says of a node of the document what is true of it. -/
structure Fits (x : Description) (r : Registry) (d : Document) : Prop where
  /-- It is about the document. -/
  document_eq : x.node.document = d.id
  /-- The document is at that address. -/
  uri_eq : x.uri = d.uri
  /-- The node is there and of that kind. -/
  kind_eq : d.kind? x.node.node = some x.kind
  /-- The data model is the one that owns what is at that address. -/
  dataModel_eq : x.dataModel = r.owner? x.uri

/-- Whether the name is the identity of the node that the form tells: its Local ID, or its Global
ID, which the node then also remembers. -/
def Identifies (x : Description) (r : Registry) (d : Document) : Prop :=
  match x.form with
  | .localForm => d.localId? x.node.node = some x.name
  | .globalForm => r.globalId? d x.node.node = some x.name ∧
      (d.node? x.node.node).bind (·.globalId) = some x.name

/-- Whether a derived attribute is named as its view names it: by its identifier, behind that of the
view or bare. -/
def NamesCopy (x : Description) (d : Document) : Prop :=
  x.form = .localForm ∧ ∃ own view, d.ownId? x.node.node = some own ∧
    d.parent? x.node.node = some view ∧
    ((∃ viewId, d.ownId? view = some viewId ∧ x.name = Name.qualify viewId own) ∨ x.name = own)

/-- Whether the name is one that the node has in the document. -/
def NamedIn (x : Description) (r : Registry) (d : Document) : Prop :=
  if d.isDerived x.node.node then x.NamesCopy d else x.Identifies r d

end Description

namespace Document

variable {d e : Document} {r : Registry} {x : Description}

/-- A node with an identifier is there. -/
theorem index_lt_of_ownId? {n : NodeId} {own : String} (h : d.ownId? n = some own) :
    n.index < d.size := by
  obtain ⟨node, hnode, -⟩ := Option.bind_eq_some_iff.1 h
  exact (node?_isSome_iff d n).1 (by simp [hnode])

/-- What describes a node under the document's data model fits. -/
theorem fits_describe {n : NodeId} {k : NodeKind} (hk : d.kind? n = some k) (name : String)
    (form : NameForm) : (d.describe (r.modelOf? d) n k name form).Fits r d :=
  ⟨rfl, rfl, hk, rfl⟩

namespace GrownTo

variable (h : d.GrownTo e)
include h

/-- What fits a document fits what it has grown to. -/
theorem fits (hx : x.Fits r d) : x.Fits r e where
  document_eq := hx.document_eq.trans h.id_eq.symm
  uri_eq := hx.uri_eq.trans h.uri_eq.symm
  kind_eq := (h.kind? (index_lt_of_kind? hx.kind_eq)).trans hx.kind_eq
  dataModel_eq := hx.dataModel_eq

/-- Old nodes keep their identities. -/
theorem identifies (hx : x.Fits r d) (hname : x.Identifies r d) : x.Identifies r e := by
  have hlt := index_lt_of_kind? hx.kind_eq
  unfold Description.Identifies at hname ⊢
  generalize x.form = form at hname ⊢
  cases form with
  | localForm => exact (h.localId? hlt).trans hname
  | globalForm =>
    have hremembered := h.map_node? (·.globalId) (fun _ => rfl) (fun _ _ => rfl) hlt
    refine ⟨(h.globalId? r hlt).trans hname.1, ?_⟩
    simpa only [Option.bind_map, Function.comp_def] using
      (congrArg (Option.bind · fun g => g) hremembered).trans
        ((Option.bind_map ..).trans hname.2)

/-- Old derived attributes keep the names that their views give them. -/
theorem namesCopy (hx : x.Fits r d) (hname : x.NamesCopy d) : x.NamesCopy e := by
  have hlt := index_lt_of_kind? hx.kind_eq
  obtain ⟨hform, own, view, hown, hview, hnamed⟩ := hname
  refine ⟨hform, own, view, (h.ownId? hlt).trans hown, (h.parent? hlt).trans hview, ?_⟩
  rcases hnamed with ⟨viewId, hviewId, heq⟩ | heq
  · exact Or.inl ⟨viewId, (h.ownId? (index_lt_of_ownId? hviewId)).trans hviewId, heq⟩
  · exact Or.inr heq

/-- Old nodes keep their names. -/
theorem namedIn (hx : x.Fits r d) (hname : x.NamedIn r d) : x.NamedIn r e := by
  have hderived : e.isDerived x.node.node = d.isDerived x.node.node := by
    rw [isDerived, isDerived, h.parsedLen_eq]
  unfold Description.NamedIn at hname ⊢
  rw [hderived]
  split
  · rw [if_pos ‹_›] at hname
    exact h.namesCopy hx hname
  · rw [if_neg ‹_›] at hname
    exact h.identifies hx hname

end GrownTo

/-- All exports of a prepared document fit it and name its nodes. -/
theorem fits_of_mem_exports_prepare (hd : d.asWritten.Plain)
    (hx : x ∈ (d.prepare r).exports r) :
    x.Fits r (d.prepare r) ∧ x.Identifies r (d.prepare r) := by
  obtain ⟨n, -, node, g, l, hnode, hg, hl, rfl | rfl⟩ := mem_exports_iff.1 hx
  · have hkind : (d.prepare r).kind? n = some node.kind := by rw [kind?, hnode, Option.map_some]
    exact ⟨fits_describe hkind _ _, hl⟩
  · have hkind : (d.prepare r).kind? n = some node.kind := by rw [kind?, hnode, Option.map_some]
    refine ⟨fits_describe hkind _ _, globalId?_of_remembered hd hnode hg, ?_⟩
    show ((d.prepare r).node? n).bind _ = some g
    rw [hnode, Option.bind_some, hg]

/-- All entries in the tables of a prepared document fit it and name its nodes. -/
theorem fits_of_mem_localTables_prepare (hd : d.asWritten.Plain) {entry : NodeId × Description}
    (hentry : entry ∈ ((d.prepare r).localTables r).entries) :
    entry.2.Fits r (d.prepare r) ∧ entry.2.Identifies r (d.prepare r) := by
  obtain ⟨n, -, hentry⟩ := List.mem_flatMap.1 hentry
  unfold tableEntries at hentry
  split at hentry
  · rename_i node container l hnode _ hl
    have hkind : (d.prepare r).kind? n = some node.kind := by rw [kind?, hnode, Option.map_some]
    rcases List.mem_cons.1 hentry with rfl | hentry
    · exact ⟨fits_describe hkind _ _, hl⟩
    · obtain ⟨g, hg, rfl⟩ := Option.map_eq_some_iff.1 (Option.mem_toList.1 hentry)
      refine ⟨fits_describe hkind _ _, globalId?_of_remembered hd hnode hg, ?_⟩
      show ((d.prepare r).node? n).bind _ = some g
      rw [hnode, Option.bind_some, hg]
  · cases hentry

end Document

namespace Derivation

variable {registry : Registry} {d : Document} {tables : LocalTables}
  {copies : List (NodeId × Node)} {s : Derivation}

/-- An entry for a copy is in Local form and names it as its view does. -/
theorem name_of_mem_copyEntries {c : NodeId × Node} {place : NodeId} {entry : NodeId × Description}
    (h : entry ∈ copyEntries registry d c place) :
    entry.2.form = .localForm ∧ entry.2.uri = d.uri ∧ ∃ own, c.2.ownId? = some own ∧
      ((∃ viewId, d.ownId? c.1 = some viewId ∧ entry.2.name = Name.qualify viewId own) ∨
        entry.2.name = own) := by
  unfold copyEntries at h
  split at h
  · rename_i own viewKind hown _
    obtain ⟨t, ht, rfl⟩ := List.mem_map.1 h
    refine ⟨rfl, rfl, own, hown, ?_⟩
    rcases mem_tableNames_iff.1 ht with ⟨viewId, hview, -, hname⟩ | ⟨-, rfl⟩
    · exact Or.inl ⟨viewId, hview, hname⟩
    · exact Or.inr rfl
  · cases h

/-- The entries that have been added for copies fit the document that has grown, and name its
derived attributes. -/
theorem Copied.fits_of_mem_copyEntries (h : Copied registry d tables copies s)
    (hlen : d.parsedLen = d.size) {c : NodeId × Node} {i : Nat}
    (hc : (c, i) ∈ copies.zipIdx d.size) {entry : NodeId × Description}
    (hentry : entry ∈ copyEntries registry d c ⟨i⟩) :
    entry.2.Fits registry s.document ∧ entry.2.NamedIn registry s.document := by
  obtain ⟨hnode, hkind, hmodel⟩ := of_mem_copyEntries hentry
  obtain ⟨hform, huri, own, hown, hname⟩ := name_of_mem_copyEntries hentry
  obtain ⟨g, hg⟩ := h.node?_of_mem_zipIdx hc
  have hplace : entry.2.node.node = ⟨i⟩ := congrArg NodePtr.node hnode
  have hderived : s.document.isDerived entry.2.node.node = true := by
    rw [Document.isDerived, h.parsedLen_eq, hlen, hplace]
    exact decide_eq_true (List.le_snd_of_mem_zipIdx hc)
  refine ⟨⟨?_, huri.trans h.uri_eq.symm, ?_, ?_⟩, ?_⟩
  · exact (congrArg NodePtr.document hnode).trans h.id_eq.symm
  · rw [hplace, Document.kind?, hg, Option.map_some, hkind]
  · rw [huri]
    exact hmodel
  · rw [Description.NamedIn, if_pos hderived, Description.NamesCopy, hplace]
    refine ⟨hform, own, c.1, ?_, ?_, ?_⟩
    · rw [Document.ownId?, hg]
      exact hown
    · exact h.parent?_of_mem_zipIdx hc
    · rcases hname with ⟨viewId, hviewId, heq⟩ | heq
      · have hlt := Document.index_lt_of_ownId? hviewId
        exact Or.inl ⟨viewId, (h.ownId?_old hlt).trans hviewId, heq⟩
      · exact Or.inr heq

end Derivation

/-- All entries of the tables that a build makes fit the document that it makes, and name its
nodes. -/
theorem Document.fits_of_mem_tables_builtWith {d : Document} (hd : d.asWritten.Plain) (r : Resolver)
    {entry : NodeId × Description} (hentry : entry ∈ (d.builtWith r).tables.entries) :
    entry.2.Fits r.registry (d.builtWith r).document ∧
      entry.2.NamedIn r.registry (d.builtWith r).document := by
  have hcopied := d.copied_builtWith r
  have hlen := d.parsedLen_prepare r.registry hd.parsedLen_le_size
  rw [hcopied.tables_eq] at hentry
  rcases List.mem_append.1 hentry with hentry | hentry
  · obtain ⟨hfits, hname⟩ := fits_of_mem_localTables_prepare hd hentry
    have hwritten : (d.prepare r.registry).isDerived entry.2.node.node = false := by
      have hlt := index_lt_of_kind? hfits.kind_eq
      rw [isDerived, hlen]
      exact decide_eq_false (Nat.not_le.2 hlt)
    have hnamed : entry.2.NamedIn r.registry (d.prepare r.registry) := by
      rw [Description.NamedIn, hwritten]
      exact hname
    have hgrown := d.grownTo_builtWith r
    exact ⟨hgrown.fits hfits, hgrown.namedIn hfits hnamed⟩
  · obtain ⟨⟨c, i⟩, hc, hentry⟩ := List.mem_flatMap.1 hentry
    exact hcopied.fits_of_mem_copyEntries hlen hc hentry

namespace Snapshot.Current

variable {s : Snapshot} (h : s.Current fun d => d.asWritten.Plain) {x : Description}
include h

/-- Whatever is exported fits a document of the workspace and identifies one of its nodes. -/
theorem fits_of_mem_all (hx : x ∈ s.index.all) :
    ∃ d, s.workspace.get? x.node.document = some d ∧ x.Fits s.registry d ∧
      x.Identifies s.registry d := by
  obtain ⟨d, hd, hexported, -⟩ := h.of_mem_all hx
  obtain ⟨e, hplain, -, hgrown, hexports⟩ := h.grownTo_of_get? hd
  rw [hexports] at hexported
  obtain ⟨hfits, hname⟩ := Document.fits_of_mem_exports_prepare hplain hexported
  exact ⟨d, hd, hgrown.fits hfits, hgrown.identifies hfits hname⟩

/-- Whatever stands in container tables fits the document that they are held for, and names one of
its nodes. -/
theorem fits_of_locals? {id : DocumentId} {tables : LocalTables}
    (htables : s.index.locals? id = some tables) {entry : NodeId × Description}
    (hentry : entry ∈ tables.entries) :
    ∃ d, s.workspace.get? id = some d ∧ entry.2.Fits s.registry d ∧
      entry.2.NamedIn s.registry d := by
  obtain ⟨d, hd, -⟩ := h.of_locals? htables
  obtain ⟨e, r, hplain, -, hregistry, hdocument, -, hlocals⟩ := h.of_get? hd
  rw [hlocals] at htables
  rw [← Option.some.inj htables] at hentry
  obtain ⟨hfits, hname⟩ := Document.fits_of_mem_tables_builtWith hplain r hentry
  have hgrown := Document.GrownTo.of_resetReferences_eq hdocument
  rw [← hregistry]
  exact ⟨d, hd, hgrown.fits hfits, hgrown.namedIn hfits hname⟩

/-- Whatever the tables that are read for a document show fits a document of that number. -/
theorem fits_of_mem_localsOf {id : DocumentId} {entry : NodeId × Description}
    (hentry : entry ∈ (s.index.localsOf id).entries) :
    ∃ d, s.workspace.get? id = some d ∧ entry.2.Fits s.registry d ∧
      entry.2.NamedIn s.registry d := by
  rw [Index.localsOf] at hentry
  cases htables : s.index.locals? id with
  | none =>
    rw [htables] at hentry
    cases hentry
  | some tables =>
    rw [htables] at hentry
    exact h.fits_of_locals? htables hentry

/-- All that a table of a document holds is true of the document. -/
theorem fits_of_mem_table {id : DocumentId} {d : Document} (hd : s.workspace.get? id = some d)
    {c : NodeId} (hx : x ∈ (s.index.localsOf id).table c) :
    x.Fits s.registry d ∧ x.NamedIn s.registry d := by
  obtain ⟨entry, hentry, rfl⟩ := List.mem_map.1 hx
  obtain ⟨e, he, hfits⟩ := h.fits_of_mem_localsOf (List.mem_filter.1 hentry).1
  cases hd.symm.trans he
  exact hfits

/-- Whatever the tables around a node show fits the document of the node and names one of its
nodes. -/
theorem fits_of_mem_containerLayers {d : Document} (hd : s.workspace.get? d.id = some d)
    {n : NodeId} {target : NodeKind} {layer : List Description}
    (hlayer : layer ∈ s.resolver.containerLayers d n target) (hx : x ∈ layer) :
    x.Fits s.registry d ∧ x.NamedIn s.registry d := by
  obtain ⟨tables, htables, entry, hentry, rfl⟩ :=
    Resolver.exists_entry_of_mem_containerLayers hlayer hx
  obtain ⟨e, he, hfits⟩ := h.fits_of_locals? htables hentry
  rw [hd] at he
  exact Option.some.inj he ▸ hfits

/-- Whatever a scope of an existing node shows fits a document of the workspace, and it is exported
or about the node's own document. -/
theorem fits_of_mem_scope_ofNode {ptr : NodePtr} {p : Property} {i : Nat}
    (hx : x ∈ (s.scope (.ofNode ptr p i)).elements) :
    ∃ d, s.workspace.get? x.node.document = some d ∧ x.Fits s.registry d ∧
      (x ∈ s.index.all ∨ x.node.document = ptr.document) := by
  obtain ⟨d, node, target, hd, -, -, hx⟩ := of_mem_scope_ofNode hx
  have hid := h.workspace.id_eq _ _ hd
  have hglobal : ∀ k, x ∈ s.index.globalScope k → ∃ d,
      s.workspace.get? x.node.document = some d ∧ x.Fits s.registry d ∧
        (x ∈ s.index.all ∨ x.node.document = ptr.document) := fun k hk => by
    have hall := (h.index.mem_globalScope_iff.1 hk).1
    obtain ⟨e, he, hfits, -⟩ := h.fits_of_mem_all hall
    exact ⟨e, he, hfits, Or.inl hall⟩
  have hown : x.Fits s.registry d → ∃ d,
      s.workspace.get? x.node.document = some d ∧ x.Fits s.registry d ∧
        (x ∈ s.index.all ∨ x.node.document = ptr.document) := fun hfits => by
    have hdocument : x.node.document = ptr.document := hfits.document_eq.trans hid
    rw [hdocument]
    exact ⟨d, hd, hfits, Or.inr rfl⟩
  rcases Resolver.cases_of_mem_scopeOf hx with hx | ⟨-, hx⟩ | ⟨m, k, name, hk, -, rfl⟩
  · rcases Resolver.mem_generalScope.1 hx with ⟨layer, hlayer, hx⟩ | hx | hx
    · exact hown (h.fits_of_mem_containerLayers (hid ▸ hd) hlayer hx).1
    · exact hglobal _ (Resolver.mem_packageScope.1 hx).1
    · exact hglobal _ (Resolver.mem_dependencyScope.1 hx).1
  · exact hglobal _ hx
  · exact hown (Document.fits_describe hk name .localForm)

end Snapshot.Current

namespace Session

/-- After any sound actions and a rebuild, every description in the exports, in the container tables
and in the scopes of existing nodes is about a node that is there, of that kind, in the document of
that number at that address, under the data model that owns it now. Exports and tables name written
nodes by the identities that they have now, and tables name derived attributes as their views do. No
derived attribute is exported, and only the tables and scopes of its own document show it. -/
theorem descriptions_fit {s : Session} (hs : s.Reachable) :
    (∀ x ∈ s.host.rebuild.index.all, ∃ d,
      s.host.rebuild.workspace.get? x.node.document = some d ∧
        x.Fits s.host.rebuild.registry d ∧ x.Identifies s.host.rebuild.registry d ∧
        d.isDerived x.node.node = false) ∧
    (∀ id tables, s.host.rebuild.index.locals? id = some tables → ∀ entry ∈ tables.entries,
      entry.2.node.document = id ∧ ∃ d, s.host.rebuild.workspace.get? id = some d ∧
        entry.2.Fits s.host.rebuild.registry d ∧ entry.2.NamedIn s.host.rebuild.registry d) ∧
    ∀ ptr p i, ∀ x ∈ (s.host.rebuild.scope (.ofNode ptr p i)).elements, ∃ d,
      s.host.rebuild.workspace.get? x.node.document = some d ∧
        x.Fits s.host.rebuild.registry d ∧
        (d.isDerived x.node.node = true → x.node.document = ptr.document) := by
  have hwellFormed := hs.current
  obtain ⟨registry, actions, hsound, rfl⟩ := hs
  have hplain := current_rebuild Document.lasting_plain registry
    fun a ha => (hsound a ha).sets_plain
  refine ⟨fun x hx => ?_, fun id tables htables entry hentry => ?_, fun ptr p i x hx => ?_⟩
  · obtain ⟨d, hd, hfits, hname⟩ := hplain.fits_of_mem_all hx
    exact ⟨d, hd, hfits, hname, hwellFormed.isDerived_of_mem_all hx hd⟩
  · obtain ⟨d, hd, hfits, hname⟩ := hplain.fits_of_locals? htables hentry
    exact ⟨hfits.document_eq.trans (hplain.workspace.id_eq id d hd), d, hd, hfits, hname⟩
  · obtain ⟨d, hd, hfits, hall | hdocument⟩ := hplain.fits_of_mem_scope_ofNode hx
    · have hwritten := hwellFormed.isDerived_of_mem_all hall hd
      exact ⟨d, hd, hfits, fun hderived => absurd hderived (by simp [hwritten])⟩
    · exact ⟨d, hd, hfits, fun _ => hdocument⟩

/-- In the tables of a document the derived attribute of a target is described behind the identifier
of the target, as a node that is there. -/
theorem descriptions_fit_viewed :
    ∃ tables d, viewed.host.rebuild.index.locals? ⟨0⟩ = some tables ∧
      viewed.host.rebuild.workspace.get? ⟨0⟩ = some d ∧
      ∃ entry ∈ tables.entries, entry.2.name = "T.Name" ∧ d.isDerived entry.2.node.node = true ∧
        entry.2.Fits viewed.host.rebuild.registry d ∧ entry.2.NamesCopy d := by
  have hentry : (viewed.host.rebuild.index.locals? ⟨0⟩).any (fun tables =>
      tables.entries.any fun entry =>
        entry.2.name = "T.Name" && entry.2.node.node = ⟨5⟩) = true := by
    decide +kernel
  have hplace : (viewed.host.rebuild.workspace.get? ⟨0⟩).map (·.isDerived ⟨5⟩) = some true := by
    decide +kernel
  obtain ⟨tables, htables⟩ := Option.isSome_iff_exists.1
    (show (viewed.host.rebuild.index.locals? ⟨0⟩).isSome by decide +kernel)
  rw [htables, Option.any_some] at hentry
  obtain ⟨entry, hmem, hentry⟩ := List.any_eq_true.1 hentry
  simp only [Bool.and_eq_true, decide_eq_true_eq] at hentry
  obtain ⟨hname, hnode⟩ := hentry
  obtain ⟨-, d, hd, hfits, hnamed⟩ :=
    (descriptions_fit reachable_viewed).2.1 ⟨0⟩ tables htables entry hmem
  rw [hd, Option.map_some, Option.some.injEq] at hplace
  have hderived : d.isDerived entry.2.node.node = true := hnode ▸ hplace
  rw [Description.NamedIn, if_pos hderived] at hnamed
  exact ⟨tables, d, htables, hd, entry, hmem, hname, hderived, hfits, hnamed⟩

end Session

end ModelBinding
