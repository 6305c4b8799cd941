import ModelBinding.Analysis
import ModelBinding.Proofs.Descriptions
import ModelBinding.Proofs.Meaning

/-!
# Names without duplicates

No two nodes of a data model should be exported under one name. What is reported are
nodes that have one Global ID. Where nothing is reported, names of one form are
unambiguous: nodes of one kind that have one Local ID have one Global ID as well. What
the report misses is exactly a Local ID that reads like the Global ID of another node
(`Snapshot.Crosses`, `exported_ambiguous`). Such a Local ID begins with the reference
name of the data model itself, so every other name means one node
(`exported_unambiguous`).
-/

namespace ModelBinding

/-- The Global ID that a node of the kind with the Local ID `l` has under a reference name. -/
def NodeKind.globalName (k : NodeKind) (reference l : String) : String :=
  if k = .dataModel then reference else Name.qualify reference l

/-- The name that a description of its form gives a node with the Local ID `l`. -/
def Description.spelling (x : Description) (reference l : String) : String :=
  match x.form with
  | .localForm => l
  | .globalForm => x.kind.globalName reference l

/-- In Local form the name is the Local ID. -/
theorem Description.spelling_of_localForm {x : Description} (h : x.form = .localForm)
    (reference l : String) : x.spelling reference l = l := by
  rw [spelling, h]

/-- In Global form the name of what is no data model begins with the reference name. -/
theorem Description.spelling_of_globalForm {x : Description} (h : x.form = .globalForm)
    (hkind : x.kind ≠ .dataModel) (reference l : String) :
    x.spelling reference l = Name.qualify reference l := by
  simp only [spelling, h, NodeKind.globalName, if_neg hkind]

/-- Data models stand only where data models are asked for, and nothing else does. -/
theorem NodeKind.dataModel_of_isSubtypeOf {j j' k : NodeKind} (hj : j.isSubtypeOf k = true)
    (hj' : j'.isSubtypeOf k = true) (heq : j = .dataModel) : j' = .dataModel := by
  subst heq
  cases k <;> cases j' <;> simp_all [isSubtypeOf, isDerivedAttribute]

/-- Where descriptions of nodes that may stand where a kind is asked for spell one name, the nodes
have one Global ID, or the Local ID of one of them reads like the Global ID of the other, which is
no data model. -/
theorem Description.globalName_eq_of_spelling_eq {e f : Description} {k : NodeKind}
    {reference l l' : String} (he : e.kind.isSubtypeOf k = true) (hf : f.kind.isSubtypeOf k = true)
    (heq : e.spelling reference l = f.spelling reference l') :
    e.kind.globalName reference l = f.kind.globalName reference l' ∨
      (e.form = .globalForm ∧ f.form = .localForm ∧ e.kind ≠ .dataModel ∧
        l' = Name.qualify reference l) ∨
      (f.form = .globalForm ∧ e.form = .localForm ∧ f.kind ≠ .dataModel ∧
        l = Name.qualify reference l') := by
  unfold spelling at heq
  by_cases hdataModel : e.kind = .dataModel
  · -- All data model nodes have the reference name as Global ID.
    have hdataModel' := NodeKind.dataModel_of_isSubtypeOf he hf hdataModel
    left
    rw [NodeKind.globalName, NodeKind.globalName, if_pos hdataModel, if_pos hdataModel']
  · have hdataModel' : f.kind ≠ .dataModel := fun h =>
      hdataModel (NodeKind.dataModel_of_isSubtypeOf hf he h)
    rw [NodeKind.globalName, NodeKind.globalName, if_neg hdataModel, if_neg hdataModel'] at heq ⊢
    cases heform : e.form <;> cases hfform : f.form <;> simp only [heform, hfform] at heq
    case localForm.localForm => exact Or.inl (congrArg _ heq)
    case globalForm.globalForm => exact Or.inl heq
    case globalForm.localForm => exact Or.inr (Or.inl ⟨rfl, rfl, hdataModel, heq.symm⟩)
    case localForm.globalForm => exact Or.inr (Or.inr ⟨rfl, rfl, hdataModel', heq⟩)

namespace Snapshot

/-- What the documents of a data model export, in order. -/
def exportedBy (s : Snapshot) (m : DataModelId) : List Description :=
  (s.workspace.list.filter fun d => s.registry.modelOf? d = some m).flatMap fun d =>
    s.index.exportsOf d.id

/-- No document of a data model has an identifier reported as taken. -/
def WithoutDuplicates (s : Snapshot) (m : DataModelId) : Prop :=
  ∀ d ∈ s.workspace.list, s.registry.modelOf? d = some m →
    ∀ x ∈ s.diagnostics d.uri, x.code ≠ some Diagnostic.duplicateCode

/-- The first description tells the Global ID of a node, which is the reference name of the data
model before a Local ID, and the second one tells a Local ID that reads like it. -/
structure Crosses (s : Snapshot) (m : DataModelId) (e f : Description) : Prop where
  /-- The first description is in Global form. -/
  form_global : e.form = .globalForm
  /-- The second one is in Local form. -/
  form_local : f.form = .localForm
  /-- The first one is not about a data model node. -/
  kind_ne : e.kind ≠ .dataModel
  /-- The Local ID reads like the Global ID. -/
  name_eq : ∃ reference l, s.registry.referenceName? m = some reference ∧
    s.localId? e.node = some l ∧ f.name = Name.qualify reference l

/-- A Local ID that reads like a Global ID begins with the reference name of the data model. -/
theorem Crosses.isInside {s : Snapshot} {m : DataModelId} {e f : Description} (h : s.Crosses m e f)
    {reference : String} (hreference : s.registry.referenceName? m = some reference) :
    Name.isInside reference f.name = true := by
  obtain ⟨found, l, hfound, -, hname⟩ := h.name_eq
  rw [hreference] at hfound
  rw [hname, ← Option.some.inj hfound]
  exact Name.isInside_qualify _ _

namespace Current

variable {ok : Document → Prop} {s : Snapshot} {m : DataModelId} {e f x : Description}

/-- The documents of a data model export what is exported under the data model. -/
theorem mem_exportedBy (h : s.Current ok) :
    x ∈ s.exportedBy m ↔ x ∈ s.index.all ∧ x.dataModel = some m := by
  rw [exportedBy, List.mem_flatMap]
  constructor
  · rintro ⟨d, hmem, hx⟩
    obtain ⟨hlist, hmodel⟩ := List.mem_filter.1 hmem
    have hd := h.workspace.mem_list_iff.1 hlist
    refine ⟨?_, (h.of_mem_exportsOf hd hx).2.trans (of_decide_eq_true hmodel)⟩
    rw [h.all_eq]
    exact List.mem_flatMap.2 ⟨d.id, Workspace.mem_ids_of_get? hd, hx⟩
  · rintro ⟨hall, hmodel⟩
    obtain ⟨d, hd, hx, hdataModel⟩ := h.of_mem_all hall
    refine ⟨d, List.mem_filter.2 ⟨?_, ?_⟩, ?_⟩
    · exact h.workspace.mem_list_of_get? hd
    · exact decide_eq_true (hdataModel.symm.trans hmodel)
    · rw [h.workspace.id_eq _ _ hd]
      exact hx

/-- Where no duplicates are reported, the first declaration of a Global ID in the data model is any
that has it. -/
theorem node_firstDeclared? (h : s.Current ok) (hclean : s.WithoutDuplicates m)
    (hx : x ∈ s.index.all) (hform : x.form = .globalForm) (hmodel : x.dataModel = some m) :
    (s.index.firstDeclared? x).map (·.node) = some x.node := by
  have hsome : (s.index.firstDeclared? x).isSome := by
    rw [Index.firstDeclared?, List.find?_isSome]
    exact ⟨x, hx, by simp [Description.isGlobal, hform]⟩
  obtain ⟨first, hfirst⟩ := Option.isSome_iff_exists.1 hsome
  rw [hfirst, Option.map_some]
  by_contra hne
  obtain ⟨d, hd, hexported, hdataModel⟩ := h.of_mem_all hx
  have hreport : s.index.checkDuplicate x = some (.duplicate x.node x.name first.node) := by
    rw [Index.checkDuplicate, hfirst, Option.bind_some, if_neg fun heq => hne (congrArg some heq)]
  have hmem : Diagnostic.duplicate x.node x.name first.node ∈ s.diagnostics d.uri := by
    rw [diagnostics, h.workspace.at?_of_get? hd]
    refine List.mem_append_right _ (List.mem_filterMap.2 ⟨x, ?_, hreport⟩)
    rw [h.workspace.id_eq _ _ hd]
    exact List.mem_filter.2 ⟨hexported, by simp [Description.isGlobal, hform]⟩
  exact hclean d (h.workspace.mem_list_of_get? hd) (hdataModel.symm.trans hmodel) _ hmem rfl

/-- Where no duplicates are reported, nodes of the data model that have one Global ID are one. -/
theorem node_eq_of_globalForm (h : s.Current ok) (hclean : s.WithoutDuplicates m)
    (he : e ∈ s.index.all) (hf : f ∈ s.index.all) (heform : e.form = .globalForm)
    (hfform : f.form = .globalForm) (hemodel : e.dataModel = some m)
    (hfmodel : f.dataModel = some m) (hname : e.name = f.name) : e.node = f.node := by
  have hfirst : s.index.firstDeclared? e = s.index.firstDeclared? f := by
    rw [Index.firstDeclared?, Index.firstDeclared?, hname, hemodel, hfmodel]
  have hnode := h.node_firstDeclared? hclean he heform hemodel
  rw [hfirst, h.node_firstDeclared? hclean hf hfform hfmodel] at hnode
  exact (Option.some.inj hnode).symm

section Plain

variable (h : s.Current fun d => d.asWritten.Plain)
include h

/-- Only nodes of identified kinds are exported. -/
theorem isIdentified_of_mem_all (hx : x ∈ s.index.all) : x.kind.isIdentified = true := by
  obtain ⟨d, hd, hexported, -⟩ := h.of_mem_all hx
  obtain ⟨e, hplain, -, -, hexports⟩ := h.grownTo_of_get? hd
  rw [hexports] at hexported
  obtain ⟨n, -, node, g, l, hnode, hg, -, rfl | rfl⟩ := Document.mem_exports_iff.1 hexported
  · exact Document.isIdentified_of_remembered hplain hnode hg
  · exact Document.isIdentified_of_remembered hplain hnode hg

/-- Every export of a data model is named after the Local ID of its node, and the node is exported
under its Global ID. -/
theorem exists_spelling (hx : x ∈ s.index.all) (hmodel : x.dataModel = some m) {reference : String}
    (hreference : s.registry.referenceName? m = some reference) :
    ∃ l, s.localId? x.node = some l ∧ x.name = x.spelling reference l ∧
      ∃ y ∈ s.index.all, y.form = .globalForm ∧ y.node = x.node ∧ y.dataModel = some m ∧
        y.name = x.kind.globalName reference l := by
  obtain ⟨d, hd, hfits, hname⟩ := h.fits_of_mem_all hx
  have howner : s.registry.modelOf? d = some m := by
    rw [Registry.modelOf?, ← hfits.uri_eq, ← hfits.dataModel_eq]
    exact hmodel
  obtain ⟨l, g, hl, hg, -, hglobal⟩ :=
    h.mem_all_of_exported hx hd hfits.kind_eq (h.isIdentified_of_mem_all hx)
  have hg' : g = x.kind.globalName reference l := by
    rw [Registry.globalId?_of_modelOf? howner hreference, Document.qualifiedId?, hfits.kind_eq,
      Option.bind_some, hl] at hg
    rw [NodeKind.globalName]
    split at hg
    · rw [if_pos ‹_›]
      exact (Option.some.inj hg).symm
    · rw [if_neg ‹_›]
      exact (Option.some.inj hg).symm
  refine ⟨l, ?_, ?_, _, hglobal, rfl, ?_, howner, hg'⟩
  · rw [localId?, hd, Option.bind_some, hl]
  · unfold Description.Identifies at hname
    unfold Description.spelling
    cases hform : x.form with
    | localForm =>
      rw [hform] at hname
      exact Option.some.inj (hname.symm.trans hl)
    | globalForm =>
      rw [hform] at hname
      rw [← hg']
      exact Option.some.inj (hname.1.symm.trans hg)
  · show (⟨d.id, x.node.node⟩ : NodePtr) = x.node
    rw [← hfits.document_eq]

/-- Where a Local ID reads like a Global ID, the two exports have one name and are about two nodes:
no node has a Local ID that begins with the reference name and goes on with itself. -/
theorem name_eq_and_node_ne_of_crosses (he : e ∈ s.index.all) (hf : f ∈ s.index.all)
    (hemodel : e.dataModel = some m) (hfmodel : f.dataModel = some m) (hcross : s.Crosses m e f) :
    e.name = f.name ∧ e.node ≠ f.node := by
  obtain ⟨reference, l, hreference, hl, hqualified⟩ := hcross.name_eq
  obtain ⟨_, hl₁, hename, -⟩ := h.exists_spelling he hemodel hreference
  obtain ⟨l', hl', hfname, -⟩ := h.exists_spelling hf hfmodel hreference
  rw [hl, Option.some.injEq] at hl₁
  rw [← hl₁, Description.spelling_of_globalForm hcross.form_global hcross.kind_ne] at hename
  rw [Description.spelling_of_localForm hcross.form_local] at hfname
  refine ⟨hename.trans hqualified.symm, fun hnode => ?_⟩
  rw [← hnode, hl, Option.some.injEq] at hl'
  have hself : l = Name.qualify reference l := hl'.trans (hfname.symm.trans hqualified)
  exact absurd (congrArg String.length hself) (Name.length_lt_length_qualify reference l).ne

/-- Where no duplicates are reported, two exports of a data model that may stand where a kind is
asked for and have one name are about one node, or the Local ID that one of them tells reads like
the Global ID that the other one tells. -/
theorem node_eq_or_crosses (hclean : s.WithoutDuplicates m) {k : NodeKind} (he : e ∈ s.index.all)
    (hf : f ∈ s.index.all) (hemodel : e.dataModel = some m) (hfmodel : f.dataModel = some m)
    (hekind : e.kind.isSubtypeOf k = true) (hfkind : f.kind.isSubtypeOf k = true)
    (hname : e.name = f.name) : e.node = f.node ∨ s.Crosses m e f ∨ s.Crosses m f e := by
  obtain ⟨d, -, hfits, -⟩ := h.fits_of_mem_all he
  obtain ⟨reference, hreference⟩ :=
    Registry.exists_referenceName?_of_owner? (hfits.dataModel_eq.symm.trans hemodel)
  obtain ⟨l, hl, hename, e', he', heform', henode', hemodel', hename'⟩ :=
    h.exists_spelling he hemodel hreference
  obtain ⟨l', hl', hfname, f', hf', hfform', hfnode', hfmodel', hfname'⟩ :=
    h.exists_spelling hf hfmodel hreference
  have hspelling : e.spelling reference l = f.spelling reference l' := by
    rw [← hename, ← hfname, hname]
  rcases Description.globalName_eq_of_spelling_eq hekind hfkind hspelling with
    heq | ⟨heform, hfform, hkind, hqualified⟩ | ⟨hfform, heform, hkind, hqualified⟩
  · left
    rw [← henode', ← hfnode']
    exact h.node_eq_of_globalForm hclean he' hf' heform' hfform' hemodel' hfmodel'
      (hename'.trans (heq.trans hfname'.symm))
  · refine Or.inr (Or.inl ⟨heform, hfform, hkind, reference, l, hreference, hl, ?_⟩)
    rw [hfname, Description.spelling_of_localForm hfform, hqualified]
  · refine Or.inr (Or.inr ⟨hfform, heform, hkind, reference, l', hreference, hl', ?_⟩)
    rw [hename, Description.spelling_of_localForm heform, hqualified]

end Plain

end Current

end Snapshot

namespace Session

/-- After any sound actions and a rebuild, in a data model without reported duplicates two nodes that
may stand where a kind is asked for are exported under one name exactly if the name is the Local ID
of one of them and reads like the Global ID of the other, which is no data model. So a name that is
not inside the reference name of the data model means one node in the package of its documents. -/
theorem exported_unambiguous {s : Session} (hs : s.Reachable) {m : DataModelId}
    (hclean : s.host.rebuild.WithoutDuplicates m) :
    (∀ k, ∀ e ∈ s.host.rebuild.exportedBy m, ∀ f ∈ s.host.rebuild.exportedBy m,
      e.kind.isSubtypeOf k = true → f.kind.isSubtypeOf k = true →
        (e.name = f.name ∧ e.node ≠ f.node ↔
          s.host.rebuild.Crosses m e f ∨ s.host.rebuild.Crosses m f e)) ∧
    ∀ d reference, s.host.rebuild.registry.modelOf? d = some m →
      s.host.rebuild.registry.referenceName? m = some reference → ∀ k,
      ∀ e ∈ s.host.rebuild.resolver.packageScope d k,
      ∀ f ∈ s.host.rebuild.resolver.packageScope d k, e.name = f.name →
        Name.isInside reference e.name = false → e.node = f.node := by
  have hplain := hs.current_plain
  refine ⟨fun k e he f hf hekind hfkind => ?_,
    fun d reference howner hreference k e he f hf hname houtside => ?_⟩
  · obtain ⟨he, hemodel⟩ := hplain.mem_exportedBy.1 he
    obtain ⟨hf, hfmodel⟩ := hplain.mem_exportedBy.1 hf
    constructor
    · rintro ⟨hname, hne⟩
      have hcase := hplain.node_eq_or_crosses hclean he hf hemodel hfmodel hekind hfkind hname
      exact hcase.resolve_left hne
    · rintro (hcross | hcross)
      · exact hplain.name_eq_and_node_ne_of_crosses he hf hemodel hfmodel hcross
      · obtain ⟨hname, hne⟩ := hplain.name_eq_and_node_ne_of_crosses hf he hfmodel hemodel hcross
        exact ⟨hname.symm, hne.symm⟩
  · have hof : ∀ x ∈ s.host.rebuild.resolver.packageScope d k, x ∈ s.host.rebuild.index.all ∧
        x.dataModel = some m ∧ x.kind.isSubtypeOf k = true := by
      intro x hx
      obtain ⟨hx, hmodel⟩ := Resolver.mem_packageScope.1 hx
      rw [show s.host.rebuild.resolver.index = s.host.rebuild.index from rfl,
        hplain.index.globalScope_eq] at hx
      obtain ⟨hall, hkind⟩ := Description.mem_ofKind.1 hx
      exact ⟨hall, hmodel.trans howner, hkind⟩
    obtain ⟨he, hemodel, hekind⟩ := hof e he
    obtain ⟨hf, hfmodel, hfkind⟩ := hof f hf
    rcases hplain.node_eq_or_crosses hclean he hf hemodel hfmodel hekind hfkind hname with
      heq | hcross | hcross
    · exact heq
    · rw [hname, hcross.isInside hreference] at houtside
      cases houtside
    · rw [hcross.isInside hreference] at houtside
      cases houtside

/-- A session in which a data model node has the reference name as its identifier and contains an
entity; another document of the data model has an entity of the same identifier. -/
def namesakes : Session :=
  (start { models := [{ id := ⟨"core"⟩, referenceName := "core", root := "file:///core" }] }).run
    [.set (.ofDrafts "file:///core/a.cm"
        [(.root, { kind := .dataModel, id := some "core" }),
          (⟨1⟩, { kind := .logicalEntity, id := some "Party" })]),
      .set (.ofDrafts "file:///core/b.cm"
        [(.root, { kind := .logicalEntity, id := some "Party" })])]

/-- It is reachable. -/
theorem reachable_namesakes : namesakes.Reachable := by
  refine ⟨_, _, fun a ha => ?_, rfl⟩
  simp only [List.mem_cons, List.not_mem_nil, or_false] at ha
  rcases ha with rfl | rfl
  · exact drafted_ofDrafts (by decide)
  · exact drafted_ofDrafts (by decide)

/-- No identifier is reported as taken. -/
theorem withoutDuplicates_namesakes : namesakes.host.rebuild.WithoutDuplicates ⟨"core"⟩ := by
  unfold Snapshot.WithoutDuplicates
  decide +kernel

/-- The Local ID of one entity and the Global ID of the other are the same. -/
theorem exists_namesakes :
    ∃ e ∈ namesakes.host.rebuild.exportedBy ⟨"core"⟩,
      ∃ f ∈ namesakes.host.rebuild.exportedBy ⟨"core"⟩, e.kind = .logicalEntity ∧
        f.kind = .logicalEntity ∧ e.name = "core.Party" ∧ f.name = "core.Party" ∧
        e.node ≠ f.node := by
  decide +kernel

/-- Two entities of a data model are exported under one name, and no duplicate is reported. -/
theorem exported_ambiguous :
    namesakes.Reachable ∧ namesakes.host.rebuild.WithoutDuplicates ⟨"core"⟩ ∧
      ∃ e ∈ namesakes.host.rebuild.exportedBy ⟨"core"⟩,
        ∃ f ∈ namesakes.host.rebuild.exportedBy ⟨"core"⟩,
          e.kind.isSubtypeOf .logicalEntity = true ∧ f.kind.isSubtypeOf .logicalEntity = true ∧
            e.name = f.name ∧ e.node ≠ f.node := by
  obtain ⟨e, he, f, hf, hekind, hfkind, hename, hfname, hne⟩ := exists_namesakes
  exact ⟨reachable_namesakes, withoutDuplicates_namesakes, e, he, f, hf, by rw [hekind]; rfl,
    by rw [hfkind]; rfl, hename.trans hfname.symm, hne⟩

/-- One of their names is then a Local ID that reads like a Global ID. -/
theorem exported_unambiguous_namesakes :
    ∃ e ∈ namesakes.host.rebuild.exportedBy ⟨"core"⟩,
      ∃ f ∈ namesakes.host.rebuild.exportedBy ⟨"core"⟩, e.node ≠ f.node ∧
        (namesakes.host.rebuild.Crosses ⟨"core"⟩ e f ∨
          namesakes.host.rebuild.Crosses ⟨"core"⟩ f e) := by
  obtain ⟨e, he, f, hf, hekind, hfkind, hename, hfname, hne⟩ := exists_namesakes
  obtain ⟨hunambiguous, -⟩ :=
    exported_unambiguous reachable_namesakes withoutDuplicates_namesakes
  refine ⟨e, he, f, hf, hne, ?_⟩
  exact (hunambiguous .logicalEntity e he f hf (by rw [hekind]; rfl) (by rw [hfkind]; rfl)).1
    ⟨hename.trans hfname.symm, hne⟩

end Session

end ModelBinding
