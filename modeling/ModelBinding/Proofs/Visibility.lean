import ModelBinding.Proofs.General

/-!
# What a scope shows

A scope shows what the data model of its document declares, and in Global form what
other data models declare that are visible from it for references; a document of no data
model sees only itself (`scope_permitted`). This rests on the index: every export
belongs to the data model that owns its document now, and so does every entry of a
container table (`Resolver.Guarded`). The one exception are dependencies of data models,
which see all data models but their own.
-/

namespace ModelBinding

/-- Whether a document of the data model `owner` may see a description: it is of that data model,
or in Global form of another one that is visible from it for references. -/
def Registry.Permits (r : Registry) (owner : Option DataModelId) (e : Description) : Prop :=
  e.dataModel = owner ∨ ∃ source m, owner = some source ∧ e.dataModel = some m ∧ m ≠ source ∧
    e.form = .globalForm ∧ r.isVisible source m true = true

namespace Resolver

/-- Whether a document may see a description; one of no data model may see only itself. -/
def Admits (r : Resolver) (d : Document) (e : Description) : Prop :=
  r.registry.Permits (r.registry.modelOf? d) e ∧
    (r.registry.modelOf? d = none → e.node.document = d.id)

/-- What a resolver knows belongs to the data models that own the documents. -/
structure Guarded (r : Resolver) (d : Document) : Prop where
  /-- Answers of the index are those of a search. -/
  globalScope_eq : ∀ k, r.index.globalScope k = Description.ofKind k r.index.all
  /-- Everything that is exported is of some data model. -/
  exports_owned : ∀ e ∈ r.index.all, ∃ m, e.dataModel = some m
  /-- What the document itself exports is of its data model. -/
  exports_own : ∀ e ∈ r.index.all, e.node.document = d.id → e.dataModel = r.registry.modelOf? d
  /-- The container tables of the document are about the document. -/
  tables_own : ∀ tables, r.index.locals? d.id = some tables → ∀ entry ∈ tables.entries,
    entry.2.dataModel = r.registry.modelOf? d ∧ entry.2.node.document = d.id

namespace Guarded

variable {r : Resolver} {d : Document}

/-- What describes the document under its own data model may be seen from it. -/
theorem admits_own {e : Description} (hmodel : e.dataModel = r.registry.modelOf? d)
    (hdocument : e.node.document = d.id) : r.Admits d e :=
  ⟨Or.inl hmodel, fun _ => hdocument⟩

/-- The document may see its own nodes. -/
theorem admits_describe (n : NodeId) (kind : NodeKind) (name : String) (form : NameForm) :
    r.Admits d (d.describe (r.registry.modelOf? d) n kind name form) :=
  admits_own rfl rfl

variable (h : r.Guarded d)
include h

/-- Entries of container tables may be seen. -/
theorem admits_of_mem_containerLayers {n : NodeId} {target : NodeKind} {layer : List Description}
    (hlayer : layer ∈ r.containerLayers d n target) {e : Description} (he : e ∈ layer) :
    r.Admits d e := by
  obtain ⟨tables, htables, entry, hentry, rfl⟩ := exists_entry_of_mem_containerLayers hlayer he
  obtain ⟨hmodel, hdocument⟩ := h.tables_own tables htables entry hentry
  exact admits_own hmodel hdocument

/-- What the package shows may be seen. -/
theorem admits_of_mem_packageScope {target : NodeKind} {e : Description}
    (he : e ∈ r.packageScope d target) : r.Admits d e := by
  obtain ⟨hmem, hmodel⟩ := mem_packageScope.1 he
  refine ⟨Or.inl hmodel, fun hnone => ?_⟩
  rw [h.globalScope_eq] at hmem
  obtain ⟨m, hm⟩ := h.exports_owned e (Description.mem_ofKind.1 hmem).1
  rw [hmodel, hnone] at hm
  cases hm

omit h in
/-- What the dependencies show may be seen. -/
theorem admits_of_mem_dependencyScope {target : NodeKind} {e : Description}
    (he : e ∈ r.dependencyScope d target) : r.Admits d e := by
  obtain ⟨-, hform, source, m, hsource, hm, hne, hvisible⟩ := mem_dependencyScope.1 he
  refine ⟨Or.inr ⟨source, m, hsource, hm, hne, hform, hvisible⟩, fun hnone => ?_⟩
  rw [hsource] at hnone
  cases hnone

/-- Everything in the general scope may be seen. -/
theorem admits_of_mem_generalScope {n : NodeId} {target : NodeKind} {e : Description}
    (he : e ∈ (r.generalScope d n target).elements) : r.Admits d e := by
  rcases mem_generalScope.1 he with ⟨layer, hlayer, he⟩ | he | he
  · exact h.admits_of_mem_containerLayers hlayer he
  · exact h.admits_of_mem_packageScope he
  · exact admits_of_mem_dependencyScope he

/-- Whatever the kind and the property, all that a scope shows may be seen, but for dependencies of
data models. -/
theorem admits_of_mem_scopeOf {n : NodeId} {kind : NodeKind} (hkind : kind ≠ .dataModelDependency)
    {p : Property} {target : NodeKind} {e : Description}
    (he : e ∈ (r.scopeOf d n kind p target).elements) : r.Admits d e := by
  rcases cases_of_mem_scopeOf he with he | ⟨hkind', -⟩ | ⟨m, k, name, -, -, rfl⟩
  · exact h.admits_of_mem_generalScope he
  · exact absurd hkind' hkind
  · exact admits_describe m k name .localForm

/-- A dependency in a document of one data model is shown all data models that others export. -/
theorem elements_dataModelDependencyScope {m : DataModelId}
    (hm : r.registry.modelOf? d = some m) (n : NodeId) :
    (r.dataModelDependencyScope d n).elements =
      r.index.all.filter fun e => e.kind = .dataModel && e.dataModel.any (· ≠ m) := by
  simp only [dataModelDependencyScope, Scope.elements_single, h.globalScope_eq, Description.ofKind,
    List.filter_filter, hm]
  refine List.filter_congr fun e he => ?_
  obtain ⟨owner, howner⟩ := h.exports_owned e he
  have hkind : e.kind.isSubtypeOf .dataModel = decide (e.kind = .dataModel) := by
    simp [NodeKind.isSubtypeOf, beq_eq_decide]
  by_cases heq : owner = m
  · simp [howner, heq]
  · have haround : some e.node ≠ (d.ancestorOfKind? n .dataModel).map d.ptr := by
      intro hptr
      obtain ⟨a, -, ha⟩ := Option.map_eq_some_iff.1 hptr.symm
      have hown := h.exports_own e he (congrArg NodePtr.document ha.symm)
      rw [howner, hm] at hown
      exact heq (Option.some.inj hown)
    simp [howner, heq, haround, hkind]

end Guarded

end Resolver

namespace Document

variable {d : Document} {r : Registry}

/-- A remembered Global ID shows that some data model owns the document. -/
theorem exists_modelOf?_of_globalId (hd : d.asWritten.Plain) {n : NodeId} {node : Node}
    (hn : (d.prepare r).node? n = some node) {g : String} (hg : node.globalId = some g) :
    ∃ m, r.modelOf? d = some m := by
  have hglobal := globalId?_of_remembered hd hn hg
  cases hm : r.modelOf? d with
  | some m => exact ⟨m, rfl⟩
  | none =>
    rw [Registry.globalId?_eq_none_of_modelOf?_eq_none (d := d.prepare r) hm] at hglobal
    cases hglobal

/-- Everything a document exports is of the data model that owns it, and there is one. -/
theorem owned_of_mem_exports (hd : d.asWritten.Plain) {e : Description}
    (he : e ∈ (d.prepare r).exports r) :
    e.dataModel = r.modelOf? d ∧ ∃ m, r.modelOf? d = some m := by
  obtain ⟨n, -, node, g, l, hnode, hg, -, -⟩ := mem_exports_iff.1 he
  have hmodel := dataModel_of_mem_exports he
  exact ⟨hmodel, exists_modelOf?_of_globalId hd hnode hg⟩

end Document

namespace Snapshot

/-- The document and the node that a site belongs to, if they are there. -/
def siteAt? (s : Snapshot) (site : Site) : Option (Document × Node) :=
  match s.place site with
  | .error _ => none
  | .ok (r, ptr) =>
    match r.locate ptr with
    | .error _ => none
    | .ok found => some found

/-- A chain stands for its last node in the document that it has been hung in. -/
theorem siteAt?_imagined {s : Snapshot} {c : ImaginedChain} {b : Document × NodeId}
    (hbase : s.base c = .ok b) (p : Property) (i : Nat) :
    s.siteAt? ⟨.imagined c, p, i⟩ =
      ((hang b.1 b.2 c.nodes).1.node? (hang b.1 b.2 c.nodes).2).map fun node =>
        ((hang b.1 b.2 c.nodes).1, node) := by
  simp only [siteAt?, place, materialize, hbase, Except.map, Resolver.locate, Document.ptr,
    Resolver.overlay_document?_self]
  cases (hang b.1 b.2 c.nodes).1.node? (hang b.1 b.2 c.nodes).2 <;> rfl

/-- What the index holds belongs to the data models that own the documents now. -/
structure Owned (s : Snapshot) : Prop where
  /-- The workspace is consistent. -/
  workspace : s.workspace.Consistent
  /-- The index is faithful. -/
  index : s.index.Faithful
  /-- Exports are of the data model of their document, and there is one. -/
  exports : ∀ e ∈ s.index.all, ∃ d, s.workspace.get? e.node.document = some d ∧
    e.dataModel = s.registry.modelOf? d ∧ ∃ m, s.registry.modelOf? d = some m
  /-- So are the entries of container tables. -/
  tables : ∀ id tables, s.index.locals? id = some tables → ∃ d, s.workspace.get? id = some d ∧
    ∀ entry ∈ tables.entries,
      entry.2.dataModel = s.registry.modelOf? d ∧ entry.2.node.document = id

/-- A chain leaves the number and the address of its document alone. -/
theorem id_uri_hang (d : Document) (parent : NodeId) (nodes : List ImaginedNode) :
    (hang d parent nodes).1.id = d.id ∧ (hang d parent nodes).1.uri = d.uri := by
  induction nodes generalizing d parent with
  | nil => exact ⟨rfl, rfl⟩
  | cons n ns ih => exact ih _ _

/-- A chain hangs in the document at its address, in the node that it is anchored to or else in the
root, or without anchor in a blank document there for an unsaved one. -/
theorem of_base {s : Snapshot} {c : ImaginedChain} {b : Document × NodeId}
    (hbase : s.base c = .ok b) :
    (s.workspace.at? c.uri = some b.1 ∧
        ((c.anchor = none ∧ b.2 = .root) ∨
          ∃ globalId, c.anchor = some globalId ∧ findAnchor? b.1 globalId = some b.2)) ∨
      (s.workspace.at? c.uri = none ∧ c.unsaved = true ∧ c.anchor = none ∧
        b = (.blank c.uri, .root)) := by
  unfold base at hbase
  split at hbase
  · rename_i d hd
    split at hbase
    · rename_i hanchor
      cases hbase
      exact Or.inl ⟨hd, Or.inl ⟨hanchor, rfl⟩⟩
    · rename_i globalId hanchor
      split at hbase
      · cases hbase
      · rename_i n hn
        cases hbase
        exact Or.inl ⟨hd, Or.inr ⟨globalId, hanchor, hn⟩⟩
  · rename_i hd
    split at hbase
    · rename_i hunsaved
      cases hbase
      exact Or.inr ⟨hd, hunsaved.1, hunsaved.2, rfl⟩
    · cases hbase

namespace Owned

variable {s : Snapshot} (h : s.Owned)
include h

/-- A resolver of the snapshot is guarded for a document at the number and address of one that is
there, and for one under a number that is free. -/
theorem guarded {r : Resolver} (hindex : r.index = s.index) (hregistry : r.registry = s.registry)
    {d : Document}
    (hd : ∀ old, s.workspace.get? d.id = some old → d.uri = old.uri) : r.Guarded d where
  globalScope_eq := by
    rw [hindex]
    exact h.index.globalScope_eq
  exports_owned := by
    intro e he
    rw [hindex] at he
    obtain ⟨old, -, hmodel, m, hm⟩ := h.exports e he
    exact ⟨m, hmodel.trans hm⟩
  exports_own := by
    intro e he hdocument
    rw [hindex] at he
    obtain ⟨old, hold, hmodel, -⟩ := h.exports e he
    rw [hdocument] at hold
    rw [hmodel, hregistry, Registry.modelOf?, Registry.modelOf?, hd old hold]
  tables_own := by
    intro tables htables entry hentry
    rw [hindex] at htables
    obtain ⟨old, hold, hentries⟩ := h.tables d.id tables htables
    obtain ⟨hmodel, hdocument⟩ := hentries entry hentry
    refine ⟨?_, hdocument⟩
    rw [hmodel, hregistry, Registry.modelOf?, Registry.modelOf?, hd old hold]

/-- The document of a chain is one that is there, or has a number that no document has. -/
theorem uri_eq_of_base {c : ImaginedChain}
    (hfew : c.unsaved = true → s.workspace.nextId ≤ DocumentId.unassigned.index)
    {b : Document × NodeId} (hbase : s.base c = .ok b) {old : Document}
    (hold : s.workspace.get? b.1.id = some old) : b.1.uri = old.uri := by
  rcases of_base hbase with ⟨hat, -⟩ | ⟨-, hunsaved, -, hblank⟩
  · obtain ⟨id, -, hget⟩ := Option.bind_eq_some_iff.1 hat
    rw [h.workspace.id_eq id b.1 hget, hget] at hold
    rw [Option.some.inj hold]
  · rw [hblank] at hold
    have hlt := h.workspace.lt_nextId _ (Workspace.mem_ids_of_get? hold)
    exact absurd (Nat.lt_of_lt_of_le hlt (hfew hunsaved)) (Nat.lt_irrefl _)

/-- Wherever a site is placed, its resolver is guarded for its document. -/
theorem guarded_of_place {site : Site}
    (hfew : ∀ c, site.container = .imagined c → c.unsaved = true →
      s.workspace.nextId ≤ DocumentId.unassigned.index)
    {r : Resolver} {ptr : NodePtr} (hplace : s.place site = .ok (r, ptr)) {d : Document}
    {node : Node} (hlocate : r.locate ptr = .ok (d, node)) : r.Guarded d := by
  have hdocument : r.document? ptr.document = some d := by
    unfold Resolver.locate at hlocate
    split at hlocate
    · cases hlocate
    · rename_i e he
      split at hlocate
      · cases hlocate
      · cases hlocate
        exact he
  unfold place at hplace
  split at hplace
  · cases hplace
    have hid : d.id = ptr.document := h.workspace.id_eq _ _ hdocument
    refine h.guarded rfl rfl fun old hold => ?_
    rw [hid] at hold
    have hold' : s.workspace.get? ptr.document = some d := hdocument
    rw [hold'] at hold
    rw [Option.some.inj hold]
  · rename_i c hc
    unfold materialize at hplace
    cases hbase : s.base c with
    | error err =>
      rw [hbase] at hplace
      cases hplace
    | ok b =>
      rw [hbase] at hplace
      cases hplace
      have hself : (s.resolver.overlay (hang b.1 b.2 c.nodes).1).document?
          (hang b.1 b.2 c.nodes).1.id = some (hang b.1 b.2 c.nodes).1 :=
        Resolver.overlay_document?_self _ _
      have hd : (hang b.1 b.2 c.nodes).1 = d := Option.some.inj (hself.symm.trans hdocument)
      obtain ⟨hid, huri⟩ := id_uri_hang b.1 b.2 c.nodes
      rw [hd] at hid huri
      refine h.guarded rfl rfl fun old hold => ?_
      rw [hid] at hold
      rw [huri]
      exact h.uri_eq_of_base (hfew c hc) hbase hold

end Owned

/-- A site that is not there shows nothing. -/
theorem elements_scope_of_siteAt?_eq_none {s : Snapshot} {site : Site}
    (hsite : s.siteAt? site = none) : (s.scope site).elements = [] := by
  unfold siteAt? at hsite
  unfold scope scope?
  cases hplace : s.place site with
  | error e => rfl
  | ok placed =>
    obtain ⟨r, ptr⟩ := placed
    simp only [hplace] at hsite
    cases hlocate : r.locate ptr with
    | error e =>
      simp only [Resolver.scopeAt, hlocate]
      rfl
    | ok found =>
      rw [hlocate] at hsite
      cases hsite

/-- The scope of a site that is there is the one its node and property ask for; it is empty if the
node has no such property. -/
theorem scope_eq_of_siteAt? {s : Snapshot} (h : s.Owned) {site : Site}
    (hfew : ∀ c, site.container = .imagined c → c.unsaved = true →
      s.workspace.nextId ≤ DocumentId.unassigned.index)
    {d : Document} {node : Node} (hsite : s.siteAt? site = some (d, node)) :
    ∃ (r : Resolver) (n : NodeId), r.Guarded d ∧ r.index = s.index ∧ r.registry = s.registry ∧
      s.scope site = match node.kind.referenceTarget? site.property with
        | none => .empty
        | some target => r.scopeOf d n node.kind site.property target := by
  unfold siteAt? at hsite
  unfold scope scope?
  cases hplace : s.place site with
  | error e =>
    rw [hplace] at hsite
    cases hsite
  | ok placed =>
    obtain ⟨r, ptr⟩ := placed
    simp only [hplace] at hsite
    cases hlocate : r.locate ptr with
    | error e =>
      rw [hlocate] at hsite
      cases hsite
    | ok found =>
      simp only [hlocate, Option.some.injEq] at hsite
      subst hsite
      have hsame : r.index = s.index ∧ r.registry = s.registry := by
        unfold place at hplace
        split at hplace
        · cases hplace
          exact ⟨rfl, rfl⟩
        · rename_i c _
          cases hm : s.materialize c with
          | error e =>
            rw [hm] at hplace
            cases hplace
          | ok m =>
            rw [hm] at hplace
            cases hplace
            exact ⟨rfl, rfl⟩
      refine ⟨r, ptr.node, h.guarded_of_place hfew hplace hlocate, hsame.1, hsame.2, ?_⟩
      simp only [Resolver.scopeAt, hlocate]
      cases node.kind.referenceTarget? site.property <;> rfl

end Snapshot

namespace Session

/-- After a rebuild the index of a reachable session holds what belongs to the data models that own
the documents now. -/
theorem Reachable.owned {s : Session} (hs : s.Reachable) : s.host.rebuild.toSnapshot.Owned := by
  obtain ⟨registry, actions, hsound, rfl⟩ := hs
  have h := current_rebuild Document.lasting_plain registry fun a ha => (hsound a ha).sets_plain
  refine ⟨h.workspace, h.index, fun x hx => ?_, fun id tables htables => ?_⟩
  · obtain ⟨d, hd, hexported, hmodel⟩ := h.of_mem_all hx
    obtain ⟨e, hplain, -, hgrown, hexports⟩ := h.grownTo_of_get? hd
    rw [hexports] at hexported
    obtain ⟨-, m, hm⟩ := Document.owned_of_mem_exports hplain hexported
    exact ⟨d, hd, hmodel, m, (hgrown.modelOf? _).trans hm⟩
  · obtain ⟨d, hd, hentries⟩ := h.of_locals? htables
    exact ⟨d, hd, fun entry hentry => (hentries entry hentry).symm⟩

/-- A scope shows what the data model of its document declares, and in Global form what other data
models declare that are visible from it for references; a document of no data model sees only its
own nodes. Dependencies of data models alone see every data model that others export. For a chain in
an unsaved document the counter of numbers must be one of 32 bits, so that the number of unsaved
documents, the last one, was not given out. -/
theorem scope_permitted {s : Session} (hs : s.Reachable) (site : Site)
    (hfew : ∀ c, site.container = .imagined c → c.unsaved = true →
      s.host.workspace.nextId ≤ DocumentId.unassigned.index) :
    (s.host.rebuild.siteAt? site = none → (s.host.rebuild.scope site).elements = []) ∧
      ∀ d node, s.host.rebuild.siteAt? site = some (d, node) →
        (node.kind ≠ .dataModelDependency → ∀ e ∈ (s.host.rebuild.scope site).elements,
          s.host.rebuild.registry.Permits (s.host.rebuild.registry.modelOf? d) e ∧
            (s.host.rebuild.registry.modelOf? d = none → e.node.document = d.id)) ∧
        (node.kind = .dataModelDependency → site.property = .dataModel →
          ∀ m, s.host.rebuild.registry.modelOf? d = some m →
            (s.host.rebuild.scope site).elements = s.host.rebuild.index.all.filter fun e =>
              e.kind = .dataModel && e.dataModel.any (· ≠ m)) := by
  have hfew' : ∀ c, site.container = .imagined c → c.unsaved = true →
      s.host.rebuild.workspace.nextId ≤ DocumentId.unassigned.index := by
    rw [s.host.frame_rebuild.2.2.1]
    exact hfew
  refine ⟨Snapshot.elements_scope_of_siteAt?_eq_none, fun d node hsite => ?_⟩
  obtain ⟨r, n, hguarded, hindex, hregistry, hscope⟩ :=
    Snapshot.scope_eq_of_siteAt? hs.owned hfew' hsite
  rw [hscope, ← hregistry, ← hindex]
  refine ⟨fun hkind e he => ?_, fun hkind hproperty m hm => ?_⟩
  · split at he
    · cases he
    · exact hguarded.admits_of_mem_scopeOf hkind he
  · rw [hkind, hproperty]
    exact hguarded.elements_dataModelDependencyScope hm n

/-- A session with two data models, of which one depends on the other. -/
def dependent : Session :=
  (start
    { models := [
        { id := ⟨"core"⟩, referenceName := "core", root := "file:///core" },
        { id := ⟨"shop"⟩, referenceName := "shop", root := "file:///shop"
          dependencies := [⟨⟨"core"⟩, .any⟩] }] }).run
    [.set (.ofDrafts "file:///core/a.cm"
        (List.map (fun draft => (NodeId.root, draft))
          [{ kind := .logicalEntity, id := some "Party" }])),
      .set (.ofDrafts "file:///shop/b.cm"
        (List.map (fun draft => (NodeId.root, draft))
          [{ kind := .relationship, id := some "Owns", references := [(.parent, "core.Party")] }]))]

/-- It is reachable. -/
theorem reachable_dependent : dependent.Reachable := by
  refine ⟨_, _, fun a ha => ?_, rfl⟩
  simp only [List.mem_cons, List.not_mem_nil, or_false] at ha
  rcases ha with rfl | rfl
  · exact drafted_flat _ _
  · exact drafted_flat _ _

/-- A relationship of the dependent data model sees the entity of the other one, and may. -/
theorem scope_permitted_dependent :
    ∃ d node, dependent.host.rebuild.siteAt? (.ofNode ⟨⟨1⟩, ⟨1⟩⟩ .parent) = some (d, node) ∧
      ((dependent.host.rebuild.scope (.ofNode ⟨⟨1⟩, ⟨1⟩⟩ .parent)).elements.map (·.name)) =
        ["core.Party"] ∧
      ∀ e ∈ (dependent.host.rebuild.scope (.ofNode ⟨⟨1⟩, ⟨1⟩⟩ .parent)).elements,
        dependent.host.rebuild.registry.Permits (dependent.host.rebuild.registry.modelOf? d) e := by
  have hkind : (dependent.host.rebuild.siteAt? (.ofNode ⟨⟨1⟩, ⟨1⟩⟩ .parent)).map (·.2.kind) =
      some .relationship := by
    decide +kernel
  obtain ⟨⟨d, node⟩, hsite, hnode⟩ := Option.map_eq_some_iff.1 hkind
  have hpermitted := scope_permitted reachable_dependent (.ofNode ⟨⟨1⟩, ⟨1⟩⟩ .parent)
    (fun _ _ _ => by decide +kernel)
  refine ⟨d, node, hsite, by decide +kernel, fun e he => ?_⟩
  have hne : node.kind ≠ .dataModelDependency := by
    rw [hnode]
    decide
  exact (((hpermitted.2 d node hsite).1 hne) e he).1

end Session

end ModelBinding
