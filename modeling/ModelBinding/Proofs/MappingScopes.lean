import ModelBinding.Proofs.BuiltTree
import ModelBinding.Proofs.Descriptions
import ModelBinding.Proofs.Lists
import ModelBinding.Proofs.Sources
import ModelBinding.Proofs.Spelling

/-!
# What scopes show inside mappings

Inside a mapping sources, their attributes and derived attributes are shown under names
that begin with the identifier of a source or a target, or later. The name by which a node
is referred to begins with the identifiers of all its containers, and what the former
leaves out of it are those around the source or target (`Document.omittedIds`). So the
node is shown under that name if there are none, and otherwise only under names that are
shorter (`Scope.Shows`, `Snapshot.exists_shows`).
-/

namespace ModelBinding

namespace NodeKind

/-- The property under which nodes of a kind refer to something by a name inside the mapping. -/
def mappingProperty? : NodeKind → Option Property
  | sourceObjectDependency => some .source
  | sourceObjectAttributeReference | attributeMappingSource | attributeMappingTarget => some .value
  | _ => none

/-- Under that property they refer to something. -/
theorem exists_referenceTarget?_of_mappingProperty? {k : NodeKind} {p : Property}
    (h : k.mappingProperty? = some p) : ∃ target, k.referenceTarget? p = some target := by
  unfold mappingProperty? at h
  split at h <;> cases h <;> exact ⟨_, rfl⟩

/-- Sources and the attributes in a join condition are seen in scopes of their own, and all else in
the general scope. -/
theorem cases_of_mappingProperty? {k : NodeKind} {p : Property} (h : k.mappingProperty? = some p) :
    k = sourceObjectDependency ∨ k = sourceObjectAttributeReference ∨
      k.seesGeneralScope p = true := by
  unfold mappingProperty? at h
  split at h
  · exact Or.inl rfl
  · exact Or.inr (Or.inl rfl)
  · cases h
    exact Or.inr (Or.inr rfl)
  · cases h
    exact Or.inr (Or.inr rfl)
  · cases h

end NodeKind

namespace Document

/-- The identifiers that begin the Local ID of a node and are left out of the names under which
nodes of the kind `site` see it. They are those around a source where sources are seen, those around
its source where an attribute is seen in a join condition, and those around its view where a derived
attribute is seen in the general scope; of written nodes the general scope leaves out nothing. -/
def omittedIds (d : Document) (site : NodeKind) (n : NodeId) : List String :=
  match site with
  | .sourceObjectDependency => d.containerIds n
  | .sourceObjectAttributeReference => ((d.parent? n).map d.containerIds).getD []
  | _ => if d.isDerived n then ((d.parent? n).map d.containerIds).getD [] else []

/-- In the general scope only derived nodes are seen under names that leave something out. -/
theorem omittedIds_of_seesGeneralScope (d : Document) {site : NodeKind} {p : Property}
    (h : site.seesGeneralScope p = true) (n : NodeId) : d.omittedIds site n =
      if d.isDerived n then ((d.parent? n).map d.containerIds).getD [] else [] := by
  unfold omittedIds
  split
  · cases h
  · cases h
  · rfl

/-- Whether no two nodes with one parent have the same identifier. -/
def DistinctIds (d : Document) : Prop :=
  ∀ node ∈ d.nodes, (node.children.filterMap d.ownId?).Nodup

instance (d : Document) : Decidable d.DistinctIds :=
  inferInstanceAs (Decidable (∀ node ∈ d.nodes, _))

/-- A child is then known by its identifier. -/
theorem DistinctIds.eq_of_ownId? {d : Document} (h : d.DistinctIds) {n c c' : NodeId}
    (hc : c ∈ d.children n) (hc' : c' ∈ d.children n) {own : String} (hown : d.ownId? c = some own)
    (hown' : d.ownId? c' = some own) : c = c' := by
  obtain ⟨node, hnode, hmem⟩ : ∃ node ∈ d.nodes, d.children n = node.children := by
    unfold children at hc ⊢
    cases hnode : d.node? n with
    | none => simp [hnode] at hc
    | some node => exact ⟨node, List.mem_of_getElem? hnode, rfl⟩
  rw [hmem] at hc hc'
  exact eq_of_nodup_filterMap (h node hnode) hc hc' hown hown'

/-- Whether identifiers tell apart all that nodes of the kind `site` see: sources do if no two nodes
with one parent have the same identifier, and their attributes do if moreover the identifiers of
sources hold no separator. -/
def NamesApart (d : Document) (site : NodeKind) : Prop :=
  d.DistinctIds ∧ (site = .sourceObjectDependency ∨ site = .sourceObjectAttributeReference ∧
    ∀ n own, d.kind? n = some .sourceObject → d.ownId? n = some own →
      Name.separator ∉ own.toList)

/-- The tables of a document show every node that they show under its Local ID, too. -/
theorem exists_localEntry {d : Document} {r : Registry} {entry : NodeId × Description}
    (h : entry ∈ (d.localTables r).entries) : ∃ l, d.localId? entry.2.node.node = some l ∧
      (entry.1, { entry.2 with name := l, form := .localForm }) ∈ (d.localTables r).entries := by
  obtain ⟨n, hn, hentry⟩ := List.mem_flatMap.1 h
  have hmem : ∀ e, e ∈ d.tableEntries (r.modelOf? d) n → e ∈ (d.localTables r).entries :=
    fun e he => List.mem_flatMap.2 ⟨n, hn, he⟩
  unfold tableEntries at hentry hmem
  split at hentry
  · rename_i node container l hnode hcontainer hl
    rw [hnode, hcontainer, hl] at hmem
    rcases List.mem_cons.1 hentry with rfl | hentry
    · exact ⟨l, hl, hmem _ (List.mem_cons_self ..)⟩
    · obtain ⟨g, -, rfl⟩ := Option.map_eq_some_iff.1 (Option.mem_toList.1 hentry)
      exact ⟨l, hl, hmem _ (List.mem_cons_self ..)⟩
  · cases hentry

end Document

namespace Resolver

variable {r : Resolver} {d : Document} {n : NodeId}

/-- What the tables around a node show is what stands in them of the kind. -/
theorem mem_containerLayers_iff {target : NodeKind} {x : Description} :
    (∃ layer ∈ r.containerLayers d n target, x ∈ layer) ↔
      ∃ tables, r.index.locals? d.id = some tables ∧ ∃ c ∈ n :: d.ancestors n,
        (c, x) ∈ tables.entries ∧ x.kind.isSubtypeOf target = true := by
  unfold containerLayers
  cases r.index.locals? d.id with
  | none => simp
  | some tables =>
    constructor
    · rintro ⟨layer, hlayer, hx⟩
      obtain ⟨c, hc, rfl⟩ := List.mem_map.1 (List.mem_filter.1 hlayer).1
      obtain ⟨hx, hkind⟩ := Description.mem_ofKind.1 hx
      obtain ⟨⟨c', x'⟩, hfiltered, rfl⟩ := List.mem_map.1 hx
      obtain ⟨hentry, heq⟩ := List.mem_filter.1 hfiltered
      obtain rfl : c' = c := by simpa using heq
      exact ⟨tables, rfl, c', hc, hentry, hkind⟩
    · rintro ⟨_, ⟨⟩, c, hc, hentry, hkind⟩
      have hx : x ∈ Description.ofKind target (tables.table c) :=
        Description.mem_ofKind.2 ⟨List.mem_map.2 ⟨_, List.mem_filter.2 ⟨hentry, by simp⟩, rfl⟩,
          hkind⟩
      have hlayer :=
        List.mem_map_of_mem (f := fun c => Description.ofKind target (tables.table c)) hc
      exact ⟨_, List.mem_filter.2 ⟨hlayer, by simpa using List.ne_nil_of_mem hx⟩, hx⟩

/-- The other sources of a mapping are shown under their own identifiers. -/
theorem exists_mapping_of_sourceDependencyScope (r : Resolver) (d : Document) (n : NodeId) :
    ∃ mapping, ∀ x ∈ (r.sourceDependencyScope d n).elements,
      ∃ source ∈ d.children mapping, ∃ own, d.ownId? source = some own ∧
        x = d.describe (r.registry.modelOf? d) source .sourceObject own .localForm := by
  unfold sourceDependencyScope
  split
  · exact ⟨.root, fun x hx => by cases hx⟩
  · rename_i owner _
    split
    · exact ⟨.root, fun x hx => by cases hx⟩
    · rename_i mapping _
      refine ⟨mapping, fun x hx => ?_⟩
      rw [Scope.elements_single] at hx
      obtain ⟨⟨own, source⟩, hsource, rfl⟩ := List.mem_map.1 hx
      obtain ⟨hmem, hown⟩ := Document.mem_namedSources.1 (List.mem_filter.1 hsource).1
      exact ⟨source, (List.mem_filter.1 hmem).1, own, hown, rfl⟩

/-- In a tree a join condition is shown attributes of sources of one mapping. -/
theorem exists_mapping_of_joinAttributeScope (h : d.IsTree) (hroot : d.kind? .root = some .root)
    (r : Resolver) (n : NodeId) :
    ∃ mapping, ∀ x ∈ (r.joinAttributeScope d n).elements,
      ∃ source ∈ d.childrenOfKind mapping .sourceObject, x ∈ r.sourceAttributes d source := by
  unfold joinAttributeScope
  split
  · exact ⟨.root, fun x hx => by cases hx⟩
  · rename_i owner howner
    have hkind : d.kind? owner = some .sourceObject := by simpa using List.find?_some howner
    obtain ⟨mapping, hmapping⟩ := h.exists_parent_of_kind? hroot hkind (by decide)
    refine ⟨mapping, fun x hx => ?_⟩
    rw [Scope.elements_single] at hx
    obtain ⟨source, hsource, hx⟩ := List.mem_flatMap.1 hx
    exact ⟨source, h.mem_childrenOfKind_of_mem_sourceClosure hkind hmapping hsource, hx⟩

/-- Where identifiers tell them apart, what the scopes that mappings have of their own show under
one name is one node. -/
theorem node_eq_of_namesApart (h : d.IsTree) (hroot : d.kind? .root = some .root)
    {kind target : NodeKind} (happart : d.NamesApart kind) {p : Property} {x y : Description}
    (hx : x ∈ (r.scopeOf d n kind p target).elements)
    (hy : y ∈ (r.scopeOf d n kind p target).elements) (hname : y.name = x.name) :
    y.node = x.node := by
  obtain ⟨hdistinct, rfl | ⟨rfl, hplain⟩⟩ := happart
  · obtain ⟨mapping, hsources⟩ := exists_mapping_of_sourceDependencyScope r d n
    obtain ⟨source, hsource, own, hown, rfl⟩ := hsources x hx
    obtain ⟨source', hsource', own', hown', rfl⟩ := hsources y hy
    obtain rfl : own' = own := hname
    rw [hdistinct.eq_of_ownId? hsource hsource' hown hown']
  · obtain ⟨mapping, hsources⟩ := exists_mapping_of_joinAttributeScope h hroot r n
    obtain ⟨source, hsource, hx⟩ := hsources x hx
    obtain ⟨source', hsource', hy⟩ := hsources y hy
    obtain ⟨a, ha, -, sourceId, own, hsourceId, hown, rfl⟩ := mem_sourceAttributes_iff.1 hx
    obtain ⟨a', ha', -, sourceId', own', hsourceId', hown', rfl⟩ := mem_sourceAttributes_iff.1 hy
    obtain ⟨hsource, hkind⟩ := List.mem_filter.1 hsource
    obtain ⟨hsource', hkind'⟩ := List.mem_filter.1 hsource'
    obtain ⟨rfl, rfl⟩ := Name.qualify_inj
      (hplain source' sourceId' (by simpa using hkind') hsourceId')
      (hplain source sourceId (by simpa using hkind) hsourceId) hname
    obtain rfl := hdistinct.eq_of_ownId? hsource hsource' hsourceId hsourceId'
    rw [hdistinct.eq_of_ownId? ha ha' hown hown']

end Resolver

/-- How a scope shows the node of `x`, where it leaves identifiers out of its names: if there are
none to leave out, it shows the node under `name`; otherwise `name` is that of `x` behind others,
and the scope does not show the node under it. -/
structure Scope.Shows (s : Scope) (x : Description) (omitted : List String) (name : String) :
    Prop where
  /-- With nothing left out the node is shown under the name. -/
  shown : omitted = [] → ∃ y ∈ s.elements, y.name = name ∧ y.node = x.node
  /-- With something left out the name is longer than that of `x`. -/
  qualified : omitted ≠ [] → ∃ outer, name = Name.qualify outer x.name
  /-- With something left out the node is not shown under the name. -/
  hidden : omitted ≠ [] → ∀ y ∈ s.elements, y.node = x.node → y.name ≠ name

/-- A scope that shows a node under some segments, and under none but the last ones of them, shows
it so if identifiers before them are left out. -/
theorem Scope.shows_of_join {s : Scope} {x : Description} (hx : x ∈ s.elements)
    {omitted : List String} (segments : List String)
    (hshown : ∃ y ∈ s.elements, y.name = Name.join segments ∧ y.node = x.node)
    (hlast : ∀ y ∈ s.elements, y.node = x.node → ∃ front back, back ≠ [] ∧
      front ++ back = segments ∧ y.name = Name.join back) :
    s.Shows x omitted (Name.join (omitted ++ segments)) := by
  have hqualified : omitted ≠ [] → ∀ y ∈ s.elements, y.node = x.node →
      ∃ outer, Name.join (omitted ++ segments) = Name.qualify outer y.name := by
    intro homitted y hy hnode
    obtain ⟨front, back, hback, rfl, hname⟩ := hlast y hy hnode
    refine ⟨Name.join (omitted ++ front), ?_⟩
    rw [← List.append_assoc, Name.join_append (by simp [homitted]) hback, hname]
  refine ⟨?_, fun homitted => hqualified homitted x hx rfl, fun homitted y hy hnode heq => ?_⟩
  · rintro rfl
    exact hshown
  · obtain ⟨outer, houter⟩ := hqualified homitted y hy hnode
    have hlength := Name.length_lt_length_qualify outer y.name
    rw [← houter, heq] at hlength
    exact Nat.lt_irrefl _ hlength

namespace Resolver

variable {r : Resolver} {d : Document} {n : NodeId} {x : Description}

/-- Where sources are offered, only the identifiers around the mapping's sources are left out. -/
theorem shows_of_mem_sourceDependencyScope (hx : x ∈ (r.sourceDependencyScope d n).elements) :
    x.node.document = d.id ∧ ∃ name, d.localId? x.node.node = some name ∧
      (r.sourceDependencyScope d n).Shows x
        (d.omittedIds .sourceObjectDependency x.node.node) name := by
  obtain ⟨mapping, hsources⟩ := exists_mapping_of_sourceDependencyScope r d n
  obtain ⟨source, -, own, hown, hdescribe⟩ := hsources x hx
  have hnode : x.node = d.ptr source := congrArg Description.node hdescribe
  refine ⟨congrArg NodePtr.document hnode, _, ?_, Scope.shows_of_join hx [own] ⟨x, hx, ?_, rfl⟩
    fun y hy hsame => ?_⟩
  · rw [hnode]
    show d.localId? source = _
    rw [Document.localId?, hown]
    rfl
  · rw [hdescribe, Name.join_singleton]
    rfl
  · obtain ⟨source', -, own', hown', hdescribe'⟩ := hsources y hy
    obtain rfl : source' = source := by
      rw [hnode, hdescribe'] at hsame
      exact congrArg NodePtr.node hsame
    cases hown.symm.trans hown'
    exact ⟨[], [own], by simp, rfl, by rw [hdescribe', Name.join_singleton]; rfl⟩

/-- Where attributes of sources are offered, the identifiers around the source are left out. -/
theorem shows_of_mem_joinAttributeScope (h : d.IsTree) (hroot : d.kind? .root = some .root)
    (hx : x ∈ (r.joinAttributeScope d n).elements) :
    x.node.document = d.id ∧ ∃ name, d.localId? x.node.node = some name ∧
      (r.joinAttributeScope d n).Shows x
        (d.omittedIds .sourceObjectAttributeReference x.node.node) name := by
  obtain ⟨mapping, hsources⟩ := exists_mapping_of_joinAttributeScope h hroot r n
  obtain ⟨source, -, hattribute⟩ := hsources x hx
  obtain ⟨a, ha, -, sourceId, own, hsourceId, hown, hdescribe⟩ :=
    mem_sourceAttributes_iff.1 hattribute
  have hnode : x.node = d.ptr a := congrArg Description.node hdescribe
  have hparent := h.parent?_of_mem source a ha
  have homitted : d.omittedIds .sourceObjectAttributeReference x.node.node =
      d.containerIds source := by
    rw [hnode]
    show ((d.parent? a).map d.containerIds).getD [] = _
    rw [hparent]
    rfl
  rw [homitted]
  refine ⟨congrArg NodePtr.document hnode, _, ?_, Scope.shows_of_join hx [sourceId, own]
    ⟨x, hx, ?_, rfl⟩ fun y hy hsame => ?_⟩
  · rw [hnode]
    show d.localId? a = _
    rw [h.localId?_eq hparent hown, hsourceId]
    rfl
  · rw [hdescribe, Name.join_pair]
    rfl
  · obtain ⟨source', -, hattribute'⟩ := hsources y hy
    obtain ⟨a', ha', -, sourceId', own', hsourceId', hown', hdescribe'⟩ :=
      mem_sourceAttributes_iff.1 hattribute'
    obtain rfl : a' = a := by
      rw [hnode, hdescribe'] at hsame
      exact congrArg NodePtr.node hsame
    cases hparent.symm.trans (h.parent?_of_mem source' a' ha')
    cases hown.symm.trans hown'
    cases hsourceId.symm.trans hsourceId'
    exact ⟨[], [sourceId, own], by simp, rfl, by rw [hdescribe', Name.join_pair]; rfl⟩

end Resolver

namespace Snapshot.Current

/-- The tables of a document show every written node that they show under its Local ID, too. -/
theorem exists_localEntry {s : Snapshot} (h : s.Current Document.WellFormed) {id : DocumentId}
    {d : Document} (hd : s.workspace.get? id = some d) {tables : LocalTables}
    (htables : s.index.locals? id = some tables) {entry : NodeId × Description}
    (hentry : entry ∈ tables.entries) (hwritten : d.isDerived entry.2.node.node = false) :
    ∃ l, d.localId? entry.2.node.node = some l ∧
      (entry.1, { entry.2 with name := l, form := .localForm }) ∈ tables.entries := by
  obtain ⟨e, r, hok, -, -, hdocument, -, hlocals⟩ := h.of_get? hd
  have hgrown := (e.grownTo_builtWith r).congr hdocument
  obtain ⟨more, hmore, hnew⟩ := e.tables_builtWith r
  rw [hlocals, hmore] at htables
  cases htables
  have hold : entry ∈ ((e.prepare r.registry).localTables r.registry).entries := by
    refine (List.mem_append.1 hentry).resolve_right fun hentry => ?_
    obtain ⟨-, hle, -⟩ := hnew entry hentry
    rw [Document.isDerived, hgrown.parsedLen_eq, e.parsedLen_prepare _ hok.parsedLen_le] at hwritten
    exact absurd hle (by simpa using hwritten)
  obtain ⟨l, hl, hlocal⟩ := Document.exists_localEntry hold
  obtain ⟨own, hown, -⟩ := Option.map_eq_some_iff.1 hl
  exact ⟨l, (hgrown.localId? (Document.index_lt_of_ownId? hown)).trans hl,
    List.mem_append_left _ hlocal⟩

variable {s : Snapshot} (h : s.Current Document.WellFormed) {d t : Document}
  {n : NodeId} {target : NodeKind} {x : Description}
  (hd : s.workspace.get? d.id = some d)
  (hx : x ∈ (s.resolver.generalScope d n target).elements)
  (ht : s.workspace.get? x.node.document = some t)
include h hd hx ht

/-- A derived attribute is shown from a table of its own document. -/
theorem exists_copyEntry_of_mem_generalScope (hderived : t.isDerived x.node.node = true) :
    t = d ∧ ∃ tables, s.index.locals? d.id = some tables ∧ ∃ c ∈ n :: d.ancestors n,
      (c, x) ∈ tables.entries ∧ x.kind.isSubtypeOf target = true ∧
        ∃ own view, d.CopyEntry tables c x own view := by
  have hexported : x ∉ s.index.all := fun hall => by
    rw [h.isDerived_of_mem_all hall ht] at hderived
    cases hderived
  have hglobal : ∀ k, x ∉ s.index.globalScope k := fun k hk =>
    hexported (h.index.mem_globalScope_iff.1 hk).1
  rcases Resolver.mem_generalScope.1 hx with hlayer | hpackage | hdependency
  · obtain ⟨tables, htables, c, hc, hentry, hkind⟩ := Resolver.mem_containerLayers_iff.1 hlayer
    obtain ⟨e, he, hentries⟩ := h.of_locals? htables
    rw [(hentries _ hentry).1, hd] at ht
    cases ht
    exact ⟨rfl, tables, htables, c, hc, hentry, hkind, h.copyEntry hd htables hentry hderived⟩
  · exact absurd (Resolver.mem_packageScope.1 hpackage).1 (hglobal _)
  · exact absurd (Resolver.mem_dependencyScope.1 hdependency).1 (hglobal _)

/-- Of a derived attribute the identifiers around its view are left out. -/
theorem shows_of_isDerived (hroot : d.kind? .root = some .root)
    (hderived : t.isDerived x.node.node = true) :
    t = d ∧ ∃ name, d.localId? x.node.node = some name ∧
      ∃ view, d.parent? x.node.node = some view ∧
        (s.resolver.generalScope d n target).Shows x (d.containerIds view) name := by
  have htree := h.isTree hd
  obtain ⟨rfl, tables, htables, c, hc, hentry, hkind, own, view, hcopy⟩ :=
    h.exists_copyEntry_of_mem_generalScope hd hx ht hderived
  refine ⟨rfl, _, htree.localId?_eq hcopy.parent?_eq hcopy.ownId?_eq, view, hcopy.parent?_eq,
    Scope.shows_of_join hx _ ?_ fun y hy hsame => ?_⟩
  · rcases hcopy.name_eq with ⟨viewId, hviewId, -, hname⟩ | ⟨rfl, hname⟩
    · exact ⟨x, hx, by rw [hviewId, hname]; exact (Name.join_pair ..).symm, rfl⟩
    · cases hviewId : t.ownId? c with
      | none => exact ⟨x, hx, by rw [hname]; exact (Name.join_singleton _).symm, rfl⟩
      | some viewId =>
        -- The bare entry stands in the table of the view, so the table of the view's container
        -- is around the node too.
        obtain ⟨k, hk, hview⟩ := hcopy.view_kind
        have hne : k ≠ .root := by
          rintro rfl
          cases hview
        obtain ⟨container, hcontainer⟩ := htree.exists_parent_of_kind? hroot hk hne
        have hmem := htree.parent_mem_ancestors hc hcontainer
        refine ⟨_, Resolver.mem_generalScope.2 (Or.inl (Resolver.mem_containerLayers_iff.2
          ⟨tables, htables, container, List.mem_cons_of_mem _ hmem,
            hcopy.qualified_mem viewId container hviewId hcontainer, hkind⟩)), ?_, rfl⟩
        exact (Name.join_pair ..).symm
  · have hsame' : s.workspace.get? y.node.document = some t := hsame ▸ ht
    obtain ⟨-, tables', htables', c', -, hentry', -, own', view', hcopy'⟩ :=
      h.exists_copyEntry_of_mem_generalScope hd hy hsame' (hsame ▸ hderived)
    have hown := hcopy'.ownId?_eq
    have hparent := hcopy'.parent?_eq
    rw [hsame] at hown hparent
    cases hown.symm.trans hcopy.ownId?_eq
    cases hparent.symm.trans hcopy.parent?_eq
    rcases hcopy'.name_eq with ⟨viewId, hviewId, -, hname⟩ | ⟨-, hname⟩
    · exact ⟨[], [viewId, own], by simp, by rw [hviewId]; rfl, by rw [hname, Name.join_pair]⟩
    · exact ⟨(t.ownId? view).toList, [own], by simp, rfl, by rw [hname, Name.join_singleton]⟩

/-- A written node is shown under the name by which the document refers to it. -/
theorem exists_shown_of_written {viewer : DataModelId}
    (hviewer : s.registry.modelOf? d = some viewer) (htarget : target.isIdentified = true)
    (hkind : t.kind? x.node.node = some x.kind) (hwritten : t.isDerived x.node.node = false) :
    ∃ name, s.registry.referenceId? t x.node.node d true = some name ∧
      ∃ y ∈ (s.resolver.generalScope d n target).elements, y.name = name ∧ y.node = x.node := by
  have hptr : t.ptr x.node.node = x.node := by
    rw [Document.ptr, h.workspace.id_eq _ t ht]
  have hmodel : x ∈ s.index.all → s.registry.modelOf? t = x.dataModel := fun hall => by
    obtain ⟨e, he, -, hmodel⟩ := h.of_mem_all hall
    cases ht.symm.trans he
    exact hmodel.symm
  rcases Resolver.mem_generalScope.1 hx with hlayer | hpackage | hdependency
  · obtain ⟨tables, htables, c, hc, hentry, hsubtype⟩ := Resolver.mem_containerLayers_iff.1 hlayer
    obtain ⟨_, -, hentries⟩ := h.of_locals? htables
    rw [(hentries _ hentry).1, hd] at ht
    cases ht
    obtain ⟨l, hl, hlocal⟩ := h.exists_localEntry hd htables hentry hwritten
    refine ⟨l, ?_, _, Resolver.mem_generalScope.2 (Or.inl (Resolver.mem_containerLayers_iff.2
      ⟨tables, htables, c, hc, hlocal, hsubtype⟩)), rfl, rfl⟩
    rw [Registry.referenceId?_of_owned hviewer hviewer, if_pos rfl, hl]
  · obtain ⟨hglobal, hown⟩ := Resolver.mem_packageScope.1 hpackage
    obtain ⟨hall, hsubtype⟩ := h.index.mem_globalScope_iff.1 hglobal
    have howner : s.registry.modelOf? t = s.registry.modelOf? d := (hmodel hall).trans hown
    obtain ⟨l, -, hl, -, hlocal, -⟩ := h.mem_all_of_exported hall ht hkind
      (NodeKind.isIdentified_of_isSubtypeOf hsubtype htarget)
    have hshown := Resolver.mem_generalScope_of_package (r := s.resolver) h.index hlocal hsubtype
      howner n
    refine ⟨l, ?_, _, hshown, rfl, hptr⟩
    rw [Registry.referenceId?_of_owned hviewer (howner.trans hviewer), if_pos rfl, hl]
  · obtain ⟨hglobal, -, source, owner, hsource, hforeign, hne, hvisible⟩ :=
      Resolver.mem_dependencyScope.1 hdependency
    obtain ⟨hall, hsubtype⟩ := h.index.mem_globalScope_iff.1 hglobal
    cases hviewer.symm.trans hsource
    have howner : s.registry.modelOf? t = some owner := (hmodel hall).trans hforeign
    obtain ⟨-, g, -, hg, -, hglobal⟩ := h.mem_all_of_exported hall ht hkind
      (NodeKind.isIdentified_of_isSubtypeOf hsubtype htarget)
    have hshown := Resolver.mem_generalScope_of_dependency (r := s.resolver) h.index hglobal
      hsubtype rfl hviewer howner hne hvisible n
    refine ⟨g, ?_, _, hshown, rfl, hptr⟩
    rw [Registry.referenceId?_of_owned hviewer howner, if_neg hne]
    exact (if_pos hvisible).trans hg

end Snapshot.Current

namespace Snapshot

/-- Inside a mapping every node that is offered is given a name, and is shown under it but for the
identifiers that are left out. -/
theorem exists_shows {s : Snapshot} (h : s.Current Document.WellFormed)
    (hplain : s.Current fun d => d.asWritten.Plain) {ptr : NodePtr} {d : Document}
    (hd : s.workspace.get? ptr.document = some d) (hroot : d.kind? .root = some .root)
    {viewer : DataModelId} (hviewer : s.registry.modelOf? d = some viewer) {node : Node}
    (hnode : d.node? ptr.node = some node) {p : Property}
    (hsite : node.kind.mappingProperty? = some p) {i : Nat} {x : Description}
    (hx : x ∈ (s.scope (.ofNode ptr p i)).elements) :
    ∃ t name, s.workspace.get? x.node.document = some t ∧ s.referenceId? x.node ptr = some name ∧
      (s.scope (.ofNode ptr p i)).Shows x (t.omittedIds node.kind x.node.node) name := by
  have hid := h.workspace.id_eq _ d hd
  have hown : s.workspace.get? d.id = some d := hid ▸ hd
  obtain ⟨target, htarget⟩ := NodeKind.exists_referenceTarget?_of_mappingProperty? hsite
  obtain ⟨t, ht, hfits, -⟩ := hplain.fits_of_mem_scope_ofNode hx
  have hreference : s.referenceId? x.node ptr =
      s.registry.referenceId? t x.node.node d true := by
    simp only [referenceId?, ht, hd, Option.bind_some]
  have hlocal : t = d → s.referenceId? x.node ptr = d.localId? x.node.node := by
    rintro rfl
    rw [hreference, Registry.referenceId?_of_owned hviewer hviewer, if_pos rfl]
  have hsame : x.node.document = d.id → t = d := fun heq =>
    Option.some.inj (ht.symm.trans (heq ▸ hown))
  have hscope := scope_ofNode_eq_scopeOf hd hnode htarget i
  rcases NodeKind.cases_of_mappingProperty? hsite with hkind | hkind | hgeneral
  · have hsources : s.scope (.ofNode ptr p i) = s.resolver.sourceDependencyScope d ptr.node := by
      rw [hscope, hkind]
      rfl
    rw [hsources] at hx ⊢
    rw [hkind]
    obtain ⟨hdocument, name, hname, hshows⟩ := Resolver.shows_of_mem_sourceDependencyScope hx
    obtain rfl := hsame hdocument
    exact ⟨t, name, ht, (hlocal rfl).trans hname, hshows⟩
  · have hjoined : s.scope (.ofNode ptr p i) = s.resolver.joinAttributeScope d ptr.node := by
      rw [hscope, hkind]
      rfl
    rw [hjoined] at hx ⊢
    rw [hkind]
    obtain ⟨hdocument, name, hname, hshows⟩ :=
      Resolver.shows_of_mem_joinAttributeScope (h.isTree hd) hroot hx
    obtain rfl := hsame hdocument
    exact ⟨t, name, ht, (hlocal rfl).trans hname, hshows⟩
  · rw [scope_ofNode hd hnode hgeneral htarget] at hx ⊢
    refine ⟨t, ?_⟩
    rw [Document.omittedIds_of_seesGeneralScope t hgeneral]
    cases hderived : t.isDerived x.node.node with
    | true =>
      obtain ⟨rfl, name, hname, view, hview, hshows⟩ :=
        h.shows_of_isDerived hown hx ht hroot hderived
      refine ⟨name, ht, (hlocal rfl).trans hname, ?_⟩
      rw [hview]
      exact hshows
    | false =>
      obtain ⟨name, hname, hshown⟩ := h.exists_shown_of_written hown hx ht hviewer
        (NodeKind.isIdentified_of_referenceTarget? htarget) hfits.kind_eq hderived
      exact ⟨name, ht, hreference.trans hname, fun _ => hshown, fun hne => absurd rfl hne,
        fun hne => absurd rfl hne⟩

end Snapshot

end ModelBinding
