import ModelBinding.Proofs.General
import ModelBinding.Proofs.Lists
import ModelBinding.Proofs.Ownership
import ModelBinding.Proofs.Visibility
import ModelBinding.Proofs.WellFormed

/-!
# What a text means

In the general case a text means the first declaration of the right kind that bears it:
around the site, then in the site's data model, then in Global form in the data models
that it may refer to. Here this is said of the documents as their authors wrote them and
of the registry alone (`Registry.meaning?`), without index, container tables, layers or
anything remembered. Resolution agrees with it, whatever has been done to the host
(`resolveText_eq_meaning`).
-/

namespace ModelBinding

namespace Document

/-- The document as its author wrote it, under the number that the workspace gave it. -/
def source (d : Document) : Document := { d.asWritten with id := d.id }

/-- What a node with an identifier declares: its Local ID, and its Global ID if a data model owns
the document. -/
def declarations (d : Document) (r : Registry) (n : NodeId) : List Description :=
  match d.kind? n, d.localId? n with
  | some k, some l =>
    d.describe (r.modelOf? d) n k l .localForm ::
      ((r.globalId? d n).map fun g => d.describe (r.modelOf? d) n k g .globalForm).toList
  | _, _ => []

/-- What is declared directly inside a node, in order. -/
def declaredIn (d : Document) (r : Registry) (n : NodeId) : List Description :=
  (d.children n).flatMap (d.declarations r)

/-- What is declared directly inside a node and inside its containers, innermost first. -/
def declaredAround (d : Document) (r : Registry) (n : NodeId) : List Description :=
  (n :: d.ancestors n).flatMap (d.declaredIn r)

/-- What is declared anywhere in the document, in the order of the walk. -/
def declared (d : Document) (r : Registry) : List Description := d.walk.flatMap (d.declarations r)

end Document

namespace Registry

/-- What the documents of a data model declare. -/
def declaredBy (r : Registry) (ds : List Document) (m : DataModelId) : List Description :=
  (ds.filter (r.modelOf? · = some m)).flatMap (·.declared r)

/-- What the documents of the other data models that one may refer to declare in Global form. -/
def declaredFor (r : Registry) (ds : List Document) (m : DataModelId) : List Description :=
  (ds.filter fun d => (r.modelOf? d).any fun q => q ≠ m && r.isVisible m q true).flatMap fun d =>
    (d.declared r).filter (·.isGlobal)

/-- What a text means, as the name of a node of a kind, at a node of one of the documents. -/
def meaning? (r : Registry) (ds : List Document) (d : Document) (n : NodeId) (target : NodeKind)
    (text : String) : Option Description :=
  let bears : Description → Bool := fun e => e.kind.isSubtypeOf target && e.name = text
  ((d.declaredAround r n).find? bears).or <|
    (r.modelOf? d).bind fun m =>
      ((r.declaredBy ds m).find? bears).or ((r.declaredFor ds m).find? bears)

/-- The data model that owns a file has a reference name. -/
theorem exists_referenceName?_of_owner? {r : Registry} {uri : String} {m : DataModelId}
    (h : r.owner? uri = some m) : ∃ name, r.referenceName? m = some name := by
  obtain ⟨model, hmodel, rfl⟩ := Option.map_eq_some_iff.1 h
  have hmem : model ∈ r.models := (deepest_of_ownerModel? hmodel).mem
  have hget : (r.get? model.id).isSome := by
    rw [get?, List.find?_isSome]
    exact ⟨model, hmem, by simp⟩
  obtain ⟨found, hfound⟩ := Option.isSome_iff_exists.1 hget
  exact ⟨found.referenceName, by rw [referenceName?, hfound, Option.map_some]⟩

/-- In a document that a data model owns a node has the Global ID that the reference name of the
data model gives it. -/
theorem globalId?_of_modelOf? {r : Registry} {d : Document} {m : DataModelId} {name : String}
    (howner : r.modelOf? d = some m) (hname : r.referenceName? m = some name) (n : NodeId) :
    r.globalId? d n = d.qualifiedId? n name := by
  rw [globalId?, howner, Option.none_or, Option.bind_some, hname, Option.bind_some]

/-- In a document that a data model owns every node with a Local ID has a Global ID. -/
theorem exists_globalId? {r : Registry} {d : Document} {m : DataModelId}
    (howner : r.modelOf? d = some m) {n : NodeId} {k : NodeKind} (hk : d.kind? n = some k)
    {l : String} (hl : d.localId? n = some l) : ∃ g, r.globalId? d n = some g := by
  obtain ⟨name, hname⟩ := exists_referenceName?_of_owner? howner
  rw [globalId?_of_modelOf? howner hname, Document.qualifiedId?, hk, Option.bind_some, hl]
  split
  · exact ⟨_, rfl⟩
  · exact ⟨_, rfl⟩

end Registry

namespace Document

variable {d : Document} {r : Registry} {target : NodeKind}

/-- All that a node declares is of its kind. -/
theorem kind_of_mem_declarations {n : NodeId} {x : Description} (hx : x ∈ d.declarations r n) :
    d.kind? n = some x.kind := by
  unfold declarations at hx
  split at hx
  · rename_i k l hk hl
    rw [hk]
    rcases List.mem_cons.1 hx with rfl | hx
    · rfl
    · obtain ⟨g, -, rfl⟩ := Option.map_eq_some_iff.1 (Option.mem_toList.1 hx)
      rfl
  · cases hx

/-- All that a node contributes to the tables is of its kind. -/
theorem kind_of_mem_tableEntries {model : Option DataModelId} {n : NodeId}
    {entry : NodeId × Description} (h : entry ∈ d.tableEntries model n) :
    d.kind? n = some entry.2.kind := by
  unfold tableEntries at h
  split at h
  · rename_i node c l hnode _ _
    rw [kind?, hnode]
    rcases List.mem_cons.1 h with rfl | h
    · rfl
    · obtain ⟨g, -, rfl⟩ := Option.map_eq_some_iff.1 (Option.mem_toList.1 h)
      rfl
  · cases h

/-- All that a node exports is of its kind. -/
theorem kind_of_mem_exportEntries {model : Option DataModelId} {n : NodeId} {x : Description}
    (h : x ∈ d.exportEntries model n) : d.kind? n = some x.kind := by
  unfold exportEntries at h
  split at h
  · cases h
  · rename_i node hnode
    rw [kind?, hnode]
    split at h
    · rcases List.mem_cons.1 h with rfl | h
      · rfl
      · rw [List.mem_singleton.1 h]
        rfl
    · cases h

section Source

variable (d : Document) (r : Registry)

theorem kind?_source (n : NodeId) : d.source.kind? n = d.dropDerived.kind? n := d.kind?_asWritten n

theorem parent?_source (n : NodeId) : d.source.parent? n = d.dropDerived.parent? n :=
  d.parent?_asWritten n

theorem children_source (n : NodeId) : d.source.children n = d.dropDerived.children n :=
  d.children_asWritten n

theorem ownId?_source (n : NodeId) : d.source.ownId? n = d.dropDerived.ownId? n :=
  d.ownId?_asWritten n

/-- A document as it was written declares what it declares without the derived nodes. -/
theorem declarations_source (n : NodeId) :
    d.source.declarations r n = d.dropDerived.declarations r n := by
  have hlocal := localId?_congr d.parent?_source d.ownId?_source n
  have hglobal := globalId?_congr (e := d.source) (d := d.dropDerived) rfl d.kind?_source
    d.parent?_source d.ownId?_source r n
  rw [declarations, declarations, d.kind?_source, hlocal, hglobal]
  rfl

theorem declaredIn_source (n : NodeId) :
    d.source.declaredIn r n = d.dropDerived.declaredIn r n := by
  rw [declaredIn, declaredIn, d.children_source, funext (d.declarations_source r)]

theorem declared_source : d.source.declared r = d.dropDerived.declared r := by
  have hwalk : d.source.walk = d.dropDerived.walk := by
    refine descendants_congr (fun n => ?_) .root
    have hnode : d.source.node? n = (d.dropDerived.node? n).map (·.bare) := node?_bare _ n
    rw [hnode, Option.map_map]
    exact congrArg (Option.map · _) (funext fun m => m.children_bare)
  rw [declared, declared, hwalk, funext (d.declarations_source r)]

end Source

/-- Two lists of descriptions of one node hold the same of a kind if they are the same where the
node is of that kind. -/
theorem ofKind_congr_of_kind (k? : Option NodeKind) {l m : List Description}
    (hl : ∀ x ∈ l, k? = some x.kind) (hm : ∀ x ∈ m, k? = some x.kind)
    (h : ∀ k, k? = some k → k.isSubtypeOf target = true → l = m) :
    Description.ofKind target l = Description.ofKind target m := by
  by_cases hk : ∃ k, k? = some k ∧ k.isSubtypeOf target = true
  · obtain ⟨k, hk, hsubtype⟩ := hk
    rw [h k hk hsubtype]
  · have hnil : ∀ xs : List Description, (∀ x ∈ xs, k? = some x.kind) →
        Description.ofKind target xs = [] := fun xs hxs =>
      Index.ofKind_eq_nil fun x hx => by
        by_contra hne
        exact hk ⟨x.kind, hxs x hx, by simpa using hne⟩
    rw [hnil l hl, hnil m hm]

section Prepare

variable (d : Document) (r : Registry)

/-- A prepared document remembers what its nodes of identified kinds declare. -/
theorem declarations_prepare {n : NodeId} {node : Node} (hnode : (d.prepare r).node? n = some node)
    (hkind : node.kind.isIdentified = true) {l : String} (hl : (d.prepare r).localId? n = some l) :
    (d.prepare r).declarations r n =
      (d.prepare r).describe (r.modelOf? (d.prepare r)) n node.kind l .localForm ::
        (node.globalId.map fun g => (d.prepare r).describe (r.modelOf? (d.prepare r)) n node.kind g
          .globalForm).toList := by
  have hk : (d.prepare r).kind? n = some node.kind := by rw [kind?, hnode, Option.map_some]
  simp only [declarations, hk, hl, globalId_of_node?_prepare hnode hkind]

/-- A node of an identified kind stands in the table of its container with all that it declares. -/
theorem tableEntries_prepare {n : NodeId} {k : NodeKind} (hk : (d.prepare r).kind? n = some k)
    (hidentified : k.isIdentified = true) :
    (d.prepare r).tableEntries (r.modelOf? (d.prepare r)) n =
      ((d.prepare r).parent? n).toList.flatMap fun c =>
        ((d.prepare r).declarations r n).map fun x => (c, x) := by
  obtain ⟨node, hnode, rfl⟩ := Option.map_eq_some_iff.1 hk
  cases hl : (d.prepare r).localId? n with
  | none => cases hp : (d.prepare r).parent? n <;> simp [tableEntries, declarations, hnode, hp, hl]
  | some l =>
    rw [declarations_prepare d r hnode hidentified hl]
    cases hp : (d.prepare r).parent? n with
    | none => simp [tableEntries, hnode, hp]
    | some c => cases hg : node.globalId <;> simp [tableEntries, hnode, hp, hl, hg]

/-- In a document that a data model owns, a node of an identified kind exports all that it
declares. -/
theorem exportEntries_prepare {n : NodeId} {k : NodeKind} (hk : (d.prepare r).kind? n = some k)
    (hidentified : k.isIdentified = true) {m : DataModelId} (hm : r.modelOf? d = some m) :
    (d.prepare r).exportEntries (r.modelOf? (d.prepare r)) n = (d.prepare r).declarations r n := by
  have hkind := hk
  obtain ⟨node, hnode, rfl⟩ := Option.map_eq_some_iff.1 hk
  cases hl : (d.prepare r).localId? n with
  | none => cases hg : node.globalId <;> simp [exportEntries, declarations, hnode, hl, hg]
  | some l =>
    rw [declarations_prepare d r hnode hidentified hl]
    obtain ⟨g, hg⟩ := Registry.exists_globalId? (d := d.prepare r) hm hkind hl
    rw [← globalId_of_node?_prepare hnode hidentified] at hg
    simp [exportEntries, hnode, hl, hg]

end Prepare

/-- In the tables of a prepared document a node has what is declared directly inside it, as far as
nodes of identified kinds are concerned. -/
theorem ofKind_table_prepare (h : d.WellFormed) (htarget : target.isIdentified = true)
    (c : NodeId) :
    Description.ofKind target (((d.prepare r).localTables r).table c) =
      Description.ofKind target ((d.prepare r).declaredIn r c) := by
  have htree := h.isTree_prepare r
  have hwritten : (d.prepare r).walk.filter (fun n => !(d.prepare r).isDerived n) =
      (d.prepare r).walk := by
    refine List.filter_eq_self.2 fun n hn => ?_
    have hlt := htree.mem_walk_iff.1 hn
    simpa [isDerived, d.parsedLen_prepare r h.parsedLen_le] using hlt
  -- Each node contributes to the table of its parent, and the walk meets the children in order.
  have hentries : ∀ n, Description.ofKind target
      ((((d.prepare r).tableEntries (r.modelOf? (d.prepare r)) n).filter (·.1 = c)).map (·.2)) =
        if decide ((d.prepare r).parent? n = some c) then
          Description.ofKind target ((d.prepare r).declarations r n) else [] := by
    intro n
    refine (ofKind_congr_of_kind (m := if (d.prepare r).parent? n = some c then
      (d.prepare r).declarations r n else []) ((d.prepare r).kind? n) (fun x hx => ?_)
      (fun x hx => ?_) fun k hk hsubtype => ?_).trans ?_
    · obtain ⟨entry, hentry, rfl⟩ := List.mem_map.1 hx
      exact kind_of_mem_tableEntries (List.mem_filter.1 hentry).1
    · split at hx
      · exact kind_of_mem_declarations hx
      · cases hx
    · rw [tableEntries_prepare d r hk (NodeKind.isIdentified_of_isSubtypeOf hsubtype htarget)]
      cases (d.prepare r).parent? n with
      | none => rfl
      | some q => by_cases hq : q = c <;> simp [hq, List.filter_map, Function.comp_def]
    · by_cases hn : (d.prepare r).parent? n = some c <;> simp [hn, Description.ofKind]
  rw [LocalTables.table, localTables, hwritten, List.filter_flatMap, List.map_flatMap,
    Description.ofKind_flatMap, List.flatMap_congr fun n _ => hentries n, flatMap_ite_nil,
    htree.filter_walk_parent, ← Description.ofKind_flatMap]
  rfl

/-- A prepared document that a data model owns exports what it declares, as far as nodes of
identified kinds are concerned. -/
theorem ofKind_exports_prepare (htarget : target.isIdentified = true) {m : DataModelId}
    (hm : r.modelOf? d = some m) :
    Description.ofKind target ((d.prepare r).exports r) =
      Description.ofKind target ((d.prepare r).declared r) := by
  rw [exports, declared, Description.ofKind_flatMap, Description.ofKind_flatMap]
  refine List.flatMap_congr fun n _ => ?_
  exact ofKind_congr_of_kind ((d.prepare r).kind? n)
    (fun x hx => kind_of_mem_exportEntries hx) (fun x hx => kind_of_mem_declarations hx)
    fun k hk hsubtype =>
      exportEntries_prepare d r hk (NodeKind.isIdentified_of_isSubtypeOf hsubtype htarget) hm

/-- A prepared document that no data model owns exports no nodes of identified kinds. -/
theorem ofKind_exports_prepare_eq_nil (htarget : target.isIdentified = true)
    (hm : r.modelOf? d = none) : Description.ofKind target ((d.prepare r).exports r) = [] := by
  rw [exports, Description.ofKind_flatMap]
  refine List.flatMap_eq_nil_iff.2 fun n _ => ?_
  refine ofKind_congr_of_kind ((d.prepare r).kind? n)
    (fun x hx => kind_of_mem_exportEntries hx) (fun x (hx : x ∈ []) => by cases hx)
    fun k hk hsubtype => ?_
  obtain ⟨node, hnode, rfl⟩ := Option.map_eq_some_iff.1 hk
  have hglobal := globalId_of_node?_prepare hnode
    (NodeKind.isIdentified_of_isSubtypeOf hsubtype htarget)
  rw [Registry.globalId?_eq_none_of_modelOf?_eq_none (d := d.prepare r) hm] at hglobal
  simp [exportEntries, hnode, hglobal]

end Document

namespace Snapshot.Current

variable {s : Snapshot} (h : s.Current Document.WellFormed)
include h

/-- What the index holds for a document follows from the document as it was written. -/
theorem source_eq {id : DocumentId} {d : Document} (hd : s.workspace.get? id = some d) :
    ∃ e : Document, e.WellFormed ∧ (e.prepare s.registry).source = d.source ∧
      s.index.exportsOf id = (e.prepare s.registry).exports s.registry ∧
      ∃ more, s.index.locals? id =
          some (((e.prepare s.registry).localTables s.registry).append more) ∧
        ∀ entry ∈ more, entry.2.kind.isDerivedAttribute = true := by
  obtain ⟨e, r, hok, hid, hregistry, hdocument, hexports, hlocals⟩ := h.of_get? hd
  obtain ⟨more, hmore, hkinds⟩ := e.tables_builtWith r
  refine ⟨e, hok, ?_, hexports, more, ?_, fun entry hentry => (hkinds entry hentry).2.2.1⟩
  · have hwritten : (e.prepare s.registry).asWritten = d.asWritten := by
      rw [Document.asWritten_prepare, Document.asWritten_congr hdocument,
        e.asWritten_builtWith hok.parsedLen_le]
    have hid' : (e.prepare s.registry).id = d.id := hid.trans (h.workspace.id_eq id d hd).symm
    rw [Document.source, Document.source, hwritten, hid']
  · rw [hlocals, hmore, hregistry]

/-- A node of a kind that no derived attribute has is written. -/
theorem isDerived_eq_false_of_kind? {id : DocumentId} {d : Document}
    (hd : s.workspace.get? id = some d) {n : NodeId} {k : NodeKind} (hk : d.kind? n = some k)
    (hattribute : k.isDerivedAttribute = false) : d.isDerived n = false := by
  obtain ⟨e, hok, -, hgrown, -⟩ := h.grownTo_of_get? hd
  have hold := (hgrown.kind?_eq_some_iff hattribute n).1 hk
  rw [Document.isDerived, hgrown.parsedLen_eq, e.parsedLen_prepare _ hok.parsedLen_le]
  simpa using Document.index_lt_of_kind? hold

variable {target : NodeKind} (htarget : target.isIdentified = true)
include htarget

/-- Around a node of any document under the number of one that is there, the tables show what is
declared in the latter, of kinds that no derived attribute has. -/
theorem flatten_containerLayers_of_id (hattribute : target.isSubtypeOf .logicalAttribute = false)
    {id : DocumentId} {d : Document} (hd : s.workspace.get? id = some d) {e : Document}
    (he : e.id = id) (n : NodeId) :
    (s.resolver.containerLayers e n target).flatten =
      Description.ofKind target
        ((n :: e.ancestors n).flatMap (d.source.declaredIn s.registry)) := by
  obtain ⟨written, hok, hsource, -, more, htables, hkinds⟩ := h.source_eq hd
  have hlocals : s.resolver.index.locals? e.id =
      some (((written.prepare s.registry).localTables s.registry).append more) := by
    rw [he]
    exact htables
  have hmore : ∀ c, Description.ofKind target ((LocalTables.mk more).table c) = [] := by
    intro c
    refine Index.ofKind_eq_nil fun x hx => ?_
    obtain ⟨entry, hentry, rfl⟩ := List.mem_map.1 hx
    exact NodeKind.isSubtypeOf_eq_false_of_isDerivedAttribute
      (hkinds entry (List.mem_filter.1 hentry).1) hattribute
  rw [Resolver.containerLayers, hlocals, Description.ofKind_flatMap]
  simp only [List.flatten_filter_not_isEmpty]
  rw [← List.flatMap_def]
  refine List.flatMap_congr fun c _ => ?_
  rw [LocalTables.table_append, Description.ofKind_append, hmore, List.append_nil,
    Document.ofKind_table_prepare hok htarget, ← hsource, Document.declaredIn_source,
    Document.dropDerived_prepare]

/-- Around a written node the tables show what is declared there, of kinds that no derived
attribute has. -/
theorem flatten_containerLayers (hattribute : target.isSubtypeOf .logicalAttribute = false)
    {id : DocumentId} {d : Document} (hd : s.workspace.get? id = some d) {n : NodeId}
    (hn : d.isDerived n = false) :
    (s.resolver.containerLayers d n target).flatten =
      Description.ofKind target (d.source.declaredAround s.registry n) := by
  have hlt : n.index < d.parsedLen := by simpa [Document.isDerived] using hn
  have hancestors : d.ancestors n = d.source.ancestors n := by
    rw [Document.ancestors_congr d.parent?_source, Document.ancestors_dropDerived hlt]
  rw [h.flatten_containerLayers_of_id htarget hattribute hd (h.workspace.id_eq id d hd),
    Document.declaredAround, hancestors]

/-- What is exported of an identified kind is of some data model. -/
theorem dataModel_ne_none_of_mem_globalScope {x : Description}
    (hx : x ∈ s.resolver.index.globalScope target) : x.dataModel ≠ none := by
  obtain ⟨hx, hkind⟩ := h.index.mem_globalScope_iff.1 hx
  obtain ⟨d, hd, hexported, hmodel⟩ := h.of_mem_all hx
  intro hnone
  obtain ⟨e, -, hsource, hexports, -⟩ := h.source_eq hd
  have hmodel' : s.registry.modelOf? e = s.registry.modelOf? d :=
    (congrArg (fun d : Document => s.registry.modelOf? d) hsource :)
  have hnil := Document.ofKind_exports_prepare_eq_nil htarget
    (hmodel'.trans (hmodel.symm.trans hnone))
  rw [hexports] at hexported
  have hmem := Description.mem_ofKind.2 ⟨hexported, hkind⟩
  rw [hnil] at hmem
  cases hmem

/-- What is exported of a kind and chosen by data model and form is what the documents of these data
models declare, chosen by form. -/
theorem filter_globalScope {choose : Description → Bool} (keep : Option DataModelId → Bool)
    (form : Description → Bool) (hnone : keep none = false)
    (hchoose : ∀ x : Description, choose x = (keep x.dataModel && form x)) :
    (s.resolver.index.globalScope target).filter choose =
      Description.ofKind target
        (((s.workspace.list.map Document.source).filter fun d =>
          keep (s.registry.modelOf? d)).flatMap fun d => (d.declared s.registry).filter form) := by
  have hdocument : ∀ id d, s.workspace.get? id = some d →
      (Description.ofKind target (s.index.exportsOf id)).filter choose =
        if keep (s.registry.modelOf? d) then
          Description.ofKind target ((d.source.declared s.registry).filter form) else [] := by
    intro id d hd
    have hmodels : ∀ x ∈ Description.ofKind target (s.index.exportsOf id),
        choose x = (keep (s.registry.modelOf? d) && form x) := fun x hx => by
      rw [hchoose, (h.of_mem_exportsOf hd (Description.mem_ofKind.1 hx).1).2]
    obtain ⟨e, hok, hsource, hexports, -⟩ := h.source_eq hd
    rw [List.filter_congr hmodels]
    have hmodel : s.registry.modelOf? e = s.registry.modelOf? d :=
      (congrArg (fun d : Document => s.registry.modelOf? d) hsource :)
    cases hm : s.registry.modelOf? d with
    | none => simp [hnone]
    | some m =>
      rw [hm] at hmodel
      rw [hexports, Document.ofKind_exports_prepare htarget hmodel, ← hsource,
        Document.declared_source, Document.dropDerived_prepare]
      cases keep (some m) with
      | false => simp
      | true => simp [Description.ofKind, List.filter_filter, Bool.and_comm]
  have hglobal : s.resolver.index.globalScope target =
      s.workspace.ids.flatMap fun id => Description.ofKind target (s.index.exportsOf id) := by
    rw [← Description.ofKind_flatMap, ← h.all_eq]
    exact h.index.globalScope_eq target
  rw [hglobal, List.filter_flatMap, h.workspace.flatMap_ids hdocument, flatMap_ite_nil,
    Description.ofKind_flatMap, List.filter_map, List.flatMap_map]
  rfl

/-- What the package and the dependencies show is what the documents declare that a data model owns,
and that it may refer to. -/
theorem packageScope_append_dependencyScope (d : Document) :
    s.resolver.packageScope d target ++ s.resolver.dependencyScope d target =
      (s.registry.modelOf? d).elim [] fun m =>
        Description.ofKind target
            (s.registry.declaredBy (s.workspace.list.map Document.source) m) ++
          Description.ofKind target
            (s.registry.declaredFor (s.workspace.list.map Document.source) m) := by
  have hregistry : s.resolver.registry = s.registry := rfl
  cases hm : s.registry.modelOf? d with
  | none =>
    rw [Resolver.packageScope, Resolver.dependencyScope, hregistry, hm]
    have hpackage : (s.resolver.index.globalScope target).filter (·.dataModel = none) = [] :=
      List.filter_eq_nil_iff.2 fun x hx => by
        simpa using h.dataModel_ne_none_of_mem_globalScope htarget hx
    simp [hpackage]
  | some m =>
    rw [Resolver.packageScope, Resolver.dependencyScope, hregistry, hm]
    refine congrArg₂ (· ++ ·) ?_ ?_
    · rw [h.filter_globalScope htarget (· = some m) (fun _ => true) (by simp)
        (fun x => by simp), Registry.declaredBy]
      simp
    · exact h.filter_globalScope htarget
        (fun owner => owner.any fun q => q ≠ m && s.registry.isVisible m q true)
        (·.isGlobal) rfl (fun x => Bool.and_comm _ _)

end Snapshot.Current

namespace Session

/-- After any sound actions and a rebuild, a text means at a node of the general case what it means
by the documents as they were written and the registry, if the reference is not to attributes. -/
theorem resolveText_eq_meaning {s : Session} (hs : s.Reachable) {ptr : NodePtr} {d : Document}
    (hd : s.host.rebuild.workspace.get? ptr.document = some d) {node : Node}
    (hnode : d.node? ptr.node = some node) {p : Property}
    (hgeneral : node.kind.seesGeneralScope p = true) {target : NodeKind}
    (htarget : node.kind.referenceTarget? p = some target)
    (hattribute : target.isSubtypeOf .logicalAttribute = false) (i : Nat) (text : String) :
    s.host.rebuild.resolveText (.ofNode ptr p i) text =
      s.host.rebuild.registry.meaning? (s.host.rebuild.workspace.list.map Document.source) d.source
        ptr.node target text := by
  obtain ⟨registry, actions, hsound, rfl⟩ := hs
  have hcurrent := current_rebuild Document.lasting_wellFormed registry
    fun a ha => (hsound a ha).sets_wellFormed
  generalize ((start registry).run actions).host.rebuild.toSnapshot = t at hcurrent hd ⊢
  have hidentified := NodeKind.isIdentified_of_referenceTarget? htarget
  have hkind : d.kind? ptr.node = some node.kind := by rw [Document.kind?, hnode, Option.map_some]
  have hwritten := hcurrent.isDerived_eq_false_of_kind? hd hkind
    (NodeKind.isDerivedAttribute_eq_false_of_referenceTarget? htarget)
  have hmodel : t.registry.modelOf? d.source = t.registry.modelOf? d := rfl
  rw [Snapshot.resolveText, Snapshot.scope_ofNode hd hnode hgeneral htarget, Scope.lookup_eq_find?,
    Resolver.elements_generalScope,
    hcurrent.flatten_containerLayers hidentified hattribute hd hwritten,
    hcurrent.packageScope_append_dependencyScope hidentified, List.find?_append, Registry.meaning?,
    hmodel]
  cases t.registry.modelOf? d with
  | none => simp [Description.ofKind, List.find?_filter]
  | some m => simp [Description.ofKind, List.find?_filter, List.find?_append]

/-- What the relationship of the dependent data model refers to is told by what was written. -/
theorem resolveText_eq_meaning_dependent :
    ∃ d, dependent.host.rebuild.workspace.get? ⟨1⟩ = some d ∧
      (dependent.host.rebuild.registry.meaning?
        (dependent.host.rebuild.workspace.list.map Document.source) d.source ⟨1⟩ .logicalEntity
          "core.Party").map (·.node) = some ⟨⟨0⟩, ⟨1⟩⟩ := by
  have hsite : ((dependent.host.rebuild.workspace.get? ⟨1⟩).bind (·.node? ⟨1⟩)).map (·.kind) =
      some .relationship := by
    decide +kernel
  obtain ⟨node, hbind, hkind⟩ := Option.map_eq_some_iff.1 hsite
  obtain ⟨d, hd, hnode⟩ := Option.bind_eq_some_iff.1 hbind
  refine ⟨d, hd, ?_⟩
  rw [← @resolveText_eq_meaning _ reachable_dependent ⟨⟨1⟩, ⟨1⟩⟩ d hd node hnode
    .parent (by rw [hkind]; rfl) _ (by rw [hkind]; rfl) (by decide) 0]
  decide +kernel

end Session

end ModelBinding
