import ModelBinding.Analysis
import ModelBinding.Proofs.Built
import ModelBinding.Proofs.Visibility

/-!
# Isolation of data models

What is done to a document does not show in data models from which it is not visible:
setting it or taking it out leaves their scopes, derived attributes and container tables
as they are (`scope_eq_of_invisible`). The two snapshots, before and after, differ in what
they hold for one number (`Snapshot.DifferAt`), and whatever is held there belongs to
the data model of the document.
-/

namespace ModelBinding

variable {s t : Snapshot}

/-- Two snapshots with nothing out of date that hold the same for every number but one, and under
that one, if anything, documents at one address. -/
structure Snapshot.DifferAt (j : DocumentId) (uri : String) (s t : Snapshot) : Prop where
  /-- Nothing is out of date in the first snapshot. -/
  left : s.Current fun _ => True
  /-- Nothing is out of date in the second snapshot. -/
  right : t.Current fun _ => True
  /-- The data models are the same. -/
  registry : t.registry = s.registry
  /-- The other numbers are the same, in the same order. -/
  ids : t.workspace.ids.filter (· ≠ j) = s.workspace.ids.filter (· ≠ j)
  /-- For the other numbers the same is held. -/
  part : ∀ id, id ≠ j → (t.part id).reset = (s.part id).reset
  /-- The document of the number in the first snapshot is at the address. -/
  left_uri : ∀ d, s.workspace.get? j = some d → d.uri = uri
  /-- So is the one in the second snapshot. -/
  right_uri : ∀ d, t.workspace.get? j = some d → d.uri = uri

/-- The data model of the document that a site is in. -/
def Snapshot.siteModel? (s : Snapshot) (site : Site) : Option DataModelId :=
  match site.container with
  | .node ptr => (s.workspace.get? ptr.document).bind s.registry.modelOf?
  | .imagined c => s.registry.owner? c.uri

/-- Without other numbers a scope stays as it is. -/
theorem Scope.renumber_self (s : Scope) : s.renumber (fun i => i) = s := by
  simp [renumber, Description.renumber_self]

namespace Resolver

variable {r r' : Resolver} {d e : Document}

/-- Where the same is shown to a document, a node in it has the same scopes, or none for the same
reason, but for dependencies of data models. -/
theorem AlikeFor.scopeAt_eq (h : AlikeFor (fun i => i) r r' d e) {ptr : NodePtr}
    (hd : r.document? ptr.document = some d) (he : r'.document? ptr.document = some e)
    (hkind : ∀ node, d.node? ptr.node = some node → node.kind ≠ .dataModelDependency)
    (p : Property) : r'.scopeAt ptr p = r.scopeAt ptr p := by
  unfold scopeAt locate
  rw [hd, he]
  cases hnode : d.node? ptr.node with
  | none => simp only [hnode, h.document.node?_none hnode]
  | some node =>
    obtain ⟨node', hnode', heq⟩ := h.document.node?_some hnode
    have hsame : node'.kind = node.kind := congrArg (·.kind) heq
    simp only [hnode, hnode', hsame]
    cases node.kind.referenceTarget? p with
    | none => rfl
    | some target =>
      simp only [h.scopeOf (hkind node hnode), Scope.renumber_self]

end Resolver

namespace Document.Alike

variable {f : DocumentId → DocumentId} {d e : Document} (h : Document.Alike f d e)
include h

theorem findAnchor? (globalId : String) :
    Snapshot.findAnchor? e globalId = Snapshot.findAnchor? d globalId := by
  have hremembered : ∀ n, (e.node? n).bind (·.globalId) = (d.node? n).bind (·.globalId) := by
    intro n
    have hglobal := h.map_node? (·.globalId) (fun _ => rfl) (fun _ => rfl) n
    simpa only [Option.bind_map, Function.comp_def] using
      congrArg (Option.bind · fun g => g) hglobal
  simp only [Snapshot.findAnchor?, h.walk, hremembered]

/-- A chain of the same nodes keeps documents alike. -/
theorem hang (parent : NodeId) (nodes : List ImaginedNode) :
    Document.Alike f (Snapshot.hang d parent nodes).1 (Snapshot.hang e parent nodes).1 ∧
      (Snapshot.hang e parent nodes).2 = (Snapshot.hang d parent nodes).2 := by
  induction nodes generalizing d e parent with
  | nil => exact ⟨h, rfl⟩
  | cons n ns ih =>
    have hnode : (Snapshot.nodeOfImagined n).resetReferences =
        ((Snapshot.nodeOfImagined n).renumber f).resetReferences :=
      (Node.resetReferences_renumber rfl).symm
    simp only [Snapshot.hang, h.nextNode]
    exact ih (h.push parent hnode) d.nextNode

end Document.Alike

namespace Snapshot.DifferAt

variable {j : DocumentId} {uri : String} (H : DifferAt j uri s t)
include H

theorem symm : DifferAt j uri t s where
  left := H.right
  right := H.left
  registry := H.registry.symm
  ids := H.ids.symm
  part := fun id hid => (H.part id hid).symm
  left_uri := H.right_uri
  right_uri := H.left_uri

/-- The documents of other numbers differ in what references remember. -/
theorem document {id : DocumentId} (hid : id ≠ j) :
    (t.workspace.get? id).map (·.resetReferences) =
      (s.workspace.get? id).map (·.resetReferences) :=
  congrArg Part.document (H.part id hid)

/-- The document of another number in the second snapshot. -/
theorem exists_document {id : DocumentId} (hid : id ≠ j) {d : Document}
    (hd : s.workspace.get? id = some d) :
    ∃ e, t.workspace.get? id = some e ∧ e.resetReferences = d.resetReferences := by
  have hdocument := H.document hid
  rw [hd, Option.map_some] at hdocument
  exact Option.map_eq_some_iff.1 hdocument

/-- The container tables of other numbers are the same. -/
theorem locals {id : DocumentId} (hid : id ≠ j) : t.index.locals? id = s.index.locals? id :=
  congrArg Part.tables (H.part id hid)

/-- The exports of other numbers are the same. -/
theorem exportsOf {id : DocumentId} (hid : id ≠ j) :
    t.index.exportsOf id = s.index.exportsOf id := by
  have hexports : t.index.exports.get? id = s.index.exports.get? id :=
    congrArg Part.exports (H.part id hid)
  rw [Index.exportsOf, Index.exportsOf, hexports]

/-- A document at another address has another number. -/
theorem ne_of_uri {id : DocumentId} {d : Document} (hd : s.workspace.get? id = some d)
    (huri : d.uri ≠ uri) : id ≠ j := by
  rintro rfl
  exact huri (H.left_uri d hd)

/-- At other addresses are the same documents, but for what references remember. -/
theorem exists_at? {u : String} (hu : u ≠ uri) {d : Document} (hd : s.workspace.at? u = some d) :
    ∃ e, t.workspace.at? u = some e ∧ e.resetReferences = d.resetReferences := by
  obtain ⟨hget, rfl⟩ := H.left.workspace.at?_eq_some_iff.1 hd
  obtain ⟨e, he, heq⟩ := H.exists_document (H.ne_of_uri hget hu) hget
  have huri : e.uri = d.uri := (congrArg Document.uri heq :)
  exact ⟨e, huri ▸ H.right.workspace.at?_of_get? he, heq⟩

/-- What the number exports is of the data model that owns the address. -/
theorem dataModel_of_mem_exportsOf {x : Description} (hx : x ∈ s.index.exportsOf j) :
    x.dataModel = s.registry.owner? uri := by
  by_cases hj : j ∈ s.workspace.ids
  · obtain ⟨d, hd⟩ := Workspace.exists_get?_of_mem_ids hj
    rw [(H.left.of_mem_exportsOf hd hx).2, Registry.modelOf?, H.left_uri d hd]
  · have hnone : s.index.exports.get? j = none := by
      rw [Keyed.get?_eq_none_iff, H.left.exports_keys]
      exact hj
    rw [Index.exportsOf, hnone] at hx
    cases hx

/-- What disregards the data model that owns the address sees the same exports, in the same
order. -/
theorem filter_all {keep : Description → Bool}
    (hkeep : ∀ x, x.dataModel = s.registry.owner? uri → keep x = false) :
    t.index.all.filter keep = s.index.all.filter keep := by
  have hothers : ∀ {s t : Snapshot}, DifferAt j uri s t →
      (∀ x, x.dataModel = s.registry.owner? uri → keep x = false) →
      s.index.all.filter keep =
        (s.workspace.ids.filter (· ≠ j)).flatMap fun id => (s.index.exportsOf id).filter keep := by
    intro s t H hkeep
    rw [H.left.all_eq, List.filter_flatMap]
    induction s.workspace.ids with
    | nil => rfl
    | cons id ids ih =>
      by_cases hid : id = j
      · subst hid
        have hnil : (s.index.exportsOf id).filter keep = [] :=
          List.filter_eq_nil_iff.2 fun x hx => by
            simp [hkeep x (H.dataModel_of_mem_exportsOf hx)]
        rw [List.flatMap_cons, hnil, List.nil_append, ih, List.filter_cons_of_neg (by simp)]
      · rw [List.flatMap_cons, ih, List.filter_cons_of_pos (by simpa using hid), List.flatMap_cons]
  rw [hothers H.symm (H.registry ▸ hkeep), hothers H hkeep, H.ids]
  refine List.flatMap_congr fun id hid => ?_
  rw [H.exportsOf (by simpa using (List.mem_filter.1 hid).2)]

/-- What is exported and not of the data model that owns the address is of another number. -/
theorem ne_of_mem_all {x : Description} (hx : x ∈ s.index.all)
    (hmodel : x.dataModel ≠ s.registry.owner? uri) : x.node.document ≠ j := by
  intro heq
  obtain ⟨d, hd, -, hown⟩ := H.left.of_mem_all hx
  rw [heq] at hd
  rw [hown, Registry.modelOf?, H.left_uri d hd] at hmodel
  exact hmodel rfl

/-- In documents of other numbers nodes have the same parents. -/
theorem bind_parent? {id : DocumentId} (hid : id ≠ j) (m : NodeId) :
    (t.workspace.get? id).bind (·.parent? m) = (s.workspace.get? id).bind (·.parent? m) := by
  cases hd : s.workspace.get? id with
  | some d =>
    obtain ⟨e, he, heq⟩ := H.exists_document hid hd
    rw [he]
    exact (Document.alike_of_resetReferences_eq heq).parent? m
  | none =>
    have hdocument := H.document hid
    rw [hd] at hdocument
    rw [Option.map_eq_none_iff.1 hdocument]

/-- With documents put on top that differ in what references remember, the parents of nodes of
documents of other numbers are the same. -/
theorem bind_parent?_overlay {d e : Document} (halike : Document.Alike (fun i => i) d e)
    {id : DocumentId} (hid : id ≠ j) (m : NodeId) :
    ((t.resolver.overlay e).document? id).bind (·.parent? m) =
      ((s.resolver.overlay d).document? id).bind (·.parent? m) := by
  have hother : ∀ (r : Resolver) (f : Document), id ≠ f.id →
      (r.overlay f).document? id = r.document? id := fun r f hne => if_neg hne
  have hnumber : e.id = d.id := halike.id
  by_cases heq : id = d.id
  · subst heq
    rw [Resolver.overlay_document?_self, ← hnumber, Resolver.overlay_document?_self]
    exact halike.parent? m
  · rw [hother _ _ heq, hother _ _ (hnumber.symm ▸ heq)]
    exact H.bind_parent? hid m

/-- Chains at other addresses hang in the same documents at the same nodes, or in none for the same
reason. -/
theorem rel_base {c : ImaginedChain} (hc : c.uri ≠ uri) :
    (∀ err, s.base c = .error err → t.base c = .error err) ∧
      ∀ b, s.base c = .ok b →
        ∃ e, t.base c = .ok (e, b.2) ∧ Document.Alike (fun i => i) b.1 e := by
  cases hd : s.workspace.at? c.uri with
  | some d =>
    obtain ⟨e, he, heq⟩ := H.exists_at? hc hd
    have halike := Document.alike_of_resetReferences_eq heq
    simp only [base, hd, he]
    cases c.anchor with
    | none =>
      refine ⟨fun err herr => (by cases herr), fun b hb => ?_⟩
      cases hb
      exact ⟨e, rfl, halike⟩
    | some globalId =>
      simp only [halike.findAnchor?]
      cases findAnchor? d globalId with
      | none => exact ⟨fun err herr => herr, fun b hb => (by cases hb)⟩
      | some n =>
        refine ⟨fun err herr => (by cases herr), fun b hb => ?_⟩
        cases hb
        exact ⟨e, rfl, halike⟩
  | none =>
    have he : t.workspace.at? c.uri = none := by
      cases he : t.workspace.at? c.uri with
      | none => rfl
      | some e =>
        obtain ⟨d, hd', -⟩ := H.symm.exists_at? hc he
        rw [hd] at hd'
        cases hd'
    simp only [base, hd, he]
    refine ⟨fun err herr => herr, fun b hb => ⟨b.1, hb, ?_⟩⟩
    exact Document.alike_of_resetReferences_eq rfl

/-- The document of a chain is at the address of the chain. -/
theorem uri_of_base {c : ImaginedChain} {b : Document × NodeId} (hbase : s.base c = .ok b) :
    b.1.uri = c.uri := by
  rcases of_base hbase with ⟨hat, -⟩ | ⟨-, -, -, hblank⟩
  · obtain ⟨id, hid, hget⟩ := Option.bind_eq_some_iff.1 hat
    obtain ⟨d, hd, huri, -⟩ := H.left.workspace.exists_of_idOf? hid
    rw [hget] at hd
    rw [Option.some.inj hd, huri]
  · rw [hblank]
    rfl

/-- The document of a chain at another address has another number. -/
theorem id_ne_of_base {c : ImaginedChain} (hc : c.uri ≠ uri)
    (hassigned : c.unsaved = true → j ≠ .unassigned) {b : Document × NodeId}
    (hbase : s.base c = .ok b) : b.1.id ≠ j := by
  rcases of_base hbase with ⟨hat, -⟩ | ⟨-, hunsaved, -, hblank⟩
  · obtain ⟨id, -, hget⟩ := Option.bind_eq_some_iff.1 hat
    rw [H.left.workspace.id_eq id b.1 hget]
    exact H.ne_of_uri hget ((H.uri_of_base hbase).symm ▸ hc)
  · rw [hblank]
    exact (hassigned hunsaved).symm

variable {viewer : DataModelId}
  (hinvisible : ∀ m, s.registry.owner? uri = some m → s.registry.isVisible viewer m true = false)
include hinvisible

omit H in
/-- A data model does not own an address that is not visible from it. -/
theorem owner?_ne : s.registry.owner? uri ≠ some viewer := by
  intro howner
  have hself := hinvisible viewer howner
  rw [Registry.isVisible_self] at hself
  cases hself

/-- The general scope of a document of another number shows documents of other numbers only. -/
theorem ne_of_mem_generalScope {r : Resolver} (hindex : r.index = s.index)
    (hregistry : r.registry = s.registry) {d : Document}
    (hmodel : s.registry.modelOf? d = some viewer) (hid : d.id ≠ j) {n : NodeId} {k : NodeKind}
    {x : Description} (hx : x ∈ (r.generalScope d n k).elements) : x.node.document ≠ j := by
  have hglobal : ∀ k, r.index.globalScope k = Description.ofKind k s.index.all := by
    intro k
    rw [hindex, H.left.index.globalScope_eq]
  rcases Resolver.mem_generalScope.1 hx with ⟨layer, hlayer, hx⟩ | hx | hx
  · obtain ⟨tables, htables, entry, hentry, rfl⟩ :=
      Resolver.exists_entry_of_mem_containerLayers hlayer hx
    rw [hindex] at htables
    obtain ⟨_, -, hentries⟩ := H.left.of_locals? htables
    rw [(hentries entry hentry).1]
    exact hid
  · obtain ⟨hx, hown⟩ := Resolver.mem_packageScope.1 hx
    rw [hglobal] at hx
    refine H.ne_of_mem_all (Description.mem_ofKind.1 hx).1 ?_
    rw [hown, hregistry, hmodel]
    exact (owner?_ne hinvisible).symm
  · obtain ⟨hx, -, source, m, hsource, hown, -, hvisible⟩ := Resolver.mem_dependencyScope.1 hx
    rw [hglobal] at hx
    refine H.ne_of_mem_all (Description.mem_ofKind.1 hx).1 fun howner => ?_
    rw [hregistry, hmodel, Option.some.injEq] at hsource
    rw [hregistry, ← hsource, hinvisible m (howner.symm.trans hown)] at hvisible
    cases hvisible

/-- To a document of a data model from which the address is not visible the snapshots show the
same. -/
theorem alikeFor (r r' : Resolver) (hindex : r.index = s.index)
    (hregistry : r.registry = s.registry) (hindex' : r'.index = t.index)
    (hregistry' : r'.registry = t.registry) {d e : Document}
    (halike : Document.Alike (fun i => i) d e) (hmodel : s.registry.modelOf? d = some viewer)
    (hid : d.id ≠ j) (hparents : ∀ id, id ≠ j → ∀ m,
      (r'.document? id).bind (·.parent? m) = (r.document? id).bind (·.parent? m)) :
    Resolver.AlikeFor (fun i => i) r r' d e := by
  have hself : (fun x : Description => x.renumber fun i => i) = fun x => x := rfl
  have hmodel' : t.registry.modelOf? e = some viewer := by
    rw [halike.modelOf?, H.registry, hmodel]
  have hglobal : ∀ k, r.index.globalScope k = s.index.all.filter (·.kind.isSubtypeOf k) := by
    intro k
    rw [hindex, H.left.index.globalScope_eq]
    rfl
  have hglobal' : ∀ k, r'.index.globalScope k = t.index.all.filter (·.kind.isSubtypeOf k) := by
    intro k
    rw [hindex', H.right.index.globalScope_eq]
    rfl
  refine ⟨fun _ _ h => h, ?_, halike, ?_, fun k => ?_, fun k => ?_, fun n k x hx => ?_⟩
  · rw [hregistry, hregistry', H.registry]
  · have htables : (fun t : LocalTables => t.renumber fun i => i) = fun t => t :=
      funext LocalTables.renumber_self
    rw [hindex, hindex', halike.id, H.locals hid, htables, Option.map_id']
  · rw [hself, List.map_id', Resolver.packageScope, Resolver.packageScope, hregistry, hregistry',
      hmodel, hmodel', hglobal, hglobal', List.filter_filter, List.filter_filter]
    refine H.filter_all fun x hx => ?_
    simp [hx, owner?_ne hinvisible]
  · have hsame : r'.isDependency viewer = r.isDependency viewer := by
      funext x
      rw [Resolver.isDependency, Resolver.isDependency, hregistry, hregistry', H.registry]
    rw [hself, List.map_id', Resolver.dependencyScope, Resolver.dependencyScope, hregistry,
      hregistry', hmodel, hmodel']
    simp only [hsame, hglobal, hglobal', List.filter_filter]
    refine H.filter_all fun x hx => ?_
    rw [Resolver.isDependency, hx, hregistry]
    cases howner : s.registry.owner? uri with
    | none => simp
    | some m => simp [hinvisible m howner]
  · exact hparents _ (H.ne_of_mem_generalScope hinvisible hindex hregistry hmodel hid hx)

/-- A node in a document of a data model from which the address is not visible has the same scopes
in both snapshots, but for dependencies of data models. -/
theorem scopeAt_eq {ptr : NodePtr} {d : Document} (hd : s.workspace.get? ptr.document = some d)
    (hmodel : s.registry.modelOf? d = some viewer)
    (hkind : ∀ node, d.node? ptr.node = some node → node.kind ≠ .dataModelDependency)
    (p : Property) : t.resolver.scopeAt ptr p = s.resolver.scopeAt ptr p := by
  have huri : d.uri ≠ uri := by
    rintro rfl
    exact owner?_ne hinvisible hmodel
  have hne := H.ne_of_uri hd huri
  obtain ⟨e, he, heq⟩ := H.exists_document hne hd
  have hid : d.id ≠ j := by
    rw [H.left.workspace.id_eq _ d hd]
    exact hne
  have hfor := H.alikeFor hinvisible s.resolver t.resolver rfl rfl rfl rfl
    (Document.alike_of_resetReferences_eq heq) hmodel hid fun id hid m => H.bind_parent? hid m
  exact hfor.scopeAt_eq hd he hkind p

/-- So has the node at the end of a chain in such a document, or it has none for the same reason. -/
theorem scope?_imagined_eq {c : ImaginedChain} (hmodel : s.registry.owner? c.uri = some viewer)
    (hassigned : c.unsaved = true → j ≠ .unassigned) (p : Property) (i : Nat)
    (hkind : ∀ d node, s.siteAt? ⟨.imagined c, p, i⟩ = some (d, node) →
      node.kind ≠ .dataModelDependency) :
    t.scope? ⟨.imagined c, p, i⟩ = s.scope? ⟨.imagined c, p, i⟩ := by
  have hc : c.uri ≠ uri := by
    rintro heq
    rw [heq] at hmodel
    exact owner?_ne hinvisible hmodel
  obtain ⟨herror, hok⟩ := H.rel_base hc
  cases hbase : s.base c with
  | error err =>
    simp only [scope?, place, materialize, hbase, herror err hbase, Except.map]
  | ok b =>
    obtain ⟨e, hbase', halike⟩ := hok b hbase
    obtain ⟨hhang, hlast⟩ := halike.hang b.2 c.nodes
    obtain ⟨hid, huri⟩ := id_uri_hang b.1 b.2 c.nodes
    have hplaced := siteAt?_imagined hbase p i
    simp only [scope?, place, materialize, hbase, hbase', Except.map, Document.ptr, hlast]
    generalize hang b.1 b.2 c.nodes = grown at *
    generalize hang e b.2 c.nodes = grown' at *
    have hid' : grown'.1.id = grown.1.id := hhang.id
    have hself := Resolver.overlay_document?_self t.resolver grown'.1
    rw [hid'] at hself ⊢
    have hmodel' : s.registry.modelOf? grown.1 = some viewer := by
      rw [Registry.modelOf?, huri, H.uri_of_base hbase]
      exact hmodel
    have hne : grown.1.id ≠ j := by
      rw [hid]
      exact H.id_ne_of_base hc hassigned hbase
    have hfor := H.alikeFor hinvisible (s.resolver.overlay grown.1) (t.resolver.overlay grown'.1)
      rfl rfl rfl rfl hhang hmodel' hne fun _ hj m => H.bind_parent?_overlay hhang hj m
    refine hfor.scopeAt_eq (Resolver.overlay_document?_self _ _) hself
      (fun node hnode => hkind grown.1 node ?_) p
    rw [hplaced, hnode]
    rfl

/-- At a site in a document of a data model from which the address is not visible the snapshots have
the same scope, or none for the same reason, but for dependencies of data models. -/
theorem scope?_eq {site : Site} (hmodel : s.siteModel? site = some viewer)
    (hkind : ∀ d node, s.siteAt? site = some (d, node) → node.kind ≠ .dataModelDependency)
    (hassigned : ∀ c, site.container = .imagined c → c.unsaved = true → j ≠ .unassigned) :
    t.scope? site = s.scope? site := by
  obtain ⟨container, p, i⟩ := site
  cases container with
  | node ptr =>
    obtain ⟨d, hd, hmodel⟩ := Option.bind_eq_some_iff.1 hmodel
    refine H.scopeAt_eq hinvisible hd hmodel (fun node hnode => hkind d node ?_) p
    simp [siteAt?, place, Resolver.locate, resolver, hd, hnode]
  | imagined c => exact H.scope?_imagined_eq hinvisible hmodel (hassigned c rfl) p i hkind

end Snapshot.DifferAt

namespace Host

variable {h : Host} (hh : h.Consistent) (hclean : h.isDirty = false)
  (hleft : h.toSnapshot.Current fun _ => True)
include hh hclean hleft

/-- Setting a document on a host with nothing out of date, and a rebuild, change what is held for
its number. -/
theorem differAt_setDocument (d : Document)
    (hright : (h.setDocument d).2.rebuild.toSnapshot.Current fun _ => True) :
    Snapshot.DifferAt (h.workspace.insert d).1 d.uri h.toSnapshot
      (h.setDocument d).2.rebuild.toSnapshot := by
  have hsnapshot := toSnapshot_setDocument h d
  have hworkspace : (h.setDocument d).2.workspace = (h.workspace.insert d).2 :=
    congrArg Snapshot.workspace hsnapshot
  obtain ⟨hids, hbyUri, -, hregistry⟩ := (h.setDocument d).2.frame_rebuild
  refine ⟨hleft, hright, ?_, ?_, fun id hid => ?_, fun e he => ?_, fun e he => ?_⟩
  · exact hregistry.trans (congrArg Snapshot.registry hsnapshot :)
  · rw [hids, hworkspace, Workspace.ids_insert]
    split
    · rfl
    · simp [List.filter_append]
  · have hdirty : id ∉ (h.setDocument d).2.dirty := by
      rw [mem_dirty_setDocument, (dirty_of_not_isDirty hclean).1]
      simpa using hid
    rw [part_rebuild_of_notMem (hh.setDocument d) hdirty, part_setDocument h d hid]
  · cases hid : h.workspace.idOf? d.uri with
    | some id =>
      obtain ⟨old, hold, huri, -⟩ := hh.workspace.exists_of_idOf? hid
      rw [Workspace.insert_of_idOf? hid, hold] at he
      rw [← Option.some.inj he, huri]
    | none =>
      rw [Workspace.insert_of_idOf?_eq_none hid] at he
      exact absurd (Workspace.mem_ids_of_get? he) hh.workspace.nextId_notMem
  · have hid : (h.setDocument d).2.rebuild.workspace.idOf? d.uri =
        some (h.workspace.insert d).1 := by
      rw [Workspace.idOf?, hbyUri, hworkspace]
      exact Workspace.idOf?_insert h.workspace d
    obtain ⟨new, hnew, huri, -⟩ := hright.workspace.exists_of_idOf? hid
    rw [hnew] at he
    rw [← Option.some.inj he, huri]

/-- Taking out a document of a host with nothing out of date, and a rebuild, change what is held for
its number. -/
theorem differAt_removeDocument {uri : String} {j : DocumentId}
    (hj : h.workspace.idOf? uri = some j)
    (hright : (h.removeDocument uri).2.rebuild.toSnapshot.Current fun _ => True) :
    Snapshot.DifferAt j uri h.toSnapshot (h.removeDocument uri).2.rebuild.toSnapshot := by
  obtain ⟨d, hd, huri, heq⟩ := hh.workspace.exists_of_idOf? hj
  have hremove := removeDocument_of_idOf? hj hd heq
  obtain ⟨hids, -, -, hregistry⟩ := (h.removeDocument uri).2.frame_rebuild
  have hids' : (h.removeDocument uri).2.rebuild.workspace.ids = h.workspace.ids.filter (· ≠ j) := by
    rw [hids, hremove, ids_remove hj]
  refine ⟨hleft, hright, ?_, ?_, fun id hid => ?_, fun e he => ?_, fun e he => ?_⟩
  · rw [hregistry, hremove]
  · rw [hids', List.filter_filter]
    simp
  · have hdirty : id ∉ (h.removeDocument uri).2.dirty := by
      simp [hremove, (dirty_of_not_isDirty hclean).1]
    rw [part_rebuild_of_notMem (hh.removeDocument uri) hdirty, part_removeDocument hj hd heq hid]
  · rw [hd] at he
    rw [← Option.some.inj he, huri]
  · have hmem := Workspace.mem_ids_of_get? he
    rw [hids'] at hmem
    simp at hmem

end Host

namespace Session

/-- An action that sets, puts back or takes out the document at an address. -/
inductive EditsAt (s : Session) (uri : String) : Action → Prop where
  /-- A document is set there. -/
  | set (d : Document) (huri : d.uri = uri) : EditsAt s uri (.set d)
  /-- A document that was taken out is put back there. -/
  | restore (turn : Nat) (d : Document) (hd : s.removed[turn]? = some d) (huri : d.uri = uri) :
    EditsAt s uri (.restore turn)
  /-- The document there is taken out. -/
  | remove : EditsAt s uri (.remove uri)

/-- On a host with nothing out of date an edit at an address, and a rebuild, change nothing or what
is held for one number, that has been given out. -/
theorem differAt_step (registry : Registry) (actions : List Action) {s : Session}
    (hs : s = (start registry).run actions) (hclean : s.host.isDirty = false) {uri : String}
    {a : Action} (ha : s.EditsAt uri a) :
    (s.step a).host.rebuild.toSnapshot = s.host.toSnapshot ∨
      ∃ j : DocumentId, j.index < (s.step a).host.rebuild.workspace.nextId ∧
        Snapshot.DifferAt j uri s.host.toSnapshot (s.step a).host.rebuild.toSnapshot := by
  have hc : s.host.Consistent := hs ▸ consistent_run registry actions
  have hleft : s.host.toSnapshot.Current fun _ => True := by
    have hcurrent := current_rebuild_of_run registry actions
    rw [← hs, Host.rebuild_of_not_isDirty hclean] at hcurrent
    exact hcurrent
  have hright : (s.step a).host.rebuild.toSnapshot.Current fun _ => True := by
    have hcurrent := current_rebuild_of_run registry (actions ++ [a])
    rw [run_append, ← hs] at hcurrent
    exact hcurrent
  have hset : ∀ d : Document, d.uri = uri → s.step a = s.withHost (s.host.setDocument d).2 →
      ∃ j : DocumentId, j.index < (s.step a).host.rebuild.workspace.nextId ∧
        Snapshot.DifferAt j uri s.host.toSnapshot (s.step a).host.rebuild.toSnapshot := by
    rintro d rfl hstep
    rw [hstep] at hright ⊢
    have hmem : (s.host.workspace.insert d).1 ∈
        (s.host.setDocument d).2.rebuild.workspace.ids := by
      rw [(s.host.setDocument d).2.frame_rebuild.1, Host.toSnapshot_setDocument]
      exact Workspace.mem_ids_of_get? (Workspace.get?_insert _ d)
    exact ⟨_, hright.workspace.lt_nextId _ hmem,
      s.host.differAt_setDocument hc hclean hleft d hright⟩
  cases ha with
  | set d huri => exact Or.inr (hset d huri rfl)
  | restore turn d hd huri => exact Or.inr (hset d huri (by simp only [step, hd]))
  | remove =>
    cases hid : s.host.workspace.idOf? uri with
    | none =>
      left
      simp only [step, Host.removeDocument_of_idOf?_eq_none hid]
      rw [Host.rebuild_of_not_isDirty hclean]
    | some j =>
      obtain ⟨d, hd, -, heq⟩ := hc.workspace.exists_of_idOf? hid
      have hnext : (s.step (.remove uri)).host.rebuild.workspace.nextId =
          s.host.workspace.nextId := by
        rw [(s.step (.remove uri)).host.frame_rebuild.2.2.1]
        simp only [step, Host.removeDocument_of_idOf? hid hd heq, Workspace.remove, hid]
      refine Or.inr ⟨j, ?_, s.host.differAt_removeDocument hc hclean hleft hid hright⟩
      rw [hnext]
      exact hc.workspace.lt_nextId j (Workspace.mem_ids_of_get? hd)

/-- On a host with nothing out of date, an edit at an address that no data model owns or one that is
not visible from `viewer` leaves every scope in the documents of `viewer` as it is, but for
dependencies of data models, and changes neither the derived attributes of these documents nor their
container tables. For a chain in an unsaved document the number of unsaved documents, the last one,
must not have been given out. -/
theorem scope_eq_of_invisible (registry : Registry) (actions : List Action) {s : Session}
    (hs : s = (start registry).run actions) (hclean : s.host.isDirty = false) {uri : String}
    {a : Action} (ha : s.EditsAt uri a) {viewer : DataModelId}
    (hinvisible : ∀ m, s.host.registry.owner? uri = some m →
      m ≠ viewer ∧ s.host.registry.isVisible viewer m true = false) :
    (∀ site, s.host.siteModel? site = some viewer →
        (∀ d node, s.host.siteAt? site = some (d, node) → node.kind ≠ .dataModelDependency) →
        (∀ c, site.container = .imagined c → c.unsaved = true →
          (s.step a).host.rebuild.workspace.nextId ≤ DocumentId.unassigned.index) →
        (s.step a).host.rebuild.scope? site = s.host.scope? site) ∧
      ∀ id d, s.host.workspace.get? id = some d → s.host.registry.modelOf? d = some viewer →
        (∃ e, (s.step a).host.rebuild.workspace.get? id = some e ∧
          e.resetReferences = d.resetReferences) ∧
        (s.step a).host.rebuild.index.locals? id = s.host.index.locals? id ∧
        ∀ n, (s.step a).host.rebuild.derivedAttributes ⟨id, n⟩ =
          s.host.derivedAttributes ⟨id, n⟩ := by
  have hinvisible' : ∀ m, s.host.registry.owner? uri = some m →
      s.host.registry.isVisible viewer m true = false := fun m hm => (hinvisible m hm).2
  rcases differAt_step registry actions hs hclean ha with hsame | ⟨j, hlt, H⟩
  · rw [hsame]
    exact ⟨fun _ _ _ _ => rfl, fun _ d hd _ => ⟨⟨d, hd, rfl⟩, rfl, fun _ => rfl⟩⟩
  · refine ⟨fun site hmodel hkind hfew => ?_, fun id d hd hmodel => ?_⟩
    · refine H.scope?_eq hinvisible' hmodel hkind fun c hc hunsaved heq => ?_
      rw [heq] at hlt
      exact absurd hlt (Nat.not_lt.2 (hfew c hc hunsaved))
    · have huri : d.uri ≠ uri := by
        rintro rfl
        exact Snapshot.DifferAt.owner?_ne hinvisible' hmodel
      have hne := H.ne_of_uri hd huri
      obtain ⟨e, he, heq⟩ := H.exists_document hne hd
      have halike := Document.alike_of_resetReferences_eq heq
      refine ⟨⟨e, he, heq⟩, H.locals hne, fun n => ?_⟩
      have hderived : e.isDerived = d.isDerived := funext halike.isDerived
      have hptr : e.ptr = d.ptr := funext halike.ptr
      simp only [Snapshot.derivedAttributes, he, hd, halike.children, hderived, hptr]

/-- Taking out the document of the dependent data model changes nothing for the entity of the data
model that it depends on, which does not see it. -/
theorem scope_eq_of_invisible_dependent :
    (((dependent.step .rebuild).step (.remove "file:///shop/b.cm")).host.rebuild.scope?
        (.ofNode ⟨⟨0⟩, ⟨1⟩⟩ .superEntities) =
      (dependent.step .rebuild).host.scope? (.ofNode ⟨⟨0⟩, ⟨1⟩⟩ .superEntities)) ∧
    (((dependent.step .rebuild).step (.remove "file:///shop/b.cm")).host.rebuild.index.locals? ⟨0⟩ =
      (dependent.step .rebuild).host.index.locals? ⟨0⟩) ∧
    (dependent.step .rebuild).host.isDirty = false ∧
    (dependent.step .rebuild).host.workspace.ids = [⟨0⟩, ⟨1⟩] := by
  obtain ⟨registry, actions, hrun⟩ :
      ∃ registry actions, dependent = (start registry).run actions := ⟨_, _, rfl⟩
  have hs : dependent.step .rebuild = (start registry).run (actions ++ [.rebuild]) := by
    rw [run_append, ← hrun]
    rfl
  have hclean : (dependent.step .rebuild).host.isDirty = false := Host.isDirty_rebuild _
  have howner : (dependent.step .rebuild).host.registry.owner? "file:///shop/b.cm" =
      some ⟨"shop"⟩ := by
    decide +kernel
  have hinvisible : ∀ m,
      (dependent.step .rebuild).host.registry.owner? "file:///shop/b.cm" = some m → m ≠ ⟨"core"⟩ ∧
        (dependent.step .rebuild).host.registry.isVisible ⟨"core"⟩ m true = false := by
    intro m hm
    rw [howner] at hm
    cases hm
    exact ⟨by decide, by decide +kernel⟩
  have hkind : ((dependent.step .rebuild).host.siteAt?
      (.ofNode ⟨⟨0⟩, ⟨1⟩⟩ .superEntities)).map (·.2.kind) = some .logicalEntity := by
    decide +kernel
  obtain ⟨d, hd, hmodel⟩ := Option.bind_eq_some_iff.1
    (show ((dependent.step .rebuild).host.workspace.get? ⟨0⟩).bind
        (dependent.step .rebuild).host.registry.modelOf? = some ⟨"core"⟩ by decide +kernel)
  obtain ⟨hscope, hparts⟩ := scope_eq_of_invisible _ _ hs hclean .remove hinvisible
  refine ⟨hscope _ (by decide +kernel) (fun d node hsite => ?_) (fun _ hc => by cases hc),
    (hparts _ d hd hmodel).2.1, hclean, by decide +kernel⟩
  rw [hsite, Option.map_some] at hkind
  rw [Option.some.inj hkind]
  decide

end Session

end ModelBinding
