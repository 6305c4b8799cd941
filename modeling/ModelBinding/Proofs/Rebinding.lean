import ModelBinding.Proofs.Chains
import ModelBinding.Proofs.Dependencies

/-!
# One dependency more

What a reference of the general case means is found around its node, in the data model
of its document, or among what other data models export, in the order of the workspace.
A further dependency only adds to the last of these. So a bound reference stays bound,
and where it meant something of its own data model it keeps its meaning. A name that
other data models declare may come to mean a declaration that has only come into view
and stands before (`Snapshot.Supersedes`, `resolve_of_dependency`).
-/

namespace ModelBinding

namespace Registry.Widens

variable {r r' : Registry} (h : r.Widens r') (d : Document)
include h

/-- Nodes declare the same. -/
theorem declarations (n : NodeId) : d.declarations r' n = d.declarations r n := by
  rw [Document.declarations, Document.declarations, h.modelOf?, h.globalId?]

/-- Containers declare the same. -/
theorem declaredIn (n : NodeId) : d.declaredIn r' n = d.declaredIn r n := by
  rw [Document.declaredIn, Document.declaredIn, funext (h.declarations d)]

/-- Documents declare the same. -/
theorem declared : d.declared r' = d.declared r := by
  rw [Document.declared, Document.declared, funext (h.declarations d)]

end Registry.Widens

namespace Resolver

variable {r : Resolver} {viewer : DataModelId}

/-- A dependency is in Global form, of another data model that is visible for references. -/
theorem isDependency_iff {x : Description} :
    r.isDependency viewer x = true ↔ x.form = .globalForm ∧ ∃ m, x.dataModel = some m ∧
      m ≠ viewer ∧ r.registry.isVisible viewer m true = true := by
  simp [isDependency, Description.isGlobal, Option.any_eq_true]

/-- The dependencies of a data model are taken out of the exports, in their order. -/
theorem dependencyScope_eq_filter {d : Document} (hd : r.registry.modelOf? d = some viewer)
    (target : NodeKind) :
    r.dependencyScope d target = (r.index.globalScope target).filter (r.isDependency viewer) := by
  rw [dependencyScope, hd]

/-- What a text means that is looked for near by first, and then among the exports of the kind that
a data model may refer to. -/
def findBehind (r : Resolver) (near : List Description) (viewer : DataModelId) (target : NodeKind)
    (text : String) : Option Description :=
  (near.find? (·.name = text)).or
    (((r.index.globalScope target).filter (r.isDependency viewer)).find? (·.name = text))

/-- In the general scope a text is looked for in the tables around the node and in the package, and
then among the dependencies. -/
theorem lookup_generalScope {d : Document} (hd : r.registry.modelOf? d = some viewer) (n : NodeId)
    (target : NodeKind) (text : String) :
    (r.generalScope d n target).lookup text =
      r.findBehind ((r.containerLayers d n target).flatten ++ r.packageScope d target) viewer target
        text := by
  rw [Scope.lookup_eq_find?, elements_generalScope, ← List.append_assoc, List.find?_append,
    dependencyScope_eq_filter hd, findBehind]

end Resolver

namespace Snapshot

/-- Two snapshots with nothing out of date that hold the same documents as they were written, the
second one under a registry that shows at least as much. -/
structure WidensTo (s t : Snapshot) : Prop where
  /-- Nothing is out of date in the first snapshot. -/
  left : s.Current Document.WellFormed
  /-- Nothing is out of date in the second snapshot. -/
  right : t.Current Document.WellFormed
  /-- The second registry shows at least as much. -/
  registry : s.registry.Widens t.registry
  /-- The documents are the same, in the same order. -/
  ids : t.workspace.ids = s.workspace.ids
  /-- Their addresses are the same. -/
  byUri : t.workspace.byUri = s.workspace.byUri
  /-- The number still to come is the same. -/
  nextId : t.workspace.nextId = s.workspace.nextId
  /-- The same was written. -/
  written : ∀ id, t.workspace.written? id = s.workspace.written? id

/-- A chain hangs in the same written nodes of its document in two snapshots, and in a derived
attribute in both of them or in neither. -/
def HangsAlike (s t : Snapshot) (c : ImaginedChain) : Prop :=
  ∃ b b', s.base c = .ok b ∧ t.base c = .ok b' ∧ b'.1.isDerived b'.2 = b.1.isDerived b.2 ∧
    b'.1.writtenAround b'.2 = b.1.writtenAround b.2

/-- For references to a kind from a data model, `y` stands before what `x` describes and has the
same name; it is of a data model that could not be referred to from there before. -/
structure Supersedes (s t : Snapshot) (viewer : DataModelId) (target : NodeKind)
    (y x : Description) : Prop where
  /-- The names are the same. -/
  name_eq : y.name = x.name
  /-- The name is a Global ID of both. -/
  form_eq : y.form = .globalForm ∧ x.form = .globalForm
  /-- What had the name is of another data model than the one that refers to it. -/
  foreign : x.dataModel ≠ some viewer
  /-- What takes its place is of a data model that has come into view. -/
  newcomer : ∃ m, y.dataModel = some m ∧ m ≠ viewer ∧
    s.registry.isVisible viewer m true = false ∧ t.registry.isVisible viewer m true = true
  /-- It comes first among the exports that may stand where the kind is asked for. -/
  before : [y, x].Sublist (t.index.globalScope target)

namespace WidensTo

variable {s t : Snapshot} (H : s.WidensTo t)
include H

/-- Documents have the same sources. -/
theorem source (id : DocumentId) :
    (t.workspace.get? id).map (·.source) = (s.workspace.get? id).map (·.source) := by
  have hid : ∀ {u : Snapshot}, u.Current Document.WellFormed →
      (u.workspace.get? id).map (·.source) =
        (u.workspace.written? id).map fun d => { d with id } := by
    intro u hu
    rw [Workspace.written?, Option.map_map]
    refine Option.map_congr fun d hd => ?_
    rw [Function.comp_apply, Document.source, hu.workspace.id_eq id d hd]
  rw [hid H.left, hid H.right, H.written]

/-- At every address the document has the same source. -/
theorem source_at (uri : String) :
    (t.workspace.at? uri).map (·.source) = (s.workspace.at? uri).map (·.source) := by
  rw [Workspace.at?, Workspace.at?, Workspace.idOf?, Workspace.idOf?, H.byUri]
  cases s.workspace.byUri.get? uri with
  | none => rfl
  | some id => exact H.source id

/-- The sources are the same, in the same order. -/
theorem sources :
    t.workspace.list.map Document.source = s.workspace.list.map Document.source := by
  have hlist : ∀ {u : Snapshot}, u.Current Document.WellFormed →
      u.workspace.list.map Document.source =
        u.workspace.ids.flatMap fun id => ((u.workspace.get? id).map (·.source)).toList := by
    intro u hu
    rw [hu.workspace.flatMap_ids (g := fun d => [d.source]) fun id d hd => by
      rw [hd]
      rfl]
    exact List.map_eq_flatMap
  rw [hlist H.left, hlist H.right, H.ids, funext fun id => congrArg Option.toList (H.source id)]

section Kind

variable {target : NodeKind} (htarget : target.isIdentified = true)
include htarget

/-- The exports of an identified kind are the same, in the same order. -/
theorem globalScope_eq :
    t.resolver.index.globalScope target = s.resolver.index.globalScope target := by
  have hdeclared : ∀ {u : Snapshot}, u.Current Document.WellFormed →
      u.resolver.index.globalScope target = Description.ofKind target
        (((u.workspace.list.map Document.source).filter fun d =>
          (u.registry.modelOf? d).isSome).flatMap fun d => d.declared u.registry) := by
    intro u hu
    have hall : (u.resolver.index.globalScope target).filter (fun x => x.dataModel.isSome) =
        u.resolver.index.globalScope target := by
      refine List.filter_eq_self.2 fun x hx => ?_
      exact Option.isSome_iff_ne_none.2 (hu.dataModel_ne_none_of_mem_globalScope htarget hx)
    rw [← hall, hu.filter_globalScope htarget Option.isSome (fun _ => true) rfl
      fun x => (Bool.and_true _).symm]
    simp
  rw [hdeclared H.left, hdeclared H.right, H.sources]
  simp only [H.registry.modelOf?, H.registry.declared]

/-- What a text means among the dependencies it still means, or something that supersedes it. -/
theorem find?_dependencies {viewer : DataModelId} {text : String} {x : Description}
    (hx : ((s.resolver.index.globalScope target).filter (s.resolver.isDependency viewer)).find?
      (·.name = text) = some x) :
    ∃ y, ((t.resolver.index.globalScope target).filter (t.resolver.isDependency viewer)).find?
        (·.name = text) = some y ∧
      (y = x ∨ s.Supersedes t viewer target y x) := by
  have hshown : ∀ z, s.resolver.isDependency viewer z = true →
      t.resolver.isDependency viewer z = true := by
    intro z hz
    obtain ⟨hform, m, hm, hne, hvisible⟩ := Resolver.isDependency_iff.1 hz
    exact Resolver.isDependency_iff.2 ⟨hform, m, hm, hne, H.registry.isVisible viewer m hvisible⟩
  rw [H.globalScope_eq htarget]
  rcases find?_filter_of_imp hshown hx with hfound | ⟨y, hy, hskipped, hbefore⟩
  · exact ⟨x, hfound, Or.inl rfl⟩
  · have hxname : x.name = text := by simpa using List.find?_some hx
    have hyname : y.name = text := by simpa using List.find?_some hy
    obtain ⟨hxform, q, hq, hforeign, -⟩ := Resolver.isDependency_iff.1
      (List.mem_filter.1 (List.mem_of_find?_eq_some hx)).2
    obtain ⟨hform, m, hm, hne, hvisible⟩ := Resolver.isDependency_iff.1
      (List.mem_filter.1 (List.mem_of_find?_eq_some hy)).2
    have hinvisible : s.registry.isVisible viewer m true = false := by
      cases hv : s.registry.isVisible viewer m true with
      | false => rfl
      | true =>
        rw [Resolver.isDependency_iff.2 ⟨hform, m, hm, hne, hv⟩] at hskipped
        cases hskipped
    exact ⟨y, hy, Or.inr
      { name_eq := hyname.trans hxname.symm
        form_eq := ⟨hform, hxform⟩
        foreign := by
          rw [hq]
          exact fun heq => hforeign (Option.some.inj heq)
        newcomer := ⟨m, hm, hne, hinvisible, hvisible⟩
        before := (H.globalScope_eq htarget).symm ▸ hbefore }⟩

end Kind

/-- Where the chain of a site hangs, it hangs alike under the second registry. -/
theorem of_ground? {site : Site} {b : Document × NodeId}
    (hanchor : ∀ c, site.container = .imagined c → c.anchor ≠ none → s.HangsAlike t c)
    (hb : s.ground? site = some b) (hwritten : site.chain = [] → b.1.isDerived b.2 = false) :
    ∃ b', t.ground? site = some b' ∧ b'.1.source = b.1.source ∧
      b'.1.isDerived b'.2 = b.1.isDerived b.2 ∧
      b'.1.writtenAround b'.2 = b.1.writtenAround b.2 := by
  obtain ⟨container, p, i⟩ := site
  cases container with
  | node ptr =>
    obtain ⟨d, hd, rfl⟩ := Option.map_eq_some_iff.1 hb
    have hsource := H.source ptr.document
    rw [hd, Option.map_some] at hsource
    obtain ⟨e, he, hsource⟩ := Option.map_eq_some_iff.1 hsource
    exact ⟨(e, ptr.node), by simp [ground?, he], hsource,
      Document.isDerived_of_source_eq hsource ptr.node,
      Document.writtenAround_of_source_eq hsource (hwritten rfl)⟩
  | imagined c =>
    have hbase := base_of_ground? hb
    have hsource := H.source_at c.uri
    rcases of_base hbase with ⟨hat, hnode⟩ | ⟨hat, hunsaved, hnone, rfl⟩
    · rw [hat, Option.map_some] at hsource
      obtain ⟨e, he, hsource⟩ := Option.map_eq_some_iff.1 hsource
      rcases hnode with ⟨hnone, hroot⟩ | ⟨globalId, hsome, -⟩
      · obtain ⟨id, -, hget⟩ := Option.bind_eq_some_iff.1 hat
        refine ⟨(e, .root), by simp [ground?, base, he, hnone, Except.toOption], hsource, ?_, ?_⟩
        · rw [hroot]
          exact Document.isDerived_of_source_eq hsource .root
        · rw [hroot]
          exact Document.writtenAround_of_source_eq hsource (H.left.of_root hget).2
      · obtain ⟨b₀, b', hb₀, hb', hderived, haround⟩ := hanchor c rfl (by simp [hsome])
        rw [hbase] at hb₀
        cases hb₀
        refine ⟨b', by simp [ground?, hb', Except.toOption], ?_, hderived, haround⟩
        rcases of_base hb' with ⟨hat', -⟩ | ⟨hat', -⟩
        · rw [he] at hat'
          exact Option.some.inj hat' ▸ hsource
        · rw [he] at hat'
          cases hat'
    · rw [hat, Option.map_none, Option.map_eq_none_iff] at hsource
      exact ⟨(.blank c.uri, .root),
        by simp [ground?, base, hsource, hunsaved, hnone, Except.toOption], rfl, rfl, rfl⟩

/-- Around a site and in its data model the same is found before and after, so a reference of the
general case differs at most in what it means among the exports of other data models. -/
theorem exists_near {site : Site}
    (hfew : ∀ c, site.container = .imagined c → c.unsaved = true →
      s.workspace.nextId ≤ DocumentId.unassigned.index)
    (hanchor : ∀ c, site.container = .imagined c → c.anchor ≠ none → s.HangsAlike t c)
    {d : Document} {node : Node} (hsite : s.siteAt? site = some (d, node)) {viewer : DataModelId}
    (hmodel : s.registry.modelOf? d = some viewer)
    (hgeneral : node.kind.seesGeneralScope site.property = true) {target : NodeKind}
    (htarget : node.kind.referenceTarget? site.property = some target)
    (hattribute : target.isSubtypeOf .logicalAttribute = false) :
    ∃ near,
      s.resolve site = (node.reading site.property).2[site.index]?.bind
        (s.resolver.findBehind near viewer target) ∧
      t.resolve site = (node.reading site.property).2[site.index]?.bind
        (t.resolver.findBehind near viewer target) := by
  have hidentified := NodeKind.isIdentified_of_referenceTarget? htarget
  obtain ⟨b, hb, rfl, hnode⟩ := exists_ground? hsite
  have hreading := congrArg (Option.map (·.reading site.property)) hnode
  rw [Option.map_some] at hreading
  have hwritten := H.left.isDerived_of_ground? hb hnode htarget
  obtain ⟨b', hb', hsource, hderived, haround⟩ := H.of_ground? hanchor hb hwritten
  have hreading' :=
    (reading_hang_congr hsource hderived haround hwritten site.property).trans hreading
  have huri : (hang b'.1 b'.2 site.chain).1.uri = (hang b.1 b.2 site.chain).1.uri := by
    rw [(id_uri_hang _ _ _).2, (id_uri_hang _ _ _).2]
    exact (congrArg Document.uri hsource :)
  have hmodel' : t.registry.modelOf? (hang b'.1 b'.2 site.chain).1 = some viewer := by
    rw [H.registry.modelOf?, Registry.modelOf?, huri]
    exact hmodel
  have hlayers := H.left.flatten_containerLayers_of_ground? hfew hb hidentified hattribute
  have hlayers' := H.right.flatten_containerLayers_of_ground? (H.nextId ▸ hfew) hb' hidentified
    hattribute
  rw [haround, hsource, funext (H.registry.declaredIn _), ← hlayers] at hlayers'
  have hpackage : t.resolver.packageScope (hang b'.1 b'.2 site.chain).1 target =
      s.resolver.packageScope (hang b.1 b.2 site.chain).1 target := by
    rw [Resolver.packageScope, Resolver.packageScope, H.globalScope_eq hidentified,
      show t.resolver.registry.modelOf? _ = some viewer from hmodel',
      show s.resolver.registry.modelOf? _ = some viewer from hmodel]
  refine ⟨(s.resolver.containerLayers (hang b.1 b.2 site.chain).1 (hang b.1 b.2 site.chain).2
    target).flatten ++ s.resolver.packageScope (hang b.1 b.2 site.chain).1 target, ?_, ?_⟩
  · rw [resolve_of_ground? hb hreading hgeneral htarget]
    exact congrArg _ (funext fun text => Resolver.lookup_generalScope hmodel _ target text)
  · rw [resolve_of_ground? hb' hreading' hgeneral htarget, ← hlayers', ← hpackage]
    exact congrArg _ (funext fun text => Resolver.lookup_generalScope hmodel' _ target text)

/-- A reference of the general case that is bound stays bound, to what it was bound to or to
something that supersedes it. -/
theorem resolve {site : Site}
    (hfew : ∀ c, site.container = .imagined c → c.unsaved = true →
      s.workspace.nextId ≤ DocumentId.unassigned.index)
    (hanchor : ∀ c, site.container = .imagined c → c.anchor ≠ none → s.HangsAlike t c)
    {d : Document} {node : Node} (hsite : s.siteAt? site = some (d, node)) {viewer : DataModelId}
    (hmodel : s.registry.modelOf? d = some viewer)
    (hgeneral : node.kind.seesGeneralScope site.property = true) {target : NodeKind}
    (htarget : node.kind.referenceTarget? site.property = some target)
    (hattribute : target.isSubtypeOf .logicalAttribute = false) {x : Description}
    (hx : s.resolve site = some x) :
    ∃ y, t.resolve site = some y ∧ (y = x ∨ s.Supersedes t viewer target y x) := by
  obtain ⟨near, hbefore, hafter⟩ :=
    H.exists_near hfew hanchor hsite hmodel hgeneral htarget hattribute
  rw [hbefore] at hx
  rw [hafter]
  obtain ⟨text, htext, hx⟩ := Option.bind_eq_some_iff.1 hx
  rw [htext, Option.bind_some]
  unfold Resolver.findBehind at hx ⊢
  cases hfound : near.find? (·.name = text) with
  | some z =>
    -- What is found near by is found before any dependency.
    rw [hfound, Option.some_or] at hx
    exact ⟨z, rfl, Or.inl (Option.some.inj hx)⟩
  | none =>
    rw [hfound, Option.none_or] at hx
    exact H.find?_dependencies (NodeKind.isIdentified_of_referenceTarget? htarget) hx

end WidensTo

end Snapshot

namespace Session

/-- A wider registry and a rebuild lead to a wider snapshot. -/
theorem Reachable.widensTo {s : Session} (hs : s.Reachable) {r' : Registry}
    (hr : s.host.registry.Widens r') :
    s.host.rebuild.toSnapshot.WidensTo (s.host.rebuild.setRegistry r').rebuild.toSnapshot := by
  have hbuilt : (s.step .rebuild).Reachable := hs.step trivial
  have hreplaced : ((s.step .rebuild).step (.setRegistry r')).Reachable := hbuilt.step trivial
  obtain ⟨hids, hbyUri, hnextId, hregistry⟩ := (s.host.rebuild.setRegistry r').frame_rebuild
  have hsnapshot := s.host.rebuild.toSnapshot_setRegistry r'
  have hworkspace : (s.host.rebuild.setRegistry r').workspace = s.host.rebuild.workspace :=
    (congrArg Snapshot.workspace hsnapshot :)
  refine ⟨hs.current, hreplaced.current, ?_, hids.trans (congrArg (·.ids) hworkspace),
    hbyUri.trans (congrArg (·.byUri) hworkspace), hnextId.trans (congrArg (·.nextId) hworkspace),
    fun id => ?_⟩
  · rw [hregistry, s.host.frame_rebuild.2.2.2]
    have hreplaced : (s.host.rebuild.setRegistry r').registry = r' :=
      (congrArg Snapshot.registry hsnapshot :)
    rw [hreplaced]
    exact hr
  · obtain ⟨hconsistent, hauthored⟩ := hreplaced.authored
    exact (Host.written_rebuild hconsistent hauthored.workspace id).trans
      (congrArg (·.written? id) hworkspace)

/-- A data model that declares one dependency more, of whatever data model in whatever versions,
keeps its references of the general case bound, if they are not to attributes. Each means what it
meant, unless that is exported by another data model, and a data model that has only come into view
exports the same Global ID before it. The data models must have identifiers of their own, as
registering them sees to, and a chain that is anchored must hang in the same written nodes before
and after. For a chain in an unsaved document the counter of numbers must be one of 32 bits, so that
the number of unsaved documents, the last one, was not given out. -/
theorem resolve_of_dependency {s : Session} (hs : s.Reachable)
    (hdistinct : s.host.registry.Distinct) {m : DataModel}
    (hm : s.host.registry.get? m.id = some m) {front back : List Dependency}
    (hdeps : m.dependencies = front ++ back) {dep : Dependency} {r' : Registry}
    (hr : s.host.registry.update { m with dependencies := front ++ dep :: back } = .ok r')
    {site : Site}
    (hfew : ∀ c, site.container = .imagined c → c.unsaved = true →
      s.host.workspace.nextId ≤ DocumentId.unassigned.index)
    (hanchor : ∀ c, site.container = .imagined c → c.anchor ≠ none →
      s.host.rebuild.HangsAlike (s.host.rebuild.setRegistry r').rebuild.toSnapshot c)
    {d : Document} {node : Node} (hsite : s.host.rebuild.siteAt? site = some (d, node))
    (hmodel : s.host.registry.modelOf? d = some m.id)
    (hgeneral : node.kind.seesGeneralScope site.property = true) {target : NodeKind}
    (htarget : node.kind.referenceTarget? site.property = some target)
    (hattribute : target.isSubtypeOf .logicalAttribute = false) {x : Description}
    (hx : s.host.rebuild.resolve site = some x) :
    ∃ y, (s.host.rebuild.setRegistry r').rebuild.resolve site = some y ∧
      (y = x ∨ s.host.rebuild.Supersedes (s.host.rebuild.setRegistry r').rebuild.toSnapshot m.id
        target y x) := by
  have hwidens := hs.widensTo (Registry.widens_of_update hdistinct hm hdeps hr)
  obtain ⟨-, -, hnextId, hregistry⟩ := s.host.frame_rebuild
  rw [← hnextId] at hfew
  rw [← hregistry] at hmodel
  exact hwidens.resolve hfew hanchor hsite hmodel hgeneral htarget hattribute hx

/-- The data model of that name with the given dependencies. -/
def shopModel (dependencies : List Dependency) : DataModel :=
  { id := ⟨"shop"⟩, referenceName := "shop", root := "file:///shop", dependencies }

/-- Two data models of one name, and a third one with the given dependencies. -/
def rivalRegistry (dependencies : List Dependency) : Registry :=
  { models := [
      { id := ⟨"old"⟩, referenceName := "lib", root := "file:///old" },
      { id := ⟨"new"⟩, referenceName := "lib", root := "file:///new" },
      shopModel dependencies] }

/-- A session in which two data models of one name declare an entity of one name, and a third one
that depends on the second of them refers to it. -/
def rivals : Session :=
  (start (rivalRegistry [⟨⟨"new"⟩, .any⟩])).run
    [.set (.ofDrafts "file:///old/x.cm"
        (List.map (fun draft => (NodeId.root, draft))
          [{ kind := .logicalEntity, id := some "Party" }])),
      .set (.ofDrafts "file:///new/x.cm"
        (List.map (fun draft => (NodeId.root, draft))
          [{ kind := .logicalEntity, id := some "Party" }])),
      .set (.ofDrafts "file:///shop/r.cm"
        (List.map (fun draft => (NodeId.root, draft))
          [{ kind := .relationship, id := some "Owns", references := [(.parent, "lib.Party")] }]))]

/-- It is reachable. -/
theorem reachable_rivals : rivals.Reachable := by
  refine ⟨_, _, fun a ha => ?_, rfl⟩
  simp only [List.mem_cons, List.not_mem_nil, or_false] at ha
  rcases ha with rfl | rfl | rfl
  · exact drafted_flat _ _
  · exact drafted_flat _ _
  · exact drafted_flat _ _

/-- A data model with an entity, and another one with the given dependencies. -/
def mooringRegistry (dependencies : List Dependency) : Registry :=
  { models := [
      { id := ⟨"lib"⟩, referenceName := "lib", root := "file:///lib" },
      shopModel dependencies] }

/-- A session in which two targets of a mapping have one name. The second one contains a node, and
the first one would get a copy of that name if the entity it refers to were visible. -/
def mooring : Session :=
  (start (mooringRegistry [])).run
    [.set (.ofDrafts "file:///lib/e.cm"
        [(.root, { kind := .logicalEntity, id := some "E" }),
          (⟨1⟩, { kind := .logicalAttribute, id := some "X" })]),
      .set (.ofDrafts "file:///shop/m.cm"
        [(.root, { kind := .logicalEntity, id := some "M.T.X.Inner" }),
          (.root, { kind := .mapping, id := some "M" }),
          (⟨2⟩, { kind := .targetObject, id := some "T", references := [(.entity, "lib.E")] }),
          (⟨2⟩, { kind := .targetObject, id := some "T" }),
          (⟨4⟩, { kind := .logicalEntity, id := some "X" }),
          (⟨5⟩, { kind := .logicalEntity, id := some "Inner" })])]

/-- A relationship that is imagined inside the node of that name. -/
def mooredSite : Site where
  container := .imagined
    { uri := "file:///shop/m.cm", anchor := some "shop.M.T.X"
      nodes := [
        { kind := .relationship, id := some "R", references := [(.parent, "M.T.X.Inner")] }] }
  property := .parent

/-- It is reachable. -/
theorem reachable_mooring : mooring.Reachable := by
  refine ⟨_, _, fun a ha => ?_, rfl⟩
  simp only [List.mem_cons, List.not_mem_nil, or_false] at ha
  rcases ha with rfl | rfl
  · exact drafted_ofDrafts (by decide)
  · exact drafted_ofDrafts (by decide)

/-- A further dependency may give bound references of the general case another meaning: where two
data models have one name, and where a chain comes to hang in a derived attribute. -/
theorem dependency_rebinds :
    (NodeKind.relationship.seesGeneralScope .parent = true ∧
      NodeKind.relationship.referenceTarget? .parent = some .logicalEntity ∧
      NodeKind.logicalEntity.isSubtypeOf .logicalAttribute = false) ∧
    (rivals.Reachable ∧ rivals.host.registry.Distinct ∧
      rivals.host.registry.update (shopModel [⟨⟨"new"⟩, .any⟩, ⟨⟨"old"⟩, .any⟩]) =
        .ok (rivalRegistry [⟨⟨"new"⟩, .any⟩, ⟨⟨"old"⟩, .any⟩]) ∧
      (rivals.host.rebuild.siteAt? (.ofNode ⟨⟨2⟩, ⟨1⟩⟩ .parent)).map
        (fun found => (found.2.kind, rivals.host.registry.modelOf? found.1)) =
          some (.relationship, some ⟨"shop"⟩) ∧
      (rivals.host.rebuild.resolve (.ofNode ⟨⟨2⟩, ⟨1⟩⟩ .parent)).map (·.node) =
        some ⟨⟨1⟩, ⟨1⟩⟩ ∧
      ((rivals.host.rebuild.setRegistry
          (rivalRegistry [⟨⟨"new"⟩, .any⟩, ⟨⟨"old"⟩, .any⟩])).rebuild.resolve
        (.ofNode ⟨⟨2⟩, ⟨1⟩⟩ .parent)).map (·.node) = some ⟨⟨0⟩, ⟨1⟩⟩) ∧
    (mooring.Reachable ∧ mooring.host.registry.Distinct ∧
      mooring.host.registry.update (shopModel [⟨⟨"lib"⟩, .any⟩]) =
        .ok (mooringRegistry [⟨⟨"lib"⟩, .any⟩]) ∧
      (mooring.host.rebuild.siteAt? mooredSite).map
        (fun found => (found.2.kind, mooring.host.registry.modelOf? found.1)) =
          some (.relationship, some ⟨"shop"⟩) ∧
      (mooring.host.rebuild.resolve mooredSite).map (·.node) = some ⟨⟨1⟩, ⟨6⟩⟩ ∧
      ((mooring.host.rebuild.setRegistry
          (mooringRegistry [⟨⟨"lib"⟩, .any⟩])).rebuild.resolve mooredSite).map (·.node) =
        some ⟨⟨1⟩, ⟨1⟩⟩) := by
  refine ⟨by decide, ⟨reachable_rivals, by decide +kernel, rfl, ?_, ?_, ?_⟩,
    reachable_mooring, by decide +kernel, rfl, ?_, ?_, ?_⟩ <;> decide +kernel

/-- With the further dependency the reference of the third data model means the entity of the first
one, which stands before the one that it meant. -/
theorem resolve_of_dependency_rivals :
    ∃ x y, rivals.host.rebuild.resolve (.ofNode ⟨⟨2⟩, ⟨1⟩⟩ .parent) = some x ∧
      (rivals.host.rebuild.setRegistry
          (rivalRegistry [⟨⟨"new"⟩, .any⟩, ⟨⟨"old"⟩, .any⟩])).rebuild.resolve
        (.ofNode ⟨⟨2⟩, ⟨1⟩⟩ .parent) = some y ∧
      rivals.host.rebuild.Supersedes (rivals.host.rebuild.setRegistry
          (rivalRegistry [⟨⟨"new"⟩, .any⟩, ⟨⟨"old"⟩, .any⟩])).rebuild.toSnapshot ⟨"shop"⟩
        .logicalEntity y x := by
  have hsite : (rivals.host.rebuild.siteAt? (.ofNode ⟨⟨2⟩, ⟨1⟩⟩ .parent)).map
      (fun found => (found.2.kind, rivals.host.registry.modelOf? found.1)) =
        some (.relationship, some ⟨"shop"⟩) := by
    decide +kernel
  obtain ⟨⟨d, node⟩, hsite, hfound⟩ := Option.map_eq_some_iff.1 hsite
  obtain ⟨hkind, hmodel⟩ : node.kind = .relationship ∧
      rivals.host.registry.modelOf? d = some ⟨"shop"⟩ := Prod.mk.injEq .. ▸ hfound
  have hbefore : (rivals.host.rebuild.resolve (.ofNode ⟨⟨2⟩, ⟨1⟩⟩ .parent)).map (·.node) =
      some ⟨⟨1⟩, ⟨1⟩⟩ := by
    decide +kernel
  have hafter : ((rivals.host.rebuild.setRegistry
        (rivalRegistry [⟨⟨"new"⟩, .any⟩, ⟨⟨"old"⟩, .any⟩])).rebuild.resolve
      (.ofNode ⟨⟨2⟩, ⟨1⟩⟩ .parent)).map (·.node) = some ⟨⟨0⟩, ⟨1⟩⟩ := by
    decide +kernel
  obtain ⟨x, hx, hxnode⟩ := Option.map_eq_some_iff.1 hbefore
  have hm : rivals.host.registry.get? (shopModel [⟨⟨"new"⟩, .any⟩]).id =
      some (shopModel [⟨⟨"new"⟩, .any⟩]) := by
    decide +kernel
  have hr : rivals.host.registry.update
      { shopModel [⟨⟨"new"⟩, .any⟩] with
        dependencies := [⟨⟨"new"⟩, .any⟩] ++ ⟨⟨"old"⟩, .any⟩ :: [] } =
      .ok (rivalRegistry [⟨⟨"new"⟩, .any⟩, ⟨⟨"old"⟩, .any⟩]) := rfl
  have htarget : node.kind.referenceTarget? .parent = some .logicalEntity := by
    rw [hkind]
    rfl
  obtain ⟨y, hy, hcases⟩ := resolve_of_dependency reachable_rivals (by decide +kernel) hm rfl hr
    (fun _ hc => by cases hc) (fun _ hc => by cases hc) hsite hmodel (by rw [hkind]; rfl) htarget
    (by decide) hx
  refine ⟨x, y, hx, hy, hcases.resolve_left ?_⟩
  rintro rfl
  have hy' := (congrArg (Option.map (·.node)) hy).symm.trans hafter
  rw [Option.map_some, hxnode] at hy'
  cases hy'

end Session

end ModelBinding
