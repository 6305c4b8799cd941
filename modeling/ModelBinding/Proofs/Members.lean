import ModelBinding.Proofs.MappingScopes
import ModelBinding.Proofs.Published

/-!
# Attributes of related entities

A side of a relationship attribute shows nodes inside the entity on that side of the
relationship, under names that the name of the entity qualifies. Which form that name has
does not matter: what a document exports is shown in every form in which anything of the
document is shown (`mem_generalScope_of_form_eq`), and the names of a node in one form
continue those of its container in that form (`Description.Identifies.mem_published`).
So the attributes of an exported entity are all found behind its name
(`scope_relationshipAttribute_members`).
-/

namespace ModelBinding

namespace Document

/-- The attributes inside a node, of whatever kind of attribute. -/
def attributesOf (d : Document) (n : NodeId) : List NodeId :=
  (d.children n).filter fun a => (d.kind? a).any (·.isSubtypeOf .logicalAttribute)

/-- Whether the attributes inside a node have distinct identifiers without separators. -/
structure PlainAttributes (d : Document) (n : NodeId) : Prop where
  /-- No two have the same identifier. -/
  nodup : ((d.attributesOf n).filterMap d.ownId?).Nodup
  /-- Identifiers hold no separator. -/
  separator_notMem : ∀ a ∈ d.attributesOf n, ∀ own, d.ownId? a = some own →
    Name.separator ∉ own.toList

/-- What is an attribute inside a node. -/
theorem mem_attributesOf {d : Document} {n a : NodeId} : a ∈ d.attributesOf n ↔
    a ∈ d.children n ∧ ∃ k, d.kind? a = some k ∧ k.isSubtypeOf .logicalAttribute = true := by
  simp [attributesOf, Option.any_eq_true]

end Document

/-- A description of a node inside the one that `outer` describes, under a name that the name of
`outer` qualifies. -/
structure Description.InsideOf (x outer : Description) (d : Document) : Prop where
  /-- Both are about the same document. -/
  document_eq : x.node.document = outer.node.document
  /-- The node is inside the other one. -/
  mem_children : x.node.node ∈ d.children outer.node.node
  /-- The name is qualified by the other one. -/
  isInside : Name.isInside outer.name x.name = true

namespace Description.Identifies

variable {x : Description} {r : Registry} {d : Document} (hx : x.Identifies r d)
include hx

/-- What is identified has a Local ID, unless it is a data model. -/
theorem exists_localId? {k : NodeKind} (hk : d.kind? x.node.node = some k) (hne : k ≠ .dataModel) :
    ∃ l, d.localId? x.node.node = some l := by
  unfold Identifies at hx
  split at hx
  · exact ⟨_, hx⟩
  · obtain ⟨reference, -, hqualified⟩ := Option.bind_eq_some_iff.1 hx.1
    rw [Document.qualifiedId?, hk, Option.bind_some, if_neg hne] at hqualified
    obtain ⟨l, hl, -⟩ := Option.map_eq_some_iff.1 hqualified
    exact ⟨l, hl⟩

variable (h : d.IsTree)
include h

/-- In a tree the identity of a node inside a node with a Local ID ends with its own identifier. -/
theorem exists_name_eq_qualify {k : NodeKind} (hk : d.kind? x.node.node = some k)
    (hne : k ≠ .dataModel) {p : NodeId} (hp : d.parent? x.node.node = some p) {l : String}
    (hl : d.localId? p = some l) :
    ∃ outer own, d.ownId? x.node.node = some own ∧ x.name = Name.qualify outer own := by
  obtain ⟨l', hl'⟩ := hx.exists_localId? hk hne
  obtain ⟨own, hown, -⟩ := Option.map_eq_some_iff.1 hl'
  have hlocal := h.localId?_eq_qualify hp hown hl
  unfold Identifies at hx
  split at hx
  · exact ⟨l, own, hown, Option.some.inj (hx.symm.trans hlocal)⟩
  · obtain ⟨reference, -, hqualified⟩ := Option.bind_eq_some_iff.1 hx.1
    rw [Document.qualifiedId?, hk, Option.bind_some, if_neg hne, hlocal, Option.map_some,
      Name.qualify_assoc] at hqualified
    exact ⟨Name.qualify reference l, own, hown, (Option.some.inj hqualified).symm⟩

/-- In a document that a data model owns, a node inside one that is identified by its form is
published in that form, under its identifier behind the name of the other one. -/
theorem mem_published {m : DataModelId} (hm : r.modelOf? d = some m) {k k' : NodeKind}
    (hk : d.kind? x.node.node = some k) (hne : k ≠ .dataModel) {a : NodeId}
    (ha : d.parent? a = some x.node.node) (hk' : d.kind? a = some k') (hne' : k' ≠ .dataModel)
    (hidentified : k'.isIdentified = true) {own : String} (hown : d.ownId? a = some own) :
    d.describe (r.modelOf? d) a k' (Name.qualify x.name own) x.form ∈ d.published r a := by
  unfold Identifies at hx
  rw [Document.mem_published_iff]
  cases hform : x.form with
  | localForm =>
    rw [hform] at hx
    have hlocal := h.localId?_eq_qualify ha hown hx
    obtain ⟨g, hg⟩ := Registry.exists_globalId? hm hk' hlocal
    exact ⟨k', _, g, hk', hidentified, hlocal, hg, Or.inl rfl⟩
  | globalForm =>
    rw [hform] at hx
    obtain ⟨reference, hreference, hqualified⟩ := Option.bind_eq_some_iff.1 hx.1
    rw [Document.qualifiedId?, hk, Option.bind_some, if_neg hne] at hqualified
    obtain ⟨l, hl, hname⟩ := Option.map_eq_some_iff.1 hqualified
    have hlocal := h.localId?_eq_qualify ha hown hl
    refine ⟨k', _, _, hk', hidentified, hlocal, ?_, Or.inr rfl⟩
    rw [Registry.globalId?, hreference, Option.bind_some, Document.qualifiedId?, hk',
      Option.bind_some, if_neg hne', hlocal, Option.map_some, Name.qualify_assoc, hname]

end Description.Identifies

namespace Snapshot.Current

variable {s : Snapshot} (h : s.Current Document.WellFormed)
  (hplain : s.Current fun d => d.asWritten.Plain) {d : Document}
  (hd : s.workspace.get? d.id = some d) {n : NodeId} {target : NodeKind} {x : Description}
  (hx : x ∈ (s.resolver.generalScope d n target).elements)

include hplain hd hx in
/-- What the general scope shows belongs to the data model of the document, or is shown as a
dependency. -/
theorem dataModel_eq_or_mem_dependencyScope :
    x.dataModel = s.registry.modelOf? d ∨ x ∈ s.resolver.dependencyScope d target := by
  rcases Resolver.mem_generalScope.1 hx with ⟨layer, hlayer, hx⟩ | hpackage | hdependency
  · obtain ⟨hfits, -⟩ := hplain.fits_of_mem_containerLayers hd hlayer hx
    rw [hfits.dataModel_eq, hfits.uri_eq]
    exact Or.inl rfl
  · exact Or.inl (Resolver.mem_packageScope.1 hpackage).2
  · exact Or.inr hdependency

include h hplain hd hx in
/-- What the general scope shows is of the kind and about a node of the workspace, under a name that
it has. -/
theorem named_of_mem_generalScope : x.kind.isSubtypeOf target = true ∧
    ∃ t, s.workspace.get? x.node.document = some t ∧ x.Fits s.registry t ∧
      x.NamedIn s.registry t := by
  have hexported : x ∈ s.index.globalScope target → x.kind.isSubtypeOf target = true ∧
      ∃ t, s.workspace.get? x.node.document = some t ∧ x.Fits s.registry t ∧
        x.NamedIn s.registry t := fun hglobal => by
    obtain ⟨hall, hkind⟩ := h.index.mem_globalScope_iff.1 hglobal
    obtain ⟨t, ht, hfits, hname⟩ := hplain.fits_of_mem_all hall
    refine ⟨hkind, t, ht, hfits, ?_⟩
    rw [Description.NamedIn, h.isDerived_of_mem_all hall ht]
    exact hname
  rcases Resolver.mem_generalScope.1 hx with hlayers | hpackage | hdependency
  · obtain ⟨_, -, _, -, -, hkind⟩ := Resolver.mem_containerLayers_iff.1 hlayers
    obtain ⟨layer, hlayer, hx⟩ := hlayers
    obtain ⟨hfits, hname⟩ := hplain.fits_of_mem_containerLayers hd hlayer hx
    exact ⟨hkind, d, hfits.document_eq ▸ hd, hfits, hname⟩
  · exact hexported (Resolver.mem_packageScope.1 hpackage).1
  · exact hexported (Resolver.mem_dependencyScope.1 hdependency).1

include h hplain hd hx in
/-- What a document exports is shown, where its kind is asked for, in every form in which anything
of the document is shown. -/
theorem mem_generalScope_of_form_eq {y : Description} (hy : y ∈ s.index.all)
    (hdocument : y.node.document = x.node.document) (hform : y.form = x.form) (m : NodeId)
    {wanted : NodeKind} (hkind : y.kind.isSubtypeOf wanted = true) :
    y ∈ (s.resolver.generalScope d m wanted).elements := by
  obtain ⟨-, t, ht, hfits, -⟩ := h.named_of_mem_generalScope hplain hd hx
  obtain ⟨t', ht', hfits', -⟩ := hplain.fits_of_mem_all hy
  rw [hdocument, ht] at ht'
  cases ht'
  have hmodel : y.dataModel = x.dataModel := by
    rw [hfits.dataModel_eq, hfits'.dataModel_eq, hfits.uri_eq, hfits'.uri_eq]
  rcases hplain.dataModel_eq_or_mem_dependencyScope hd hx with hown | hdependency
  · exact Resolver.mem_generalScope_of_package h.index hy hkind (hmodel.trans hown) m
  · obtain ⟨-, hglobal, viewer, owner, hviewer, howner, hne, hvisible⟩ :=
      Resolver.mem_dependencyScope.1 hdependency
    exact Resolver.mem_generalScope_of_dependency h.index hy hkind (hform.trans hglobal) hviewer
      (hmodel.trans howner) hne hvisible m

end Snapshot.Current

namespace Snapshot

/-- What is inside an entity by its name and in the tree of its document is a member of the
entity. -/
theorem isMember_iff {s : Snapshot} {entity x : Description} {t : Document}
    (ht : s.workspace.get? entity.node.document = some t) (htree : t.IsTree) :
    s.resolver.isMember entity x = true ↔ x.InsideOf entity t := by
  have hparent : (s.resolver.document? entity.node.document).bind (·.parent? x.node.node) =
      t.parent? x.node.node := by
    show (s.workspace.get? _).bind _ = _
    rw [ht, Option.bind_some]
  simp only [Resolver.isMember, hparent, Bool.and_eq_true, decide_eq_true_eq]
  constructor
  · rintro ⟨⟨hname, hdocument⟩, hinside⟩
    exact ⟨hdocument, (htree.of_parent? hinside).2, hname⟩
  · rintro ⟨hdocument, hchild, hname⟩
    exact ⟨⟨hname, hdocument⟩, htree.parent?_of_mem _ _ hchild⟩

/-- The entity on a side of a relationship is what the reference of the relationship there means. -/
theorem bind_relationship {s : Snapshot} {d : Document} (hd : s.workspace.get? d.id = some d)
    {n : NodeId} (hkind : d.kind? n = some .relationship) {side : Property}
    (hside : side = .parent ∨ side = .child) :
    s.resolver.bind d n side .logicalEntity = s.resolve (.ofNode (d.ptr n) side) := by
  obtain ⟨node, hnode, hkind⟩ := Option.map_eq_some_iff.1 hkind
  have htarget : node.kind.referenceTarget? side = some .logicalEntity := by
    rw [hkind]
    rcases hside with rfl | rfl <;> rfl
  have hgeneral : node.kind.seesGeneralScope side = true := by
    rw [hkind]
    rcases hside with rfl | rfl <;> rfl
  rw [@resolve_ofNode_eq_lookup _ (d.ptr n) _ _ hd hnode _ _ htarget,
    Resolver.scopeOf_of_seesGeneralScope _ _ _ hgeneral, Resolver.bind, hnode]
  rfl

/-- The scope of a side of a relationship attribute is the general one, narrowed to the members of
the entity that the relationship has there, and empty if it has none. -/
theorem scope_relationshipAttribute {s : Snapshot} {ptr : NodePtr} {d : Document}
    (hcurrent : s.Current Document.WellFormed) (hd : s.workspace.get? ptr.document = some d)
    (hkind : d.kind? ptr.node = some .relationshipAttribute) {relationship : NodeId}
    (haround : d.ancestorOfKind? ptr.node .relationship = some relationship) {side : Property}
    (hside : side = .parent ∨ side = .child) (i : Nat) :
    s.scope (.ofNode ptr side i) =
      match s.resolve (.ofNode (d.ptr relationship) side) with
      | none => .empty
      | some entity =>
        (s.resolver.generalScope d ptr.node .logicalAttribute).filter
          (s.resolver.isMember entity) := by
  have hown : s.workspace.get? d.id = some d := hcurrent.get?_id hd
  have hrelationship : d.kind? relationship = some .relationship := by
    simpa using List.find?_some haround
  obtain ⟨node, hnode, hkind⟩ := Option.map_eq_some_iff.1 hkind
  have htarget : node.kind.referenceTarget? side = some .logicalAttribute := by
    rw [hkind]
    rcases hside with rfl | rfl <;> rfl
  have hscope : s.resolver.scopeOf d ptr.node node.kind side .logicalAttribute =
      s.resolver.relationshipAttributeScope d ptr.node side .logicalAttribute := by
    rw [hkind]
    rcases hside with rfl | rfl <;> rfl
  rw [scope_ofNode_eq_scopeOf hd hnode htarget, hscope,
    ← bind_relationship hown hrelationship hside]
  unfold Resolver.relationshipAttributeScope
  cases hbind : s.resolver.bind d relationship side .logicalEntity <;> simp only [haround, hbind]

end Snapshot

namespace Snapshot.Publishes

variable {s : Snapshot} (h : s.Publishes) (hplain : s.Current fun d => d.asWritten.Plain)
  {d t : Document} (hd : s.workspace.get? d.id = some d) {n : NodeId} {entity : Description}
  (hentity : entity ∈ (s.resolver.generalScope d n .logicalEntity).elements)
  (ht : s.workspace.get? entity.node.document = some t)
include h hplain hd hentity ht

/-- An entity that is shown is an entity of its document, and nothing inside it is derived. -/
theorem kind?_entity : t.kind? entity.node.node = some .logicalEntity ∧
    ∀ a, t.parent? a = some entity.node.node → t.isDerived a = false := by
  obtain ⟨hkind, t', ht', hfits, -⟩ := h.current.named_of_mem_generalScope hplain hd hentity
  cases ht.symm.trans ht'
  have hkind' := hfits.kind_eq
  rw [(NodeKind.isSubtypeOf_iff_eq (by decide)).1 hkind] at hkind'
  refine ⟨hkind', fun a ha => Bool.eq_false_iff.2 fun hderived => ?_⟩
  obtain ⟨k, hk, hview⟩ := h.current.isEntityView_of_isDerived ht hderived ha
  cases hkind'.symm.trans hk
  cases hview

variable (hexported : ∃ y ∈ s.index.all, y.node = entity.node)
include hexported

/-- An exported entity that is shown is named by one of its identities. -/
theorem identifies_entity : entity.Identifies s.registry t := by
  obtain ⟨-, t', ht', -, hname⟩ := h.current.named_of_mem_generalScope hplain hd hentity
  cases ht.symm.trans ht'
  obtain ⟨y, hy, hnode⟩ := hexported
  rw [← hnode] at ht
  have hwritten := h.current.isDerived_of_mem_all hy ht
  rw [hnode] at hwritten
  rwa [Description.NamedIn, hwritten] at hname

/-- An attribute of an exported entity that is shown is shown under its identifier behind the name
of the entity. -/
theorem exists_member {a : NodeId} (ha : a ∈ t.attributesOf entity.node.node) {own : String}
    (hown : t.ownId? a = some own) (m : NodeId) :
    ∃ x ∈ (s.resolver.generalScope d m .logicalAttribute).elements,
      x.name = Name.qualify entity.name own ∧ x.node = t.ptr a ∧ x.InsideOf entity t := by
  obtain ⟨hkind, hwritten⟩ := h.kind?_entity hplain hd hentity ht
  have hidentifies := h.identifies_entity hplain hd hentity ht hexported
  have htree := h.current.isTree ht
  obtain ⟨hchild, k, hk, hsubtype⟩ := Document.mem_attributesOf.1 ha
  have hparent := htree.parent?_of_mem _ _ hchild
  have hne : k ≠ .dataModel := by
    rintro rfl
    cases hsubtype
  obtain ⟨y, hy, hnode⟩ := hexported
  obtain ⟨owner, hmodel⟩ := h.exists_dataModel hy
  obtain ⟨t', ht', -, howner⟩ := h.current.of_mem_all hy
  rw [hnode, ht] at ht'
  cases ht'
  rw [hmodel] at howner
  have hmem := h.mem_all ht (hwritten a hparent) (hidentifies.mem_published htree howner.symm hkind
    (by decide) hparent hk hne (NodeKind.isIdentified_of_isSubtypeOf hsubtype rfl) hown)
  have hid : t.id = entity.node.document := h.current.workspace.id_eq _ t ht
  exact ⟨_, h.current.mem_generalScope_of_form_eq hplain hd hentity hmem hid rfl m hsubtype, rfl,
    rfl, hid, hchild, Name.isInside_qualify _ _⟩

/-- Where the attributes of an exported entity have distinct identifiers without separators, a
member that is shown is known by its name. -/
theorem node_eq_of_insideOf {m : NodeId} {x : Description}
    (hx : x ∈ (s.resolver.generalScope d m .logicalAttribute).elements)
    (hinside : x.InsideOf entity t) (hattributes : t.PlainAttributes entity.node.node) {a : NodeId}
    (ha : a ∈ t.attributesOf entity.node.node) {own : String} (hown : t.ownId? a = some own)
    (hname : x.name = Name.qualify entity.name own) : x.node = t.ptr a := by
  obtain ⟨hkind, hwritten⟩ := h.kind?_entity hplain hd hentity ht
  have hidentifies := h.identifies_entity hplain hd hentity ht hexported
  have htree := h.current.isTree ht
  obtain ⟨hsubtype, t', ht', hfits, hnamed⟩ := h.current.named_of_mem_generalScope hplain hd hx
  rw [hinside.document_eq, ht] at ht'
  cases ht'
  have hparent := htree.parent?_of_mem _ _ hinside.mem_children
  rw [Description.NamedIn, hwritten _ hparent] at hnamed
  have hne : x.kind ≠ .dataModel := fun heq => by
    rw [heq] at hsubtype
    cases hsubtype
  obtain ⟨l, hl⟩ := hidentifies.exists_localId? hkind (by decide)
  obtain ⟨outer, own', hown', hname'⟩ :=
    Description.Identifies.exists_name_eq_qualify hnamed htree hfits.kind_eq hne hparent hl
  have hmem : x.node.node ∈ t.attributesOf entity.node.node :=
    Document.mem_attributesOf.2 ⟨hinside.mem_children, _, hfits.kind_eq, hsubtype⟩
  obtain ⟨-, rfl⟩ := Name.qualify_inj_last (hattributes.separator_notMem _ hmem _ hown')
    (hattributes.separator_notMem _ ha _ hown) (hname'.symm.trans hname)
  have hnode := eq_of_nodup_filterMap hattributes.nodup hmem ha hown' hown
  rw [Document.ptr, ← hnode, ← hfits.document_eq]

end Snapshot.Publishes

namespace Session

/-- After any sound actions and a rebuild, take a relationship attribute and the relationship around
it. If the reference of the relationship on a side means nothing, the attribute is shown nothing on
that side. If it means an entity, whatever the attribute is shown there is inside the entity, under
a name that the name of the entity qualifies. And if the entity is exported, every attribute of it
that has an identifier leads, behind the name of the entity, to such a node, and to itself if the
attributes of the entity have distinct identifiers without separators. -/
theorem scope_relationshipAttribute_members {s : Session} (hs : s.Reachable) {ptr : NodePtr}
    {d : Document} (hd : s.host.rebuild.workspace.get? ptr.document = some d)
    (hkind : d.kind? ptr.node = some .relationshipAttribute) {relationship : NodeId}
    (haround : d.ancestorOfKind? ptr.node .relationship = some relationship) {side : Property}
    (hside : side = .parent ∨ side = .child) (i : Nat) :
    (s.host.rebuild.resolve (.ofNode (d.ptr relationship) side) = none →
      s.host.rebuild.scope (.ofNode ptr side i) = .empty) ∧
    ∀ entity, s.host.rebuild.resolve (.ofNode (d.ptr relationship) side) = some entity →
      ∃ t, s.host.rebuild.workspace.get? entity.node.document = some t ∧
        t.kind? entity.node.node = some .logicalEntity ∧
        (∀ x ∈ (s.host.rebuild.scope (.ofNode ptr side i)).elements, x.InsideOf entity t) ∧
        ((∃ y ∈ s.host.rebuild.index.all, y.node = entity.node) →
          ∀ a ∈ t.attributesOf entity.node.node, ∀ own, t.ownId? a = some own →
            ∃ x, s.host.rebuild.resolveText (.ofNode ptr side i) (Name.qualify entity.name own) =
                some x ∧ x.InsideOf entity t ∧
              (t.PlainAttributes entity.node.node → x.node = t.ptr a)) := by
  have hplain := hs.current_plain
  have hpublishes := hs.publishes
  have hcurrent := hpublishes.current
  have hown := hcurrent.get?_id hd
  have hscope := Snapshot.scope_relationshipAttribute hcurrent hd hkind haround hside i
  refine ⟨fun hnone => by rw [hscope, hnone], fun entity hresolve => ?_⟩
  have hentity : entity ∈
      (s.host.rebuild.resolver.generalScope d relationship .logicalEntity).elements := by
    have hrelationship : d.kind? relationship = some .relationship := by
      simpa using List.find?_some haround
    rw [← Snapshot.bind_relationship hown hrelationship hside] at hresolve
    obtain ⟨ref, -, hlookup⟩ := Option.bind_eq_some_iff.1 hresolve
    exact (Scope.of_lookup hlookup).1
  obtain ⟨-, t, ht, -⟩ := hcurrent.named_of_mem_generalScope hplain hown hentity
  have hmember := fun x => Snapshot.isMember_iff (x := x) ht (hcurrent.isTree ht)
  rw [hresolve] at hscope
  have hshown : ∀ x, x ∈ (s.host.rebuild.scope (.ofNode ptr side i)).elements ↔
      x ∈ (s.host.rebuild.resolver.generalScope d ptr.node .logicalAttribute).elements ∧
        x.InsideOf entity t := fun x => by
    rw [hscope, Scope.elements_filter, List.mem_filter, hmember]
  refine ⟨t, ht, (hpublishes.kind?_entity hplain hown hentity ht).1,
    fun x hx => ((hshown x).1 hx).2, fun hexported a ha own hownId => ?_⟩
  obtain ⟨z, hz, hname, -, hinside⟩ :=
    hpublishes.exists_member hplain hown hentity ht hexported ha hownId ptr.node
  obtain ⟨x, hlookup⟩ := Scope.exists_lookup_of_mem ((hshown z).2 ⟨hz, hinside⟩)
  rw [hname] at hlookup
  obtain ⟨hx, hxname⟩ := Scope.of_lookup hlookup
  obtain ⟨hx, hxinside⟩ := (hshown x).1 hx
  exact ⟨x, hlookup, hxinside, fun hattributes => hpublishes.node_eq_of_insideOf hplain hown
    hentity ht hexported hx hxinside hattributes ha hownId hxname⟩

/-- A session in which an entity with an attribute is related twice: in its own data model, under
its Local ID, and in a dependent one, under its Global ID. -/
def related : Session :=
  (start
    { models := [
        { id := ⟨"core"⟩, referenceName := "core", root := "file:///core" },
        { id := ⟨"shop"⟩, referenceName := "shop", root := "file:///shop"
          dependencies := [⟨⟨"core"⟩, .any⟩] }] }).run
    [.set (.ofDrafts "file:///core/a.cm"
        [(.root, { kind := .logicalEntity, id := some "Party" }),
          (⟨1⟩, { kind := .logicalAttribute, id := some "Name" }),
          (.root, { kind := .relationship, id := some "Knows", references := [(.child, "Party")] }),
          (⟨3⟩, { kind := .relationshipAttribute })]),
      .set (.ofDrafts "file:///shop/b.cm"
        [(.root,
            { kind := .relationship, id := some "Owns"
              references := [(.parent, "core.Party")] }),
          (⟨1⟩, { kind := .relationshipAttribute })])]

/-- It is reachable. -/
theorem reachable_related : related.Reachable := by
  refine ⟨_, _, fun a ha => ?_, rfl⟩
  simp only [List.mem_cons, List.not_mem_nil, or_false] at ha
  rcases ha with rfl | rfl
  · exact drafted_ofDrafts (by decide)
  · exact drafted_ofDrafts (by decide)

/-- Each relationship attribute finds the attribute of the entity behind the name that its
relationship gives the entity. -/
theorem scope_relationshipAttribute_members_related :
    (related.host.rebuild.resolveText (.ofNode ⟨⟨0⟩, ⟨4⟩⟩ .child) "Party.Name").map (·.node) =
        some ⟨⟨0⟩, ⟨2⟩⟩ ∧
      (related.host.rebuild.resolveText (.ofNode ⟨⟨1⟩, ⟨2⟩⟩ .parent) "core.Party.Name").map
        (·.node) = some ⟨⟨0⟩, ⟨2⟩⟩ := by
  obtain ⟨d, hd⟩ := Option.isSome_iff_exists.1
    (show (related.host.rebuild.workspace.get? ⟨0⟩).isSome by decide +kernel)
  obtain ⟨e, he⟩ := Option.isSome_iff_exists.1
    (show (related.host.rebuild.workspace.get? ⟨1⟩).isSome by decide +kernel)
  have hcore : (related.host.rebuild.workspace.get? ⟨0⟩).map (fun d =>
      (d.id, d.kind? ⟨4⟩, d.ancestorOfKind? ⟨4⟩ .relationship)) =
        some (⟨0⟩, some .relationshipAttribute, some ⟨3⟩) := by
    decide +kernel
  have hparty : (related.host.rebuild.workspace.get? ⟨0⟩).map (fun d =>
      (d.attributesOf ⟨1⟩, d.ownId? ⟨2⟩)) = some ([⟨2⟩], some "Name") := by
    decide +kernel
  have hshop : (related.host.rebuild.workspace.get? ⟨1⟩).map (fun d =>
      (d.id, d.kind? ⟨2⟩, d.ancestorOfKind? ⟨2⟩ .relationship)) =
        some (⟨1⟩, some .relationshipAttribute, some ⟨1⟩) := by
    decide +kernel
  simp only [hd, he, Option.map_some, Option.some.injEq, Prod.mk.injEq] at hcore hparty hshop
  obtain ⟨hid, hkind, haround⟩ := hcore
  obtain ⟨hattributes, hown⟩ := hparty
  obtain ⟨hid', hkind', haround'⟩ := hshop
  have hplain : d.PlainAttributes ⟨1⟩ :=
    ⟨by simp [hattributes, hown], fun a ha own ha' => by
      rw [hattributes, List.mem_singleton] at ha
      rw [ha, hown] at ha'
      rw [← Option.some.inj ha']
      decide⟩
  obtain ⟨x, hx, hxname, hxnode⟩ : ∃ x, related.host.rebuild.resolve
      (.ofNode ⟨⟨0⟩, ⟨3⟩⟩ .child) = some x ∧ x.name = "Party" ∧ x.node = ⟨⟨0⟩, ⟨1⟩⟩ := by
    decide +kernel
  obtain ⟨y, hy, hyname, hynode⟩ : ∃ y, related.host.rebuild.resolve
      (.ofNode ⟨⟨1⟩, ⟨1⟩⟩ .parent) = some y ∧ y.name = "core.Party" ∧ y.node = ⟨⟨0⟩, ⟨1⟩⟩ := by
    decide +kernel
  have hexported : ∃ z ∈ related.host.rebuild.index.all, z.node = ⟨⟨0⟩, ⟨1⟩⟩ := by
    decide +kernel
  obtain ⟨t, ht, -, -, hlocal⟩ := (@scope_relationshipAttribute_members _ reachable_related
    ⟨⟨0⟩, ⟨4⟩⟩ d hd hkind _ haround .child (Or.inr rfl) 0).2 x (by rw [Document.ptr, hid]; exact hx)
  obtain ⟨t', ht', -, -, hglobal⟩ := (@scope_relationshipAttribute_members _ reachable_related
    ⟨⟨1⟩, ⟨2⟩⟩ e he hkind' _ haround' .parent (Or.inl rfl) 0).2 y
      (by rw [Document.ptr, hid']; exact hy)
  rw [hxnode, hxname] at hlocal
  rw [hynode, hyname] at hglobal
  rw [hxnode, hd] at ht
  rw [hynode, hd] at ht'
  cases ht
  cases ht'
  obtain ⟨found, hfound, -, hnode⟩ := hlocal hexported ⟨2⟩ (by simp [hattributes]) "Name" hown
  obtain ⟨found', hfound', -, hnode'⟩ := hglobal hexported ⟨2⟩ (by simp [hattributes]) "Name" hown
  have hname : Name.qualify "Party" "Name" = "Party.Name" := by decide +kernel
  have hname' : Name.qualify "core.Party" "Name" = "core.Party.Name" := by decide +kernel
  rw [← hname, ← hname', hfound, hfound', Option.map_some, Option.map_some, hnode hplain,
    hnode' hplain, Document.ptr, hid]
  exact ⟨rfl, rfl⟩

end Session

end ModelBinding
