import ModelBinding.Proofs.Findings
import ModelBinding.Proofs.Rebinding

/-!
# Following a finding

A reference that means nothing is reported as invisible if another data model, which
cannot be referred to, exports a Global ID that reads like it. The finding points to the
first such export and advises a dependency on its data model. Whoever follows the advice
binds the reference to that very node (`resolve_of_invisible`): around the reference and in
its own data model nothing changes, and whatever else comes into view with the dependency
was hidden before, so none of it stands before the first of all that was hidden.
-/

namespace ModelBinding

namespace Resolver

variable {r : Resolver} {d : Document}

/-- What is hidden from a document of a data model: Global IDs of other data models that it cannot
refer to. -/
theorem isHidden_iff {viewer : DataModelId} (hd : r.registry.modelOf? d = some viewer)
    {text : String} {x : Description} :
    r.isHidden d text x = true ↔ x.form = .globalForm ∧ x.name = text ∧ ∃ m, x.dataModel = some m ∧
      m ≠ viewer ∧ r.registry.isVisible viewer m true = false := by
  simp [isHidden, hd, Description.isGlobal, Option.any_eq_true, and_assoc]

/-- A finding about something invisible was made at a reference that means nothing, and points to
the first export that is hidden under its text. -/
theorem exists_hidden_of_checkPlace {n : NodeId} {p : Property} {i : Nat} {x : Diagnostic}
    (hx : r.checkPlace d (n, p, i) = some x) (hcode : x.code = some Diagnostic.invisibleCode) :
    ∃ node ref target e, d.node? n = some node ∧ node.referenceAt? p i = some ref ∧
      node.kind.referenceTarget? p = some target ∧ r.resolve (d.ptr n) p i = none ∧
      (r.index.globalScope target).find? (r.isHidden d ref.text) = some e ∧
      x.related.map (·.node) = [e.node] := by
  obtain ⟨node, hnode, hx⟩ := Option.bind_eq_some_iff.1 hx
  obtain ⟨ref, href, hx⟩ := Option.bind_eq_some_iff.1 hx
  unfold checkReference at hx
  split at hx
  · cases hx
  · split at hx
    · cases hx
    · rename_i hnone
      have hexplain := Option.some.inj hx
      unfold explain at hexplain
      split at hexplain
      · rename_i found owner hhidden
        obtain ⟨target, htarget, hhidden⟩ := Option.bind_eq_some_iff.1 hhidden
        obtain ⟨e, he, hhidden⟩ := Option.bind_eq_some_iff.1 hhidden
        obtain ⟨m, -, hfound⟩ := Option.map_eq_some_iff.1 hhidden
        obtain ⟨rfl, rfl⟩ := Prod.mk.inj hfound
        subst hexplain
        exact ⟨node, ref, target, e, hnode, href, htarget, by simpa using hnone, he, rfl⟩
      · -- A finding about something unknown has another code.
        rw [← hexplain] at hcode
        simp [Diagnostic.unresolved, Diagnostic.unresolvedCode, Diagnostic.invisibleCode] at hcode

end Resolver

namespace Snapshot

variable {s t : Snapshot}

/-- Findings about something invisible were made at the references of the document. -/
theorem Current.exists_checkPlace (h : s.Current Document.WellFormed) {uri : String} {d : Document}
    (hd : s.workspace.at? uri = some d) {x : Diagnostic} (hx : x ∈ s.diagnostics uri)
    (hcode : x.code = some Diagnostic.invisibleCode) :
    ∃ n p i, s.resolver.checkPlace d (n, p, i) = some x := by
  obtain ⟨id, -, hget⟩ := Option.bind_eq_some_iff.1 hd
  have hderived : ∀ n, d.isDerived n = true → ∀ node, d.node? n = some node →
      node.references = [] := fun n hn node => h.references_of_isDerived hget hn
  have hmem : x ∈ s.resolver.checkReferences d := by
    rw [← filter_diagnostics hd]
    exact List.mem_filter.2 ⟨hx, by simp [Diagnostic.isAboutReference, hcode]⟩
  rw [Resolver.checkReferences_eq _ hderived] at hmem
  obtain ⟨⟨n, p, i⟩, -, hplace⟩ := List.mem_filterMap.1 hmem
  exact ⟨n, p, i, hplace⟩

/-- What is found among the exports of a kind is exported. -/
theorem Current.mem_all_of_find? {ok : Document → Prop} (h : s.Current ok) {k : NodeKind}
    {q : Description → Bool} {e : Description}
    (he : (s.resolver.index.globalScope k).find? q = some e) : e ∈ s.index.all :=
  (h.index.mem_globalScope_iff.1 (List.mem_of_find?_eq_some he)).1

/-- What was hidden first is what a text means once its data model has come into view, if the text
meant nothing before. -/
theorem WidensTo.findBehind_of_hidden (H : s.WidensTo t) {target : NodeKind}
    (htarget : target.isIdentified = true) {d : Document} {viewer owner : DataModelId}
    (hmodel : s.registry.modelOf? d = some viewer) {near : List Description} {text : String}
    (hnone : s.resolver.findBehind near viewer target text = none) {e : Description}
    (he : (s.resolver.index.globalScope target).find? (s.resolver.isHidden d text) = some e)
    (howner : e.dataModel = some owner) (hvisible : t.registry.isVisible viewer owner true = true) :
    t.resolver.findBehind near viewer target text = some e := by
  obtain ⟨hnear, hbehind⟩ := Option.or_eq_none_iff.1 hnone
  obtain ⟨hform, hname, m, hm, hne, -⟩ :=
    (Resolver.isHidden_iff (r := s.resolver) hmodel).1 (List.find?_some he)
  rw [howner] at hm
  cases hm
  rw [Resolver.findBehind, hnear, Option.none_or, H.globalScope_eq htarget, List.find?_filter]
  refine find?_eq_some_of_imp he ?_ fun y hy hshown => ?_
  · have hshown :=
      Resolver.isDependency_iff (r := t.resolver).2 ⟨hform, owner, howner, hne, hvisible⟩
    simp [hshown, hname]
  · -- What is in view now and bears the name was hidden, since nothing in view did.
    obtain ⟨hshown, hyname⟩ : t.resolver.isDependency viewer y = true ∧ y.name = text := by
      simpa using hshown
    obtain ⟨hyform, q, hq, hqne, -⟩ := Resolver.isDependency_iff.1 hshown
    refine (Resolver.isHidden_iff (r := s.resolver) hmodel).2 ⟨hyform, hyname, q, hq, hqne, ?_⟩
    by_contra hseen
    have hbefore : s.resolver.isDependency viewer y = true :=
      Resolver.isDependency_iff.2 ⟨hyform, q, hq, hqne, by simpa using hseen⟩
    have hnot := List.find?_eq_none.1 hbehind y (List.mem_filter.2 ⟨hy, hbefore⟩)
    exact hnot (by simp [hyname])

section Place

variable {d : Document} {viewer : DataModelId} {n : NodeId} {p : Property} {i : Nat}
  {x : Diagnostic} (hmodel : s.registry.modelOf? d = some viewer)
  (hplace : s.resolver.checkPlace d (n, p, i) = some x)
  (hcode : x.code = some Diagnostic.invisibleCode)
include hmodel hplace hcode

/-- A finding about something invisible points to one node, of a document that a data model owns. -/
theorem Current.exists_target (h : s.Current Document.WellFormed) :
    ∃ target u owner, x.related.map (·.node) = [target] ∧
      s.workspace.get? target.document = some u ∧ s.registry.modelOf? u = some owner := by
  obtain ⟨_, ref, k, e, -, -, -, -, he, hrelated⟩ :=
    Resolver.exists_hidden_of_checkPlace hplace hcode
  obtain ⟨-, -, owner, howner, -⟩ :=
    (Resolver.isHidden_iff (r := s.resolver) hmodel).1 (List.find?_some he)
  obtain ⟨u, hu, -, hdataModel⟩ := h.of_mem_all (h.mem_all_of_find? he)
  exact ⟨e.node, u, owner, hrelated, hu, hdataModel.symm.trans howner⟩

/-- A reference at which the finding was made means the node that it points to, once the data model
of the node has come into view. -/
theorem WidensTo.resolve_of_checkPlace (H : s.WidensTo t) (hd : s.workspace.get? d.id = some d)
    {node : Node} (hnode : d.node? n = some node) (hgeneral : node.kind.seesGeneralScope p = true)
    {k : NodeKind} (htarget : node.kind.referenceTarget? p = some k)
    (hattribute : k.isSubtypeOf .logicalAttribute = false) {target : NodePtr}
    (hrelated : x.related.map (·.node) = [target]) {u : Document}
    (hu : s.workspace.get? target.document = some u) {owner : DataModelId}
    (howner : s.registry.modelOf? u = some owner)
    (hvisible : t.registry.isVisible viewer owner true = true) :
    (t.resolve (.ofNode (d.ptr n) p i)).map (·.node) = some target := by
  obtain ⟨node', ref, k', e, hnode', href, htarget', hnone, he, hrelated'⟩ :=
    Resolver.exists_hidden_of_checkPlace hplace hcode
  rw [hnode] at hnode'
  cases hnode'
  rw [htarget] at htarget'
  cases htarget'
  rw [hrelated] at hrelated'
  cases hrelated'
  obtain ⟨u', hu', -, hdataModel⟩ := H.left.of_mem_all (H.left.mem_all_of_find? he)
  rw [hu] at hu'
  cases hu'
  have hsite : s.siteAt? (.ofNode (d.ptr n) p i) = some (d, node) := by
    simp [siteAt?, place, Site.ofNode, Resolver.locate, resolver, Document.ptr, hd, hnode]
  obtain ⟨near, (hbefore : _ = (node.reading p).2[i]?.bind _),
    (hafter : _ = (node.reading p).2[i]?.bind _)⟩ :=
    H.exists_near (fun _ hc => by cases hc) (fun _ hc => by cases hc) hsite hmodel hgeneral htarget
      hattribute
  have htext : (node.reading p).2[i]? = some ref.text := by
    rw [Node.reading, List.getElem?_map, ← Node.referenceAt?, href, Option.map_some]
  rw [htext, Option.bind_some] at hbefore hafter
  have hidentified := NodeKind.isIdentified_of_referenceTarget? htarget
  rw [hafter, H.findBehind_of_hidden hidentified hmodel (hbefore.symm.trans hnone) he
    (hdataModel.trans howner) hvisible, Option.map_some]

end Place

end Snapshot

namespace Session

/-- After any sound actions and a rebuild, a finding of a document that says that something is
invisible points to one node, of a document that a data model owns, and was made at references of
the document. Each of these that is of the general case and not to attributes means exactly that
node as soon as the data model of the document declares a dependency more, on the data model of the
node in versions that will do. The data models must have identifiers of their own, as registering
them sees to. -/
theorem resolve_of_invisible {s : Session} (hs : s.Reachable)
    (hdistinct : s.host.registry.Distinct) {m : DataModel}
    (hm : s.host.registry.get? m.id = some m) {uri : String} {d : Document}
    (hd : s.host.rebuild.workspace.at? uri = some d)
    (hmodel : s.host.registry.modelOf? d = some m.id) {x : Diagnostic}
    (hx : x ∈ s.host.rebuild.diagnostics uri)
    (hcode : x.code = some Diagnostic.invisibleCode) :
    ∃ target t owner, x.related.map (·.node) = [target] ∧
      s.host.rebuild.workspace.get? target.document = some t ∧
      s.host.registry.modelOf? t = some owner ∧
      (∃ n p i, s.host.rebuild.resolver.checkPlace d (n, p, i) = some x) ∧
      ∀ n p i node k, s.host.rebuild.resolver.checkPlace d (n, p, i) = some x →
        d.node? n = some node → node.kind.seesGeneralScope p = true →
        node.kind.referenceTarget? p = some k → k.isSubtypeOf .logicalAttribute = false →
        ∀ front back requirement r', m.dependencies = front ++ back →
          (s.host.registry.get? owner).any (fun found => requirement.admits found.version) = true →
          s.host.registry.update
              { m with dependencies := front ++ ⟨owner, requirement⟩ :: back } = .ok r' →
          ((s.host.rebuild.setRegistry r').rebuild.resolve (.ofNode (d.ptr n) p i)).map (·.node) =
            some target := by
  have hcurrent := hs.current
  obtain ⟨-, -, -, hregistry⟩ := s.host.frame_rebuild
  rw [← hregistry] at hmodel
  obtain ⟨id, -, hget⟩ := Option.bind_eq_some_iff.1 hd
  rw [← hcurrent.workspace.id_eq id d hget] at hget
  obtain ⟨n, p, i, hplace⟩ := hcurrent.exists_checkPlace hd hx hcode
  obtain ⟨target, u, owner, hrelated, hu, howner⟩ :=
    hcurrent.exists_target hmodel hplace hcode
  refine ⟨target, u, owner, hrelated, hu, hregistry ▸ howner, ⟨n, p, i, hplace⟩, ?_⟩
  intro n p i node k hplace hnode hgeneral htarget hattribute front back requirement r' hdeps
    hadmits hr
  have hwidens := hs.widensTo (Registry.widens_of_update hdistinct hm hdeps hr)
  have hvisible : r'.isVisible m.id owner true = true := by
    refine Registry.isVisible_target_of_update hm hr ?_
    simpa [Registry.counts] using hadmits
  have hreplaced : (s.host.rebuild.setRegistry r').rebuild.registry = r' :=
    (Host.frame_rebuild _).2.2.2.trans
      (congrArg Snapshot.registry (s.host.rebuild.toSnapshot_setRegistry r') :)
  rw [← hreplaced] at hvisible
  exact hwidens.resolve_of_checkPlace hmodel hplace hcode hget hnode hgeneral htarget hattribute
    hrelated hu howner hvisible

/-- A session in which two data models of one name declare an entity of one name, and a third one
that no longer depends on either of them refers to it. -/
def strangers : Session := rivals.step (.setRegistry (rivalRegistry []))

/-- It is reachable. -/
theorem reachable_strangers : strangers.Reachable := by
  have hsound : (Action.setRegistry (rivalRegistry [])).Sound := trivial
  exact reachable_rivals.step hsound

/-- The finding points to the first of the two entities, and with a dependency on its data model the
reference means it. -/
theorem resolve_of_invisible_strangers :
    ∃ x ∈ strangers.host.rebuild.diagnostics "file:///shop/r.cm",
      x.code = some Diagnostic.invisibleCode ∧ x.related.map (·.node) = [⟨⟨0⟩, ⟨1⟩⟩] ∧
        ((strangers.host.rebuild.setRegistry (rivalRegistry [⟨⟨"old"⟩, .any⟩])).rebuild.resolve
          (.ofNode ⟨⟨2⟩, ⟨1⟩⟩ .parent)).map (·.node) = some ⟨⟨0⟩, ⟨1⟩⟩ := by
  have hfound : (strangers.host.rebuild.workspace.at? "file:///shop/r.cm").any (fun d =>
      d.id = ⟨2⟩ && strangers.host.registry.modelOf? d = some ⟨"shop"⟩ &&
        d.kind? ⟨1⟩ = some .relationship &&
        (strangers.host.rebuild.resolver.checkPlace d (⟨1⟩, .parent, 0)).any fun x =>
          x.code = some Diagnostic.invisibleCode && x.related.map (·.node) = [⟨⟨0⟩, ⟨1⟩⟩] &&
            x ∈ strangers.host.rebuild.diagnostics "file:///shop/r.cm") = true := by
    decide +kernel
  have howned : (strangers.host.rebuild.workspace.get? ⟨0⟩).map strangers.host.registry.modelOf? =
      some (some ⟨"old"⟩) := by
    decide +kernel
  have hm : strangers.host.registry.get? (shopModel []).id = some (shopModel []) := by
    decide +kernel
  have hr : strangers.host.registry.update
      { shopModel [] with dependencies := [] ++ ⟨⟨"old"⟩, .any⟩ :: [] } =
      .ok (rivalRegistry [⟨⟨"old"⟩, .any⟩]) := rfl
  obtain ⟨d, hd, hfound⟩ := (Option.any_eq_true ..).1 hfound
  simp only [Bool.and_eq_true, decide_eq_true_eq] at hfound
  obtain ⟨⟨⟨hid, hmodel⟩, hkind⟩, hfound⟩ := hfound
  obtain ⟨x, hplace, hfound⟩ := (Option.any_eq_true ..).1 hfound
  simp only [Bool.and_eq_true, decide_eq_true_eq] at hfound
  obtain ⟨⟨hcode, hrelated⟩, hx⟩ := hfound
  obtain ⟨node, hnode, hkind⟩ := Option.map_eq_some_iff.1 hkind
  obtain ⟨target, t, owner, htarget, ht, howner, -, hresolve⟩ :=
    resolve_of_invisible reachable_strangers (by decide +kernel) hm hd hmodel hx hcode
  rw [hrelated] at htarget
  cases htarget
  rw [ht, Option.map_some, howner] at howned
  cases howned
  have hptr : d.ptr ⟨1⟩ = ⟨⟨2⟩, ⟨1⟩⟩ := by rw [Document.ptr, hid]
  have htarget : node.kind.referenceTarget? .parent = some .logicalEntity := by
    rw [hkind]
    rfl
  refine ⟨x, hx, hcode, hrelated, ?_⟩
  rw [← hptr]
  exact hresolve ⟨1⟩ .parent 0 node .logicalEntity hplace hnode (by rw [hkind]; rfl) htarget
    (by decide) [] [] .any _ rfl (by decide +kernel) hr

end Session

end ModelBinding
