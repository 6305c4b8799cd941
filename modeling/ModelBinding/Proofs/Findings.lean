import ModelBinding.Analysis
import ModelBinding.Proofs.Coherence
import ModelBinding.Proofs.Numbering

/-!
# Linking and findings agree

Linking goes through the references of a document property by property and remembers
what it finds; the check goes through them in the order in which they were written and
remembers nothing. Yet they agree: linking counts every reference of the document once
(`Snapshot.Coherent.count_link`), and the check finds something at a reference exactly
when looking it up answers nothing and it is no binding expression
(`Resolver.checkReferences_eq`), whatever was looked up before (`Session.findings_agree`).
-/

namespace ModelBinding

namespace Diagnostic

/-- Whether a finding is about a reference that means nothing. -/
def isAboutReference (x : Diagnostic) : Bool :=
  x.code = some unresolvedCode || x.code = some invisibleCode

@[simp] theorem isAboutReference_unresolved (node : NodePtr) (kind : NodeKind) (p : Property)
    (text : String) : (unresolved node kind p text).isAboutReference = true := by
  simp [isAboutReference, unresolved]

@[simp] theorem isAboutReference_invisible (node : NodePtr) (p : Property) (text : String)
    (target : NodePtr) (owner : DataModelId) :
    (invisible node p text target owner).isAboutReference = true := by
  simp [isAboutReference, invisible]

@[simp] theorem isAboutReference_duplicate (node : NodePtr) (name : String) (first : NodePtr) :
    (duplicate node name first).isAboutReference = false := by
  simp [isAboutReference, duplicate, duplicateCode, unresolvedCode, invisibleCode]

end Diagnostic

/-- The answer that looking up the reference at a place of a document gives. -/
def Snapshot.answerAt (s : Snapshot) (d : Document) (place : NodeId × Property × Nat) :
    Option NodePtr :=
  (s.resolveReference (d.ptr place.1) place.2.1 place.2.2).1

/-- Whether a finding says of the reference at a place of a document that it means nothing. -/
def Snapshot.Reports (s : Snapshot) (d : Document) (place : NodeId × Property × Nat)
    (x : Diagnostic) : Prop :=
  x.node = d.ptr place.1 ∧ x.property = some place.2.1 ∧
    ∃ node ref, d.node? place.1 = some node ∧ node.referenceAt? place.2.1 place.2.2 = some ref ∧
      x = s.resolver.explain d place.1 node.kind place.2.1 ref.text

namespace Resolver

variable {r : Resolver} {d : Document}

/-- What is explained is a finding about the reference. -/
theorem of_explain (r : Resolver) (d : Document) (n : NodeId) (kind : NodeKind) (p : Property)
    (text : String) : (r.explain d n kind p text).node = d.ptr n ∧
      (r.explain d n kind p text).property = some p ∧
      (r.explain d n kind p text).isAboutReference = true := by
  unfold explain
  split
  · exact ⟨rfl, rfl, Diagnostic.isAboutReference_invisible ..⟩
  · exact ⟨rfl, rfl, Diagnostic.isAboutReference_unresolved ..⟩

/-- Binding expressions mean nothing. -/
theorem resolve_expression {n : NodeId} {id : DocumentId} (hd : r.document? id = some d)
    (hkind : d.kind? n = some .attributeMapping) (i : Nat) :
    r.resolve ⟨id, n⟩ .expression i = none := by
  obtain ⟨node, hnode, hkind⟩ := Option.map_eq_some_iff.1 hkind
  have htarget : node.kind.referenceTarget? .expression = some .sourceObjectAttribute := by
    rw [hkind]
    rfl
  have hscope : ∀ target, r.scopeOf d n node.kind .expression target = .empty := fun target => by
    rw [hkind]
    rfl
  simp only [resolve, resolveAt, scopeAt, locate, hd, hnode, htarget, hscope]
  cases node.referenceAt? .expression i <;> rfl

/-- The finding about the reference at a place, if there is one. -/
def checkPlace (r : Resolver) (d : Document) (place : NodeId × Property × Nat) :
    Option Diagnostic :=
  (d.node? place.1).bind fun node => (node.referenceAt? place.2.1 place.2.2).bind fun ref =>
    r.checkReference d place.1 node.kind place.2.1 place.2.2 ref.text

/-- The references of a node are checked place by place. -/
theorem checkNode_eq (r : Resolver) (d : Document) (n : NodeId) :
    r.checkNode d n = (d.placesAt n).filterMap (r.checkPlace d) := by
  unfold checkNode Document.placesAt
  cases hnode : d.node? n with
  | none => rfl
  | some node =>
    simp only [Option.map_some, Option.getD_some, Node.places, List.map_map, List.filterMap_map]
    refine List.filterMap_congr fun ref href => ?_
    have hat := Node.mem_numberedReferences_iff.1 href
    simp only [Function.comp_apply, checkPlace, hnode, Option.bind_some, hat]

/-- The references of a document are checked place by place. -/
theorem checkReferences_eq (r : Resolver) (hderived : ∀ n, d.isDerived n = true → ∀ node,
    d.node? n = some node → node.references = []) :
    r.checkReferences d = d.places.filterMap (r.checkPlace d) := by
  have hnodes : d.places = (d.walk.filter (!d.isDerived ·)).flatMap d.placesAt :=
    Document.flatMap_written (fun n => Document.WellFormed.placesAt_eq_nil hderived) d.walk
  rw [checkReferences, hnodes, List.filterMap_flatMap, funext (r.checkNode_eq d)]

/-- All findings of the check are about references. -/
theorem isAboutReference_of_mem_checkReferences {x : Diagnostic} (hx : x ∈ r.checkReferences d) :
    x.isAboutReference = true := by
  obtain ⟨n, -, hx⟩ := List.mem_flatMap.1 hx
  unfold checkNode at hx
  split at hx
  · cases hx
  · obtain ⟨ref, -, hx⟩ := List.mem_filterMap.1 hx
    unfold checkReference at hx
    split at hx
    · cases hx
    · split at hx
      · cases hx
      · rw [← Option.some.inj hx]
        exact (r.of_explain d _ _ _ _).2.2

end Resolver

/-- Findings about identifiers are not about references. -/
theorem Index.isAboutReference_of_mem_checkDuplicates {index : Index} {id : DocumentId}
    {x : Diagnostic} (hx : x ∈ index.checkDuplicates id) : x.isAboutReference = false := by
  obtain ⟨e, -, hx⟩ := List.mem_filterMap.1 hx
  obtain ⟨first, -, hx⟩ := Option.bind_eq_some_iff.1 hx
  split at hx
  · cases hx
  · rw [← Option.some.inj hx]
    exact Diagnostic.isAboutReference_duplicate ..

namespace Snapshot

variable {s : Snapshot}

/-- What is found about references is what the check of them finds. -/
theorem filter_diagnostics {uri : String} {d : Document} (hd : s.workspace.at? uri = some d) :
    (s.diagnostics uri).filter (·.isAboutReference) = s.resolver.checkReferences d := by
  have hreferences : (s.resolver.checkReferences d).filter (·.isAboutReference) =
      s.resolver.checkReferences d :=
    List.filter_eq_self.2 fun x hx => Resolver.isAboutReference_of_mem_checkReferences hx
  have hduplicates : (s.index.checkDuplicates d.id).filter (·.isAboutReference) = [] :=
    List.filter_eq_nil_iff.2 fun x hx => by simp [Index.isAboutReference_of_mem_checkDuplicates hx]
  simp only [diagnostics, hd]
  rw [List.filter_append, hreferences, hduplicates, List.append_nil]

/-- Linking counts the answers of the snapshot it starts from, though it remembers each of them
before it asks for the next. -/
theorem count_foldl_linkPlace (hs : s.workspace.ids.Nodup) (d : Document)
    (places : List (NodeId × Property × Nat)) {state : LinkSummary × Snapshot}
    (hsame : state.2.resetReferences = s.resetReferences) (hstate : state.2.Coherent)
    (hcoherent : s.Coherent) :
    (places.foldl (linkPlace d.id) state).1.resolved =
        state.1.resolved + places.countP (fun place => (s.answerAt d place).isSome) ∧
      (places.foldl (linkPlace d.id) state).1.unresolved =
        state.1.unresolved + places.countP (fun place => (s.answerAt d place).isNone) := by
  induction places generalizing state with
  | nil => exact ⟨rfl, rfl⟩
  | cons place places ih =>
    have hnodup : state.2.workspace.ids.Nodup := ids_eq_of_resetReferences_eq hsame ▸ hs
    have hanswer : (state.2.resolveReference ⟨d.id, place.1⟩ place.2.1 place.2.2).1 =
        s.answerAt d place := by
      rw [hstate.fst_resolveReference, answerAt, hcoherent.fst_resolveReference,
        resolve_of_resetReferences_eq hsame]
      rfl
    obtain ⟨hresolved, hunresolved⟩ := @ih (linkPlace d.id state place)
      ((resetReferences_resolveReference hnodup _ _ _).trans hsame)
      (hstate.resolveReference hnodup _ _ _)
    rw [List.foldl_cons, hresolved, hunresolved, List.countP_cons, List.countP_cons]
    simp only [linkPlace, hanswer, LinkSummary.count]
    cases s.answerAt d place with
    | none => exact ⟨rfl, by simp; omega⟩
    | some found => exact ⟨by simp; omega, rfl⟩

/-- Linking a document counts all its references, those that are answered and those that are
not. -/
theorem Coherent.count_link (h : s.Coherent) (hs : s.workspace.ids.Nodup) {uri : String}
    {d : Document} (hd : s.workspace.at? uri = some d) :
    (s.link uri).1.resolved = d.places.countP (fun place => (s.answerAt d place).isSome) ∧
      (s.link uri).1.unresolved = d.places.countP fun place => (s.answerAt d place).isNone := by
  obtain ⟨hresolved, hunresolved⟩ :=
    @count_foldl_linkPlace s hs d (referencePlaces d) ({}, s) rfl h h
  simp only [link, hd]
  rw [hresolved, hunresolved, ← d.perm_referencePlaces.countP_eq,
    ← d.perm_referencePlaces.countP_eq]
  exact ⟨Nat.zero_add _, Nat.zero_add _⟩

/-- Where a reference is, the check finds something exactly if looking it up answers nothing and it
is no binding expression. -/
theorem Coherent.checkPlace_cases (h : s.Coherent) {d : Document}
    {place : NodeId × Property × Nat} (hplace :
      ((d.node? place.1).bind (·.referenceAt? place.2.1 place.2.2)).isSome) :
    (((s.answerAt d place).isNone && !d.isExpression place) = false →
        s.resolver.checkPlace d place = none) ∧
      (((s.answerAt d place).isNone && !d.isExpression place) = true →
        ∃ x, s.resolver.checkPlace d place = some x ∧ s.Reports d place x) := by
  obtain ⟨n, p, i⟩ := place
  obtain ⟨ref, hbind⟩ := Option.isSome_iff_exists.1 hplace
  obtain ⟨node, hnode, href⟩ := Option.bind_eq_some_iff.1 hbind
  have hanswer : (s.answerAt d (n, p, i)).isNone =
      (s.resolver.resolve (d.ptr n) p i).isNone := by
    rw [answerAt, h.fst_resolveReference, Option.isNone_map]
    rfl
  have hexpression : d.isExpression (n, p, i) =
      decide (node.kind = .attributeMapping ∧ p = .expression) := by
    simp [Document.isExpression, Document.kind?, hnode]
  have hcheck : s.resolver.checkPlace d (n, p, i) =
      s.resolver.checkReference d n node.kind p i ref.text := by
    simp only [Resolver.checkPlace, hnode, Option.bind_some, href]
  rw [hanswer, hexpression, hcheck, Resolver.checkReference]
  by_cases hskip : node.kind = .attributeMapping ∧ p = .expression
  · simp [hskip]
  · rw [if_neg hskip]
    cases s.resolver.resolve (d.ptr n) p i with
    | some x => simp
    | none =>
      obtain ⟨hptr, hproperty, -⟩ := s.resolver.of_explain d n node.kind p ref.text
      refine ⟨fun hnot => by simp [hskip] at hnot, fun _ => ⟨_, rfl, hptr, hproperty, ?_⟩⟩
      exact ⟨node, ref, hnode, href, rfl⟩

/-- Looking up a binding expression answers nothing. -/
theorem Coherent.answerAt_of_isExpression (h : s.Coherent) {d : Document}
    (hd : s.workspace.get? d.id = some d) {place : NodeId × Property × Nat}
    (hexpression : d.isExpression place = true) : s.answerAt d place = none := by
  obtain ⟨n, p, i⟩ := place
  simp only [Document.isExpression, Bool.and_eq_true, decide_eq_true_eq] at hexpression
  obtain ⟨hkind, rfl⟩ := hexpression
  rw [answerAt, h.fst_resolveReference, Option.map_eq_none_iff]
  exact Resolver.resolve_expression hd hkind i

end Snapshot

/-- The derived nodes of a snapshot with nothing out of date hold no references. -/
theorem Snapshot.Current.references_of_isDerived {s : Snapshot} (h : s.Current Document.WellFormed)
    {id : DocumentId} {d : Document} (hd : s.workspace.get? id = some d) {n : NodeId}
    (hn : d.isDerived n = true) {node : Node} (hnode : d.node? n = some node) :
    node.references = [] := by
  obtain ⟨e, r, hok, -, -, hdocument, -, -⟩ := h.of_get? hd
  have hcopied := e.copied_builtWith r
  have hnode' := congrArg (·.node? n) hdocument
  simp only [Document.node?_resetReferences, hnode, Option.map_some] at hnode'
  obtain ⟨built, hbuilt, heq⟩ := Option.map_eq_some_iff.1 hnode'.symm
  have hlen : d.parsedLen = (e.prepare r.registry).size :=
    (congrArg Document.parsedLen hdocument :).trans
      (hcopied.parsedLen_eq.trans (e.parsedLen_prepare _ hok.parsedLen_le))
  have hle : (e.prepare r.registry).size ≤ n.index := by
    rw [← hlen]
    simpa [Document.isDerived] using hn
  have hlt := (Document.node?_isSome_iff _ n).1 (Option.isSome_of_mem hbuilt)
  obtain ⟨c, hc⟩ := hcopied.exists_mem_zipIdx hle hlt
  obtain ⟨g, hg⟩ := hcopied.node?_of_mem_zipIdx hc
  rw [show (⟨n.index⟩ : NodeId) = n from rfl, hbuilt] at hg
  have hreferences := Resolver.references_of_mem_copies_plan (List.fst_mem_of_mem_zipIdx hc)
  have hnil : node.resetReferences.references = [] := by
    rw [← heq, Option.some.inj hg, Node.resetReferences, hreferences]
    rfl
  simpa [Node.resetReferences] using hnil

namespace Session

/-- After any actions that set well-formed documents and a rebuild, linking a document counts each
of its references once, and those that it counts as meaning nothing are those that a finding is
about and the binding expressions. Reference by reference, in the order in which they were written,
there is a finding exactly where looking up the reference answers nothing and it is no binding
expression. -/
theorem findings_agree (registry : Registry) {actions : List Action}
    (hactions : ∀ a ∈ actions, a.Sets Document.WellFormed) {s : Session}
    (hs : s = (start registry).run actions) {uri : String} {d : Document}
    (hd : s.host.rebuild.workspace.at? uri = some d) :
    (s.host.rebuild.link uri).1.resolved + (s.host.rebuild.link uri).1.unresolved =
        d.referenceCount ∧
      ((s.host.rebuild.diagnostics uri).filter (·.isAboutReference)).length + d.expressionCount =
        (s.host.rebuild.link uri).1.unresolved ∧
      (d.places.Nodup ∧ ∀ n p i, (n, p, i) ∈ d.places ↔
        (s.host.rebuild.reference? (d.ptr n) p i).isSome) ∧
      List.Forall₂ (s.host.rebuild.Reports d)
        (d.places.filter fun place =>
          (s.host.rebuild.answerAt d place).isNone && !d.isExpression place)
        ((s.host.rebuild.diagnostics uri).filter (·.isAboutReference)) := by
  have hcurrent : s.host.rebuild.toSnapshot.Current Document.WellFormed :=
    hs ▸ current_rebuild Document.lasting_wellFormed registry hactions
  have hcoherent : s.host.rebuild.toSnapshot.Coherent :=
    hs ▸ (coherentIfClean_run registry actions).rebuild
  obtain ⟨id, -, hget⟩ := Option.bind_eq_some_iff.1 hd
  have hid := hcurrent.workspace.id_eq id d hget
  rw [← hid] at hget
  have hwellFormed := hcurrent.all Document.lasting_wellFormed _ d hget
  have hderived : ∀ n, d.isDerived n = true → ∀ node, d.node? n = some node →
      node.references = [] := fun n hn node => hcurrent.references_of_isDerived hget hn
  have hmem := fun n p i => hwellFormed.mem_places_iff hderived (n := n) (p := p) (i := i)
  have hreports := forall₂_filter_filterMap
    (fun place hplace => (hcoherent.checkPlace_cases ((hmem _ _ _).1 hplace)).1)
    (fun place hplace => (hcoherent.checkPlace_cases ((hmem _ _ _).1 hplace)).2)
  rw [← Resolver.checkReferences_eq _ hderived, ← Snapshot.filter_diagnostics hd] at hreports
  obtain ⟨hresolved, hunresolved⟩ :=
    hcoherent.count_link hcurrent.workspace.nodup_ids hd
  refine ⟨?_, ?_, ⟨hwellFormed.nodup_places hderived, fun n p i => ?_⟩, hreports⟩
  · rw [hresolved, hunresolved, ← hwellFormed.length_places hderived,
      List.length_eq_countP_add_countP fun place =>
        (s.host.rebuild.toSnapshot.answerAt d place).isSome]
    refine congrArg _ (List.countP_congr fun place _ => ?_)
    simp
  · -- The unanswered references are those with a finding and, of the others, the expressions.
    rw [← hreports.length_eq, hunresolved, ← hwellFormed.countP_isExpression hderived,
      ← List.countP_eq_length_filter,
      List.countP_eq_countP_filter_add _ (fun place =>
        (s.host.rebuild.toSnapshot.answerAt d place).isNone) (fun place => !d.isExpression place),
      List.countP_filter, List.countP_filter]
    refine congrArg _ (List.countP_congr fun place _ => ?_)
    cases hexpression : d.isExpression place with
    | false => simp
    | true => simp [hcoherent.answerAt_of_isExpression hget hexpression]
  · rw [hmem, Snapshot.reference?]
    show _ ↔ (((s.host.rebuild.workspace.get? d.id).bind _).bind _).isSome = true
    rw [hget]
    rfl

/-- A session with a document whose references interleave two properties, some of them meaning
nothing, and with binding expressions; it has been linked once. -/
def linked : Session :=
  (start { models := [{ id := ⟨"core"⟩, referenceName := "core", root := "file:///core" }] }).run
    [.set (.ofDrafts "file:///core/a.cm"
        (List.map (fun draft => (NodeId.root, draft))
          [{ kind := .logicalEntity, id := some "Party" },
            { kind := .relationship, id := some "Owns"
              references := [(.parent, "Party"), (.child, "Asset"), (.parent, "Person")] },
            { kind := .attributeMapping
              references := [(.expression, "1 + 1"), (.value, "x"), (.expression, "Party")] }])),
      .link "file:///core/a.cm"]

/-- It is reachable. -/
theorem reachable_linked : linked.Reachable := by
  refine ⟨_, _, fun a ha => ?_, rfl⟩
  simp only [List.mem_cons, List.not_mem_nil, or_false] at ha
  rcases ha with rfl | rfl
  · exact drafted_flat _ _
  · trivial

/-- Of the six references one means something; there are findings about three of the others, and two
are binding expressions. -/
theorem findings_agree_linked :
    ∃ d, linked.host.rebuild.workspace.at? "file:///core/a.cm" = some d ∧
      (linked.host.rebuild.link "file:///core/a.cm").1 = ⟨1, 5⟩ ∧ d.referenceCount = 6 ∧
      d.expressionCount = 2 ∧
      ((linked.host.rebuild.diagnostics "file:///core/a.cm").filter
        (·.isAboutReference)).length = 3 ∧
      ∃ x ∈ linked.host.rebuild.diagnostics "file:///core/a.cm",
        linked.host.rebuild.Reports d (⟨2⟩, .parent, 1) x := by
  have hlink : (linked.host.rebuild.link "file:///core/a.cm").1 = ⟨1, 5⟩ := by decide +kernel
  obtain ⟨d, hd⟩ := Option.isSome_iff_exists.1
    (show (linked.host.rebuild.workspace.at? "file:///core/a.cm").isSome by decide +kernel)
  have hplace : (linked.host.rebuild.workspace.at? "file:///core/a.cm").map (fun d =>
      (d.expressionCount, (d.places.filter fun place =>
        (linked.host.rebuild.answerAt d place).isNone && !d.isExpression place))) =
          some (2, [(⟨2⟩, .child, 0), (⟨2⟩, .parent, 1), (⟨3⟩, .value, 0)]) := by
    decide +kernel
  rw [hd, Option.map_some, Option.some.injEq, Prod.mk.injEq] at hplace
  obtain ⟨hexpressions, hplaces⟩ := hplace
  obtain ⟨registry, actions, hsound, hrun⟩ := reachable_linked
  obtain ⟨hcount, hunresolved, -, hreports⟩ := findings_agree registry
    (fun a ha => (hsound a ha).sets_wellFormed) hrun hd
  rw [hlink] at hcount hunresolved
  rw [hexpressions] at hunresolved
  rw [hplaces] at hreports
  refine ⟨d, hd, hlink, hcount.symm, hexpressions, Nat.add_right_cancel hunresolved, ?_⟩
  generalize hfound : (linked.host.rebuild.diagnostics "file:///core/a.cm").filter
    (·.isAboutReference) = found at hreports
  cases hreports with
  | cons _ hrest =>
    cases hrest with
    | cons hreport _ =>
      refine ⟨_, ?_, hreport⟩
      have hmem : _ ∈ (linked.host.rebuild.diagnostics "file:///core/a.cm").filter
        (·.isAboutReference) := hfound ▸ List.mem_cons_of_mem _ (List.mem_cons_self ..)
      exact (List.mem_filter.1 hmem).1

end Session

end ModelBinding
