import ModelBinding.Analysis
import ModelBinding.Proofs.BuiltTree
import ModelBinding.Proofs.Descriptions
import ModelBinding.Proofs.Freshness
import ModelBinding.Proofs.Meaning

/-!
# References outside all data models

A document that no data model owns exports nothing, so at a node of it a text means what
the tables of the node and of its containers say, the innermost first
(`Snapshot.Current.lookup_generalScope_of_modelOf?_eq_none`). A written node stands in
the table of its container and in no other. A reference to it, by the Local ID that is
given out for any node of the same document, therefore reaches it exactly if that
container is the node of the reference or is around it, and no derived attribute in a
table further in bears the name (`Session.resolveText_referenceId_unowned`).
-/

namespace ModelBinding

namespace Document

variable {d : Document} {r : Registry}

/-- Of a node and its containers each one contains all those before it. -/
theorem pairwise_ancestors (d : Document) (n : NodeId) :
    (n :: d.ancestors n).Pairwise fun a b => b ∈ d.ancestors a := by
  refine List.pairwise_cons.2 ⟨fun _ ha => ha, ?_⟩
  fun_induction ancestors d n with
  | case1 => exact List.Pairwise.nil
  | case2 n p _ _ ih => exact List.pairwise_cons.2 ⟨fun _ ha => ha, ih⟩
  | case3 => exact List.Pairwise.nil

/-- The first answer among a node and its containers is the one of the innermost that answers. -/
theorem findSome?_ancestors_eq_some_iff {α : Type} {f : NodeId → Option α} {n : NodeId} {a : α} :
    (n :: d.ancestors n).findSome? f = some a ↔
      ∃ c ∈ n :: d.ancestors n, f c = some a ∧
        ∀ c' ∈ n :: d.ancestors n, c ∈ d.ancestors c' → f c' = none := by
  have hpairwise := d.pairwise_ancestors n
  constructor
  · intro hfound
    obtain ⟨inner, c, outer, heq, hc, hinner⟩ := List.findSome?_eq_some_iff.1 hfound
    rw [heq] at hpairwise ⊢
    refine ⟨c, by simp, hc, fun c' hc' hcontains => ?_⟩
    have hlt := index_lt_of_mem_ancestors hcontains
    rcases List.mem_append.1 hc' with hc' | hc'
    · exact hinner c' hc'
    · rcases List.mem_cons.1 hc' with rfl | hc'
      · exact absurd hlt (Nat.lt_irrefl _)
      · have hbehind := List.rel_of_pairwise_cons (List.pairwise_append.1 hpairwise).2.1 hc'
        exact absurd hlt (Nat.lt_asymm (index_lt_of_mem_ancestors hbehind))
  · rintro ⟨c, hc, hfound, hnone⟩
    obtain ⟨inner, outer, heq⟩ := List.append_of_mem hc
    rw [heq] at hpairwise hnone ⊢
    refine List.findSome?_eq_some_iff.2 ⟨inner, c, outer, rfl, hfound, fun c' hc' => ?_⟩
    exact hnone c' (List.mem_append_left _ hc')
      ((List.pairwise_append.1 hpairwise).2.2 c' hc' c (List.mem_cons_self ..))

/-- A written node with a container stands in the table of the latter under its Local ID. -/
theorem describe_mem_table_localTables (htree : d.IsTree) {n c : NodeId} {k : NodeKind} {l : String}
    (hn : d.isDerived n = false) (hk : d.kind? n = some k) (hparent : d.parent? n = some c)
    (hl : d.localId? n = some l) :
    d.describe (r.modelOf? d) n k l .localForm ∈ (d.localTables r).table c := by
  obtain ⟨node, hnode, rfl⟩ := Option.map_eq_some_iff.1 hk
  have hwalk := htree.mem_walk_iff.2 (index_lt_of_parent? hparent)
  have hentry : (c, d.describe (r.modelOf? d) n node.kind l .localForm) ∈
      d.tableEntries (r.modelOf? d) n := by
    simp [tableEntries, hnode, hparent, hl]
  refine List.mem_map.2 ⟨_, List.mem_filter.2 ⟨List.mem_flatMap.2 ⟨n, ?_, hentry⟩, by simp⟩, rfl⟩
  exact List.mem_filter.2 ⟨hwalk, by simp [hn]⟩

end Document

/-- The first description of a kind in a container table of a document that bears a name. -/
def Index.firstLocal? (i : Index) (id : DocumentId) (target : NodeKind) (name : String)
    (c : NodeId) : Option Description :=
  ((i.localsOf id).table c).find? fun x => x.kind.isSubtypeOf target && x.name = name

/-- What is found in a table stands there, is of the kind and bears the name. -/
theorem Index.of_firstLocal? {i : Index} {id : DocumentId} {target : NodeKind} {name : String}
    {c : NodeId} {x : Description} (h : i.firstLocal? id target name c = some x) :
    x ∈ (i.localsOf id).table c ∧ x.kind.isSubtypeOf target = true ∧ x.name = name := by
  have hbears := List.find?_some h
  simp only [Bool.and_eq_true, decide_eq_true_eq] at hbears
  exact ⟨List.mem_of_find?_eq_some h, hbears⟩

namespace Snapshot.Current

variable {s : Snapshot} (h : s.Current Document.WellFormed) {target : NodeKind}
  (htarget : target.isIdentified = true) {d : Document}
  (hunowned : s.registry.modelOf? d = none)
include h htarget hunowned

/-- Outside all data models a text means what the innermost table says that knows it. -/
theorem lookup_generalScope_of_modelOf?_eq_none (n : NodeId) (text : String) :
    (s.resolver.generalScope d n target).lookup text =
      (n :: d.ancestors n).findSome? (s.index.firstLocal? d.id target text) := by
  have hglobal := h.packageScope_append_dependencyScope htarget d
  rw [hunowned] at hglobal
  rw [Scope.lookup_eq_find?, Resolver.elements_generalScope, hglobal, Option.elim_none,
    List.append_nil, Resolver.containerLayers]
  unfold Index.firstLocal? Index.localsOf
  have hindex : s.resolver.index = s.index := rfl
  rw [hindex]
  cases s.index.locals? d.id with
  | none =>
    refine (List.findSome?_eq_none_iff.2 fun c _ => ?_).symm
    simp [LocalTables.table, LocalTables.empty]
  | some tables =>
    simp only [List.flatten_filter_not_isEmpty, Option.getD_some]
    rw [← List.flatMap_def, List.find?_flatMap]
    simp only [Description.ofKind, List.find?_filter, Bool.decide_and, Bool.decide_eq_true]

end Snapshot.Current

namespace Session.Reachable

variable {s : Session} (hs : s.Reachable) {id : DocumentId} {d : Document}
  (hd : s.host.rebuild.workspace.get? id = some d)
include hs hd

/-- The tables of a document hold what is written in it, and behind that what is derived. -/
theorem exists_table_eq :
    ∃ more : List (NodeId × Description),
      (∀ entry ∈ more, d.DerivedEntry s.host.rebuild.registry entry.2) ∧
        ∀ c, (s.host.rebuild.index.localsOf id).table c =
          (d.localTables s.host.rebuild.registry).table c ++ (LocalTables.mk more).table c := by
  obtain ⟨hconsistent, hauthored, hfresh⟩ := hs.fresh
  obtain ⟨more, htables, hmore⟩ :=
    (Host.upToDate_rebuild hconsistent hauthored.workspace hfresh hd).tables_eq
  have hlocals : s.host.rebuild.index.localsOf id =
      (d.localTables s.host.rebuild.registry).append more := by
    rw [Index.localsOf, show s.host.rebuild.index.locals? id = _ from htables, Option.getD_some]
  exact ⟨more, hmore, fun c => by rw [hlocals, LocalTables.table_append]⟩

section Entry

variable {c : NodeId} {x : Description}
  (hx : x ∈ (s.host.rebuild.index.localsOf id).table c)
include hx

/-- The table of a node holds of written nodes those that it contains. -/
theorem parent?_of_mem_table (hwritten : d.isDerived x.node.node = false) :
    d.parent? x.node.node = some c := by
  obtain ⟨more, hmore, htable⟩ := hs.exists_table_eq hd
  rw [htable] at hx
  rcases List.mem_append.1 hx with hx | hx
  · obtain ⟨⟨c', x⟩, hfiltered, rfl⟩ := List.mem_map.1 hx
    obtain ⟨hentry, heq⟩ := List.mem_filter.1 hfiltered
    rw [Document.parent?_of_mem_localTables hentry, of_decide_eq_true heq]
  · obtain ⟨entry, hentry, rfl⟩ := List.mem_map.1 hx
    rw [(hmore entry (List.mem_filter.1 hentry).1).derived] at hwritten
    cases hwritten

/-- Outside all data models the tables name written nodes by their Local IDs. -/
theorem localId?_of_mem_table (hunowned : s.host.rebuild.registry.modelOf? d = none)
    (hwritten : d.isDerived x.node.node = false) : d.localId? x.node.node = some x.name := by
  have hnamed := (hs.current_plain.fits_of_mem_table hd hx).2
  rw [Description.NamedIn, if_neg (by simp [hwritten]), Description.Identifies] at hnamed
  cases hform : x.form with
  | localForm =>
    rw [hform] at hnamed
    exact hnamed
  | globalForm =>
    rw [hform, Registry.globalId?_eq_none_of_modelOf?_eq_none hunowned] at hnamed
    cases hnamed.1

end Entry

section FirstLocal

variable (hunowned : s.host.rebuild.registry.modelOf? d = none) {m : NodeId} {name : String}
  (hunique : ∀ n, n ≠ m → d.localId? n ≠ some name)
include hunowned hunique

/-- Outside all data models the tables know by a Local ID that only one node has only that one, and
derived attributes. -/
theorem node_eq_of_mem_table {c : NodeId} {x : Description}
    (hx : x ∈ (s.host.rebuild.index.localsOf id).table c) (hname : x.name = name)
    (hwritten : d.isDerived x.node.node = false) : x.node = ⟨id, m⟩ := by
  have hlocal := hs.localId?_of_mem_table hd hx hunowned hwritten
  rw [hname] at hlocal
  have hnode : x.node.node = m := by
    by_contra hne
    exact hunique _ hne hlocal
  have hdocument := (hs.current_plain.fits_of_mem_table hd hx).1.document_eq
  rw [hs.current.workspace.id_eq id d hd] at hdocument
  rw [← hnode, ← hdocument]

variable {c : NodeId} (hparent : d.parent? m = some c) {target : NodeKind}
include hparent

/-- In the table of its container a written node is found before any derived attribute. -/
theorem exists_firstLocal? (hm : d.isDerived m = false) {k : NodeKind} (hk : d.kind? m = some k)
    (hsubtype : k.isSubtypeOf target = true) (hl : d.localId? m = some name) :
    ∃ x, s.host.rebuild.index.firstLocal? id target name c = some x ∧ x.node = ⟨id, m⟩ := by
  obtain ⟨more, -, htable⟩ := hs.exists_table_eq hd
  have hentry := Document.describe_mem_table_localTables (r := s.host.rebuild.registry)
    (hs.current.isTree hd) hm hk hparent hl
  have hsome : (((d.localTables s.host.rebuild.registry).table c).find?
      fun x => x.kind.isSubtypeOf target && x.name = name).isSome :=
    List.find?_isSome.2 ⟨_, hentry, by simp [Document.describe, hsubtype]⟩
  obtain ⟨x, hfound⟩ := Option.isSome_iff_exists.1 hsome
  have hfirst : s.host.rebuild.index.firstLocal? id target name c = some x := by
    rw [Index.firstLocal?, htable, List.find?_append, hfound, Option.some_or]
  obtain ⟨hx, -, hbears⟩ := Index.of_firstLocal? hfirst
  refine ⟨x, hfirst, hs.node_eq_of_mem_table hd hunowned hunique hx hbears ?_⟩
  obtain ⟨entry, hmem, rfl⟩ := List.mem_map.1 (List.mem_of_find?_eq_some hfound)
  have hwritten := Document.describesWritten_of_mem_localTables (List.mem_filter.1 hmem).1
  rw [Document.describesWritten, Bool.and_eq_true, Bool.not_eq_true'] at hwritten
  exact hwritten.2

/-- No other table knows it, as far as nothing derived is asked for. -/
theorem firstLocal?_eq_none (hattribute : target.isSubtypeOf .logicalAttribute = false)
    {c' : NodeId} (hne : c' ≠ c) : s.host.rebuild.index.firstLocal? id target name c' = none := by
  refine Option.eq_none_iff_forall_ne_some.2 fun x hfirst => ?_
  obtain ⟨hx, hkind, hbears⟩ := Index.of_firstLocal? hfirst
  have hwritten : d.isDerived x.node.node = false := by
    refine hs.current.isDerived_eq_false_of_kind? hd (hs.current_plain.fits_of_mem_table hd hx).1.kind_eq ?_
    by_contra hderived
    rw [NodeKind.isSubtypeOf_eq_false_of_isDerivedAttribute (by simpa using hderived) hattribute]
      at hkind
    cases hkind
  have hparent' := hs.parent?_of_mem_table hd hx hwritten
  rw [hs.node_eq_of_mem_table hd hunowned hunique hx hbears hwritten, hparent] at hparent'
  exact hne (Option.some.inj hparent').symm

end FirstLocal

end Session.Reachable

namespace Session

/-- After any sound actions and a rebuild, at a node of the general case in a document of no data
model, the name given to a written node of the document reaches that node, if it is no other node's
Local ID, exactly if the container of that node is the referring one or around it and no table
further in knows the name; only derived attributes can stand there. For references to other kinds
than attributes nothing does. -/
theorem resolveText_referenceId_unowned {s : Session} (hs : s.Reachable) {ptr : NodePtr}
    {d : Document} (hd : s.host.rebuild.workspace.get? ptr.document = some d)
    (hunowned : s.host.rebuild.registry.modelOf? d = none) {node : Node}
    (hnode : d.node? ptr.node = some node) {p : Property}
    (hgeneral : node.kind.seesGeneralScope p = true) {target : NodeKind}
    (htarget : node.kind.referenceTarget? p = some target) {m : NodeId}
    (hm : d.isDerived m = false) {k : NodeKind} (hk : d.kind? m = some k)
    (hsubtype : k.isSubtypeOf target = true) (i : Nat) {name : String}
    (hname : s.host.rebuild.referenceId? ⟨ptr.document, m⟩ ptr = some name)
    (hunique : ∀ n, n ≠ m → d.localId? n ≠ some name) :
    ((s.host.rebuild.resolveText (.ofNode ptr p i) name).map (·.node) = some ⟨ptr.document, m⟩ ↔
      ∃ c ∈ ptr.node :: d.ancestors ptr.node, d.parent? m = some c ∧
        ∀ c' ∈ ptr.node :: d.ancestors ptr.node, c ∈ d.ancestors c' →
          s.host.rebuild.index.firstLocal? ptr.document target name c' = none) ∧
    (target.isSubtypeOf .logicalAttribute = false →
      ((s.host.rebuild.resolveText (.ofNode ptr p i) name).map (·.node) = some ⟨ptr.document, m⟩ ↔
        ∃ c ∈ ptr.node :: d.ancestors ptr.node, d.parent? m = some c)) ∧
    ∀ x, s.host.rebuild.resolveText (.ofNode ptr p i) name = some x →
      x.node = ⟨ptr.document, m⟩ ∨ d.isDerived x.node.node = true := by
  have hl : d.localId? m = some name := by
    simpa [Snapshot.referenceId?, hd, Registry.referenceId?, hunowned] using hname
  have hlookup : s.host.rebuild.resolveText (.ofNode ptr p i) name =
      (ptr.node :: d.ancestors ptr.node).findSome?
        (s.host.rebuild.index.firstLocal? ptr.document target name) := by
    rw [Snapshot.resolveText, Snapshot.scope_ofNode hd hnode hgeneral htarget,
      hs.current.lookup_generalScope_of_modelOf?_eq_none
        (NodeKind.isIdentified_of_referenceTarget? htarget) hunowned,
      hs.current.workspace.id_eq _ d hd]
  have hiff : (s.host.rebuild.resolveText (.ofNode ptr p i) name).map (·.node) =
        some ⟨ptr.document, m⟩ ↔
      ∃ c ∈ ptr.node :: d.ancestors ptr.node, d.parent? m = some c ∧
        ∀ c' ∈ ptr.node :: d.ancestors ptr.node, c ∈ d.ancestors c' →
          s.host.rebuild.index.firstLocal? ptr.document target name c' = none := by
    rw [hlookup]
    constructor
    · intro hfound
      obtain ⟨x, hfirst, hx⟩ := Option.map_eq_some_iff.1 hfound
      obtain ⟨c, hc, hfirst, hinner⟩ := Document.findSome?_ancestors_eq_some_iff.1 hfirst
      have hparent := hs.parent?_of_mem_table hd (Index.of_firstLocal? hfirst).1
      rw [hx] at hparent
      exact ⟨c, hc, hparent hm, hinner⟩
    · rintro ⟨c, hc, hparent, hinner⟩
      obtain ⟨x, hfirst, hx⟩ :=
        hs.exists_firstLocal? hd hunowned hunique hparent hm hk hsubtype hl
      exact Option.map_eq_some_iff.2
        ⟨x, Document.findSome?_ancestors_eq_some_iff.2 ⟨c, hc, hfirst, hinner⟩, hx⟩
  refine ⟨hiff, fun hattribute => hiff.trans ?_, fun x hx => ?_⟩
  · refine exists_congr fun c => and_congr_right fun _ => and_iff_left_of_imp ?_
    intro hparent c' _ hcontains
    refine hs.firstLocal?_eq_none hd hunowned hunique hparent hattribute ?_
    rintro rfl
    exact Nat.lt_irrefl _ (Document.index_lt_of_mem_ancestors hcontains)
  · rw [hlookup] at hx
    obtain ⟨c, -, hfirst, -⟩ := Document.findSome?_ancestors_eq_some_iff.1 hx
    obtain ⟨hmem, -, hbears⟩ := Index.of_firstLocal? hfirst
    cases hderived : d.isDerived x.node.node with
    | true => exact Or.inr rfl
    | false => exact Or.inl (hs.node_eq_of_mem_table hd hunowned hunique hmem hbears hderived)

/-- A session with one document, of no data model, in which two diagrams have an edge and the first
one has a node. -/
def scattered : Session :=
  (start {}).run
    [.set (.ofDrafts "file:///loose/d.cm"
      [(.root, { kind := .systemDiagram, id := some "D1" }),
        (⟨1⟩, { kind := .logicalEntityNode, id := some "N" }),
        (⟨1⟩, { kind := .relationshipEdge, id := some "R" }),
        (.root, { kind := .systemDiagram, id := some "D2" }),
        (⟨4⟩, { kind := .relationshipEdge, id := some "R" })])]

/-- It is reachable. -/
theorem reachable_scattered : scattered.Reachable := by
  refine ⟨_, _, fun a ha => ?_, rfl⟩
  rw [List.mem_singleton.1 ha]
  exact drafted_ofDrafts (by decide)

/-- Its document is of no data model, and the node is the only one with its Local ID. -/
theorem exists_document_scattered :
    ∃ d, scattered.host.rebuild.workspace.get? ⟨0⟩ = some d ∧
      scattered.host.rebuild.registry.modelOf? d = none ∧ d.isDerived ⟨2⟩ = false ∧
      d.kind? ⟨2⟩ = some .logicalEntityNode ∧ d.kind? ⟨3⟩ = some .relationshipEdge ∧
      d.kind? ⟨5⟩ = some .relationshipEdge ∧ d.parent? ⟨2⟩ = some ⟨1⟩ ∧
      d.ancestors ⟨3⟩ = [⟨1⟩, .root] ∧ ∀ n, n ≠ ⟨2⟩ → d.localId? n ≠ some "D1.N" := by
  obtain ⟨d, hd⟩ := Option.isSome_iff_exists.1
    (show (scattered.host.rebuild.workspace.get? ⟨0⟩).isSome by decide +kernel)
  have hkinds : (scattered.host.rebuild.workspace.get? ⟨0⟩).map (fun d =>
      (d.kind? ⟨2⟩, d.kind? ⟨3⟩, d.kind? ⟨5⟩)) =
        some (some .logicalEntityNode, some .relationshipEdge, some .relationshipEdge) := by
    decide +kernel
  have hplaces : (scattered.host.rebuild.workspace.get? ⟨0⟩).map (fun d =>
      (scattered.host.rebuild.registry.modelOf? d, d.isDerived ⟨2⟩, d.parent? ⟨2⟩,
        d.ancestors ⟨3⟩)) = some (none, false, some ⟨1⟩, [⟨1⟩, .root]) := by
    decide +kernel
  have hnames : (scattered.host.rebuild.workspace.get? ⟨0⟩).map (fun d =>
      (List.range d.size).filter fun i => d.localId? ⟨i⟩ = some "D1.N") = some [2] := by
    decide +kernel
  simp only [hd, Option.map_some, Option.some.injEq, Prod.mk.injEq] at hkinds hplaces hnames
  obtain ⟨htarget, hinside, houtside⟩ := hkinds
  obtain ⟨hmodel, hwritten, hparent, hancestors⟩ := hplaces
  refine ⟨d, hd, hmodel, hwritten, htarget, hinside, houtside, hparent, hancestors, ?_⟩
  intro n hne hl
  obtain ⟨own, hown, -⟩ := Option.map_eq_some_iff.1 hl
  have hmem : n.index ∈ (List.range d.size).filter fun i => d.localId? ⟨i⟩ = some "D1.N" :=
    List.mem_filter.2 ⟨List.mem_range.2 (Document.index_lt_of_ownId? hown), decide_eq_true hl⟩
  rw [hnames, List.mem_singleton] at hmem
  exact hne (congrArg NodeId.mk hmem)

/-- From the edge in the other diagram the node is given a name that means nothing there. -/
theorem resolveText_referenceId_scattered :
    scattered.Reachable ∧
      (∃ d, scattered.host.rebuild.workspace.get? ⟨0⟩ = some d ∧
        scattered.host.rebuild.registry.modelOf? d = none ∧ d.isDerived ⟨2⟩ = false ∧
        d.kind? ⟨2⟩ = some .logicalEntityNode ∧ d.kind? ⟨5⟩ = some .relationshipEdge ∧
        ∀ n, n ≠ ⟨2⟩ → d.localId? n ≠ some "D1.N") ∧
      NodeKind.relationshipEdge.seesGeneralScope .sourceNode = true ∧
      NodeKind.relationshipEdge.referenceTarget? .sourceNode = some .logicalEntityNode ∧
      scattered.host.rebuild.referenceId? ⟨⟨0⟩, ⟨2⟩⟩ ⟨⟨0⟩, ⟨5⟩⟩ = some "D1.N" ∧
      scattered.host.rebuild.resolveText (.ofNode ⟨⟨0⟩, ⟨5⟩⟩ .sourceNode) "D1.N" = none := by
  obtain ⟨d, hd, hmodel, hwritten, htarget, -, houtside, -, -, hunique⟩ :=
    exists_document_scattered
  refine ⟨reachable_scattered, ⟨d, hd, hmodel, hwritten, htarget, houtside, hunique⟩, rfl, rfl, ?_⟩
  exact ⟨by decide +kernel, by decide +kernel⟩

/-- From the edge beside the node the name reaches it. -/
theorem resolveText_referenceId_unowned_scattered :
    scattered.host.rebuild.referenceId? ⟨⟨0⟩, ⟨2⟩⟩ ⟨⟨0⟩, ⟨3⟩⟩ = some "D1.N" ∧
      (scattered.host.rebuild.resolveText (.ofNode ⟨⟨0⟩, ⟨3⟩⟩ .sourceNode) "D1.N").map (·.node) =
        some ⟨⟨0⟩, ⟨2⟩⟩ := by
  obtain ⟨d, hd, hmodel, hwritten, htarget, hinside, -, hparent, hancestors, hunique⟩ :=
    exists_document_scattered
  obtain ⟨node, hnode, hkind⟩ := Option.map_eq_some_iff.1 hinside
  have hname : scattered.host.rebuild.referenceId? ⟨⟨0⟩, ⟨2⟩⟩ ⟨⟨0⟩, ⟨3⟩⟩ = some "D1.N" := by
    decide +kernel
  refine ⟨hname, ?_⟩
  obtain ⟨-, hreaches, -⟩ := @resolveText_referenceId_unowned _ reachable_scattered ⟨⟨0⟩, ⟨3⟩⟩ d hd
    hmodel node hnode .sourceNode (by rw [hkind]; rfl) .logicalEntityNode (by rw [hkind]; rfl) ⟨2⟩
    hwritten _ htarget (by decide) 0 _ hname hunique
  refine (hreaches (by decide)).2 ⟨⟨1⟩, ?_, hparent⟩
  rw [hancestors]
  decide

end Session

end ModelBinding
