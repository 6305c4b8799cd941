import ModelBinding.Proofs.Findings
import ModelBinding.Proofs.Lists
import ModelBinding.Proofs.Published

/-!
# Duplicates

All nodes of a workspace stand in one order: by the documents, and in each document by
the walk (`Snapshot.nodes`). The exports in Global form keep to it and mention no node
twice, so those that share a Global ID in a data model (`Index.sharing`) are one for each
node that bears it (`Snapshot.bearers`), and the first of them is about the first of these
nodes. Hence the check, which compares every export with the first one of its name, reports
every bearer but the first, once, as a duplicate of the first.
-/

namespace ModelBinding

namespace Diagnostic

/-- Whether a finding is about an identifier that is taken. -/
def isDuplicate (x : Diagnostic) : Bool := x.code = some duplicateCode

@[simp] theorem isDuplicate_duplicate (node : NodePtr) (name : String) (first : NodePtr) :
    (duplicate node name first).isDuplicate = true := by
  simp [isDuplicate, duplicate]

/-- A finding about a taken identifier tells the node and the first one that has it. -/
theorem of_duplicate_eq {node node' first first' : NodePtr} {name name' : String}
    (h : duplicate node name first = duplicate node' name' first') :
    node = node' ∧ first = first' := by
  have hrelated := congrArg Diagnostic.related h
  simp only [duplicate, List.cons.injEq, RelatedPlace.mk.injEq] at hrelated
  exact ⟨congrArg Diagnostic.node h, hrelated.1.1⟩

/-- Findings about references are not about identifiers. -/
theorem isDuplicate_eq_false {x : Diagnostic} (h : x.isAboutReference = true) :
    x.isDuplicate = false := by
  simp only [isAboutReference, isDuplicate, Bool.or_eq_true, decide_eq_true_eq] at h ⊢
  rcases h with h | h <;> simp [h, unresolvedCode, invisibleCode, duplicateCode]

end Diagnostic

namespace Index

variable {i : Index} {m : Option DataModelId} {g : String} {e : Description} {x : Diagnostic}

/-- The exports in Global form. -/
def globals (i : Index) : List Description := i.all.filter (·.isGlobal)

/-- The exports in Global form that have a name in a data model. -/
def sharing (i : Index) (m : Option DataModelId) (g : String) : List Description :=
  i.globals.filter fun e => e.name = g && e.dataModel = m

theorem mem_globals : e ∈ i.globals ↔ e ∈ i.all ∧ e.isGlobal = true := by
  simp [globals]

theorem mem_sharing : e ∈ i.sharing m g ↔ e ∈ i.globals ∧ e.name = g ∧ e.dataModel = m := by
  simp [sharing]

/-- The first declaration of a name is the first of those that share it. -/
theorem firstDeclared?_eq (i : Index) (e : Description) :
    i.firstDeclared? e = (i.sharing e.dataModel e.name).head? := by
  rw [firstDeclared?, ← List.head?_filter, sharing, globals, List.filter_filter]
  refine congrArg List.head? (List.filter_congr fun f _ => ?_)
  rw [Bool.and_assoc, Bool.and_comm]

/-- Of exports that share a name, those about another node than the first one are reported. -/
theorem checkDuplicate_eq {first : Description} {rest : List Description}
    (h : i.sharing m g = first :: rest) (he : e ∈ i.sharing m g) :
    i.checkDuplicate e =
      if first.node = e.node then none else some (.duplicate e.node g first.node) := by
  obtain ⟨-, hname, hmodel⟩ := mem_sharing.1 he
  rw [checkDuplicate, firstDeclared?_eq, hname, hmodel, h, List.head?_cons, Option.bind_some]

/-- An export is reported as a duplicate of one that shares its name and is about another node. -/
theorem exists_of_checkDuplicate (hx : i.checkDuplicate e = some x) :
    ∃ first ∈ i.sharing e.dataModel e.name, first.node ≠ e.node ∧
      x = .duplicate e.node e.name first.node := by
  obtain ⟨first, hfirst, hx⟩ := Option.bind_eq_some_iff.1 hx
  split at hx
  · cases hx
  · rw [firstDeclared?_eq] at hfirst
    exact ⟨first, List.mem_of_mem_head? hfirst, ‹_›, (Option.some.inj hx).symm⟩

/-- An export is reported at its node. -/
theorem of_checkDuplicate (hx : i.checkDuplicate e = some x) :
    x.node = e.node ∧ x.isDuplicate = true := by
  obtain ⟨first, -, -, rfl⟩ := exists_of_checkDuplicate hx
  exact ⟨rfl, Diagnostic.isDuplicate_duplicate ..⟩

/-- The reports about some of the nodes are those for the exports about these nodes. -/
theorem filter_filterMap_checkDuplicate (i : Index) (p : NodePtr → Bool) (l : List Description) :
    (l.filterMap i.checkDuplicate).filter (fun x => p x.node) =
      (l.filter fun e => p e.node).filterMap i.checkDuplicate := by
  rw [List.filter_filterMap, List.filterMap_filter]
  refine List.filterMap_congr fun e _ => ?_
  cases hx : i.checkDuplicate e with
  | none => simp
  | some x => rw [Option.filter_some, (of_checkDuplicate hx).1]

/-- Of exports that share a name and are about different nodes, all but the first are reported, as
duplicates of the first. -/
theorem filterMap_checkDuplicate {first : Description} {rest : List Description}
    (h : i.sharing m g = first :: rest) (hnodes : ((i.sharing m g).map (·.node)).Nodup) :
    (i.sharing m g).filterMap i.checkDuplicate =
      rest.map fun e => .duplicate e.node g first.node := by
  rw [List.filterMap_congr fun e he => checkDuplicate_eq h he, h,
    List.filterMap_cons_none (by simp), ← List.filterMap_eq_map]
  refine List.filterMap_congr fun e he => ?_
  rw [h, List.map_cons, List.nodup_cons] at hnodes
  have hne : first.node ≠ e.node := fun heq => hnodes.1 (heq ▸ List.mem_map_of_mem he)
  exact if_neg hne

end Index

/-- Of a node a document publishes one description in Global form at most. -/
theorem Document.globals_published_sublist (d : Document) (r : Registry) (n : NodeId) :
    (((d.published r n).filter (·.isGlobal)).map (·.node)).Sublist [d.ptr n] := by
  unfold published
  split
  · split
    · simp [describe, Description.isGlobal, ptr]
    · simp
  · simp

namespace Snapshot

variable {s : Snapshot} {m : DataModelId} {g : String} {n : NodePtr}

/-- All nodes, in the order of the documents and then in that of the walk. -/
def nodes (s : Snapshot) : List NodePtr := s.workspace.list.flatMap fun d => d.walk.map d.ptr

/-- Whether a node is exported under a Global ID in a data model. -/
def exportsGlobal (s : Snapshot) (m : DataModelId) (g : String) (n : NodePtr) : Bool :=
  (s.index.exportsOf n.document).any fun e =>
    e.node = n && e.isGlobal && e.name = g && e.dataModel = some m

/-- The nodes that are exported under a Global ID in a data model, in order. -/
def bearers (s : Snapshot) (m : DataModelId) (g : String) : List NodePtr :=
  s.nodes.filter (s.exportsGlobal m g)

/-- A node that bears a Global ID behind another is not its first bearer. -/
theorem exists_bearers_eq {other : NodePtr} (hother : s.exportsGlobal m g other = true)
    (hn : s.exportsGlobal m g n = true) (hbefore : [other, n].Sublist s.nodes) :
    ∃ first rest, s.bearers m g = first :: rest ∧ n ∈ rest := by
  have hpair : [other, n].Sublist (s.bearers m g) := by
    have hfiltered := hbefore.filter (s.exportsGlobal m g)
    rwa [List.filter_cons_of_pos hother, List.filter_cons_of_pos hn, List.filter_nil] at hfiltered
  cases hbearers : s.bearers m g with
  | nil => simp [hbearers] at hpair
  | cons first rest =>
    rw [hbearers] at hpair
    exact ⟨first, rest, rfl, List.singleton_sublist.1 hpair.tail⟩

/-- The findings about identifiers that are taken are those of the check. -/
theorem filter_isDuplicate_diagnostics {uri : String} {d : Document}
    (hd : s.workspace.at? uri = some d) :
    (s.diagnostics uri).filter (·.isDuplicate) = s.index.checkDuplicates d.id := by
  have hreferences : (s.resolver.checkReferences d).filter (·.isDuplicate) = [] :=
    List.filter_eq_nil_iff.2 fun x hx => by
      simp [Diagnostic.isDuplicate_eq_false (Resolver.isAboutReference_of_mem_checkReferences hx)]
  have hduplicates : (s.index.checkDuplicates d.id).filter (·.isDuplicate) =
      s.index.checkDuplicates d.id :=
    List.filter_eq_self.2 fun x hx => by
      obtain ⟨e, -, hx⟩ := List.mem_filterMap.1 hx
      exact (Index.of_checkDuplicate hx).2
  simp only [diagnostics, hd]
  rw [List.filter_append, hreferences, hduplicates, List.nil_append]

namespace Publishes

variable (h : s.Publishes)
include h

/-- No node comes twice in the order. -/
theorem nodup_nodes : s.nodes.Nodup := by
  have hids : s.workspace.ids = s.workspace.list.map (·.id) := by
    have hflat := h.current.workspace.flatMap_ids (f := fun id => [id]) (g := fun d => [d.id])
      fun id d hd => by rw [h.current.workspace.id_eq id d hd]
    rwa [List.flatMap_singleton', ← List.map_eq_flatMap] at hflat
  have hnodup := h.current.workspace.nodup_ids
  rw [hids, List.Nodup, List.pairwise_map] at hnodup
  refine List.nodup_flatMap.2 ⟨fun d hd => ?_, hnodup.imp fun hne => ?_⟩
  · exact (h.current.isTree (h.current.workspace.mem_list_iff.1 hd)).nodup_walk.map fun n n' heq => congrArg NodePtr.node heq
  · intro n hn hn'
    obtain ⟨_, -, rfl⟩ := List.mem_map.1 hn
    obtain ⟨_, -, heq⟩ := List.mem_map.1 hn'
    exact hne (congrArg NodePtr.document heq).symm

/-- The exports in Global form are about nodes in the order of these, each at most once. -/
theorem globals_sublist : (s.index.globals.map (·.node)).Sublist s.nodes := by
  rw [Index.globals, h.all_eq, List.filter_flatMap, List.map_flatMap]
  refine flatMap_sublist_flatMap fun d _ => ?_
  rw [List.filter_flatMap, List.map_flatMap, Document.written, ← flatMap_ite_nil,
    List.map_eq_flatMap]
  refine flatMap_sublist_flatMap fun n _ => ?_
  split
  · exact d.globals_published_sublist _ n
  · exact List.nil_sublist _

/-- Exports in Global form about one node are one. -/
theorem eq_of_mem_globals {e f : Description} (he : e ∈ s.index.globals)
    (hf : f ∈ s.index.globals) (hnode : e.node = f.node) : e = f :=
  List.inj_on_of_nodup_map (h.nodup_nodes.sublist h.globals_sublist) he hf hnode

/-- A node is exported under a Global ID exactly if one of the exports that share it is about the
node. -/
theorem exportsGlobal_iff :
    s.exportsGlobal m g n = true ↔ ∃ e ∈ s.index.sharing (some m) g, e.node = n := by
  simp only [exportsGlobal, List.any_eq_true, Bool.and_eq_true, decide_eq_true_eq,
    Index.mem_sharing, Index.mem_globals]
  constructor
  · rintro ⟨e, hmem, ⟨⟨hnode, hglobal⟩, hname⟩, hmodel⟩
    refine ⟨e, ⟨⟨?_, hglobal⟩, hname, hmodel⟩, hnode⟩
    exact (h.current.exportsOf_sublist_all _).subset hmem
  · rintro ⟨e, ⟨⟨hall, hglobal⟩, hname, hmodel⟩, rfl⟩
    obtain ⟨d, -, hmem, -⟩ := h.current.of_mem_all hall
    exact ⟨e, hmem, ⟨⟨rfl, hglobal⟩, hname⟩, hmodel⟩

/-- The bearers of a Global ID are the nodes that the exports that share it are about. -/
theorem bearers_eq (m : DataModelId) (g : String) :
    s.bearers m g = (s.index.sharing (some m) g).map (·.node) := by
  have hsublist : ((s.index.sharing (some m) g).map (·.node)).Sublist s.nodes :=
    (List.filter_sublist.map _).trans h.globals_sublist
  refine filter_eq_of_sublist hsublist h.nodup_nodes fun n _ => ?_
  rw [h.exportsGlobal_iff, List.mem_map]

/-- No node bears a Global ID twice. -/
theorem nodup_bearers (m : DataModelId) (g : String) : (s.bearers m g).Nodup :=
  h.nodup_nodes.filter _

/-- Of the exports in Global form of a document there is one about the node of any of them. -/
theorem filter_exportsOf_node {e : Description} (he : e ∈ s.index.globals) :
    ((s.index.exportsOf e.node.document).filter (·.isGlobal)).filter
      (fun f => decide (f.node = e.node)) = [e] := by
  have hsublist : ((s.index.exportsOf e.node.document).filter (·.isGlobal)).Sublist
      s.index.globals := (h.current.exportsOf_sublist_all _).filter _
  have hglobals : s.index.globals.Nodup :=
    List.Nodup.of_map _ (h.nodup_nodes.sublist h.globals_sublist)
  obtain ⟨hall, hform⟩ := Index.mem_globals.1 he
  obtain ⟨-, -, hexported, -⟩ := h.current.of_mem_all hall
  refine filter_eq_of_sublist (List.singleton_sublist.2 (List.mem_filter.2 ⟨hexported, hform⟩))
    (hglobals.sublist hsublist) fun f hf => ?_
  rw [decide_eq_true_eq, List.mem_singleton]
  exact ⟨fun hnode => h.eq_of_mem_globals (hsublist.subset hf) he hnode, fun heq => heq ▸ rfl⟩

/-- The findings about taken identifiers at an address are those about the exports in Global form of
the document there. -/
theorem isDuplicate_mem_diagnostics_iff {uri : String} {x : Diagnostic} :
    x ∈ s.diagnostics uri ∧ x.isDuplicate = true ↔
      ∃ e ∈ s.index.globals, e.uri = uri ∧ s.index.checkDuplicate e = some x := by
  have hat : ∀ d, s.workspace.at? uri = some d →
      ((x ∈ s.diagnostics uri ∧ x.isDuplicate = true) ↔ x ∈ s.index.checkDuplicates d.id) :=
    fun d hd => by rw [← filter_isDuplicate_diagnostics hd, List.mem_filter]
  constructor
  · intro hx
    obtain ⟨d, hd⟩ : ∃ d, s.workspace.at? uri = some d := by
      rw [← Option.isSome_iff_exists, Option.isSome_iff_ne_none]
      intro hnone
      simp [diagnostics, hnone] at hx
    obtain ⟨e, he, hreport⟩ := List.mem_filterMap.1 ((hat d hd).1 hx)
    obtain ⟨hexported, hform⟩ := List.mem_filter.1 he
    obtain ⟨hget, huri⟩ := h.current.workspace.at?_eq_some_iff.1 hd
    have hall := (h.current.exportsOf_sublist_all d.id).subset hexported
    exact ⟨e, Index.mem_globals.2 ⟨hall, hform⟩,
      (h.uri_of_mem_exportsOf hget hexported).trans huri, hreport⟩
  · rintro ⟨e, he, rfl, hreport⟩
    obtain ⟨hall, hform⟩ := Index.mem_globals.1 he
    obtain ⟨d, hd, hexported⟩ := h.exists_at?_of_mem_all hall
    exact (hat d hd).2
      (List.mem_filterMap.2 ⟨e, List.mem_filter.2 ⟨hexported, hform⟩, hreport⟩)

/-- The findings about taken identifiers in all documents are those about the exports in Global
form. -/
theorem filter_isDuplicate_flatMap_diagnostics :
    (s.workspace.list.flatMap fun d => s.diagnostics d.uri).filter (·.isDuplicate) =
      s.index.globals.filterMap s.index.checkDuplicate := by
  rw [List.filter_flatMap, Index.globals, h.current.all_eq, List.filter_flatMap,
    List.filterMap_flatMap]
  refine (h.current.workspace.flatMap_ids fun id d hd => ?_).symm
  have hid := h.current.workspace.id_eq id d hd
  subst hid
  exact (filter_isDuplicate_diagnostics (h.current.workspace.at?_of_get? hd)).symm

section Group

variable {first : NodePtr} {rest : List NodePtr} (hbearers : s.bearers m g = first :: rest)
include hbearers

/-- Where a Global ID has a first bearer, the exports that share it begin with the one about that
node. -/
theorem exists_sharing_eq : ∃ e es, s.index.sharing (some m) g = e :: es ∧ e.node = first ∧
    es.map (·.node) = rest :=
  List.map_eq_cons_iff.1 ((h.bearers_eq m g).symm.trans hbearers)

/-- In all documents together the bearers of a Global ID but for the first one are reported, once
each, as duplicates of the first. -/
theorem duplicates_of_bearers :
    (s.workspace.list.flatMap fun d => s.diagnostics d.uri).filter
        (fun x => decide (x.node ∈ s.bearers m g) && x.isDuplicate) =
      rest.map fun n => .duplicate n g first := by
  obtain ⟨e, es, hsharing, rfl, rfl⟩ := h.exists_sharing_eq hbearers
  have hnodes : ((s.index.sharing (some m) g).map (·.node)).Nodup :=
    h.bearers_eq m g ▸ h.nodup_bearers m g
  -- An export is about a bearer exactly if it is one of those that share the Global ID.
  have hshares : s.index.globals.filter (fun f => decide (f.node ∈ s.bearers m g)) =
      s.index.sharing (some m) g := by
    refine List.filter_congr fun f hf => ?_
    rw [Bool.eq_iff_iff, decide_eq_true_eq, h.bearers_eq, List.mem_map]
    constructor
    · rintro ⟨f', hf', hnode⟩
      obtain ⟨hglobal, hname, hmodel⟩ := Index.mem_sharing.1 hf'
      rw [← h.eq_of_mem_globals hglobal hf hnode]
      simp [hname, hmodel]
    · intro hshares
      simp only [Bool.and_eq_true, decide_eq_true_eq] at hshares
      exact ⟨f, Index.mem_sharing.2 ⟨hf, hshares⟩, rfl⟩
  rw [← List.filter_filter, h.filter_isDuplicate_flatMap_diagnostics,
    s.index.filter_filterMap_checkDuplicate fun n => decide (n ∈ s.bearers m g), hshares,
    Index.filterMap_checkDuplicate hsharing hnodes, List.map_map]
  rfl

/-- A bearer of a Global ID that is not the first one is reported once, as a duplicate of the
first. -/
theorem duplicates_at {d : Document} (hd : s.workspace.get? d.id = some d) {n : NodeId}
    (hn : d.ptr n ∈ rest) :
    (s.diagnostics d.uri).filter (fun x => decide (x.node = d.ptr n) && x.isDuplicate) =
      [.duplicate (d.ptr n) g first] := by
  have hnodup := h.nodup_bearers m g
  obtain ⟨e, es, hsharing, rfl, rfl⟩ := h.exists_sharing_eq hbearers
  obtain ⟨f, hf, hnode⟩ := List.mem_map.1 hn
  have hshares : f ∈ s.index.sharing (some m) g := hsharing ▸ List.mem_cons_of_mem e hf
  have hne : e.node ≠ d.ptr n := fun heq => by
    rw [hbearers, List.nodup_cons, heq] at hnodup
    exact hnodup.1 hn
  have hreport : s.index.checkDuplicate f = some (.duplicate (d.ptr n) g e.node) := by
    rw [Index.checkDuplicate_eq hsharing hshares, hnode, if_neg hne]
  have hexported := h.filter_exportsOf_node (Index.mem_sharing.1 hshares).1
  rw [hnode, show (d.ptr n).document = d.id from rfl] at hexported
  rw [← List.filter_filter, filter_isDuplicate_diagnostics
    (h.current.workspace.at?_of_get? hd), Index.checkDuplicates,
    s.index.filter_filterMap_checkDuplicate fun n' => decide (n' = d.ptr n), hexported,
    List.filterMap_cons_some hreport, List.filterMap_nil]

end Group

/-- A node at which a taken identifier is reported bears a Global ID behind another node. -/
theorem exists_of_isDuplicate {uri : String} {x : Diagnostic} (hx : x ∈ s.diagnostics uri)
    (hduplicate : x.isDuplicate = true) :
    ∃ m g other, s.exportsGlobal m g x.node = true ∧ s.exportsGlobal m g other = true ∧
      other ≠ x.node ∧ [other, x.node].Sublist s.nodes := by
  obtain ⟨e, he, -, hreport⟩ := h.isDuplicate_mem_diagnostics_iff.1 ⟨hx, hduplicate⟩
  obtain ⟨m, hm⟩ := h.exists_dataModel (Index.mem_globals.1 he).1
  have hshares : e ∈ s.index.sharing (some m) e.name := Index.mem_sharing.2 ⟨he, rfl, hm⟩
  rw [(Index.of_checkDuplicate hreport).1]
  cases hsharing : s.index.sharing (some m) e.name with
  | nil => simp [hsharing] at hshares
  | cons first rest =>
    rw [Index.checkDuplicate_eq hsharing hshares] at hreport
    have hne : first.node ≠ e.node := fun heq => by simp [heq] at hreport
    have hrest : e ∈ rest := by
      rw [hsharing] at hshares
      exact (List.mem_cons.1 hshares).resolve_left fun heq => hne (heq ▸ rfl)
    refine ⟨m, e.name, first.node, h.exportsGlobal_iff.2 ⟨e, hshares, rfl⟩,
      h.exportsGlobal_iff.2 ⟨first, hsharing ▸ List.mem_cons_self .., rfl⟩, hne, ?_⟩
    have hpair : [first.node, e.node].Sublist (s.bearers m e.name) := by
      rw [h.bearers_eq, hsharing]
      exact (List.singleton_sublist.2 (List.mem_map_of_mem hrest)).cons_cons _
    exact hpair.trans List.filter_sublist

end Publishes

end Snapshot

namespace Session

/-- After any sound actions and a rebuild, a node is reported for a taken identifier exactly if it
is exported under a Global ID under which another node of the same data model is exported that
stands before it in the order of the documents and of the walk. Then it is reported once, as a
duplicate of the first node in this order, and so all documents together report the nodes that share
a Global ID in a data model but for the first one, each once. -/
theorem duplicates_exact {s : Session} (hs : s.Reachable) :
    (∀ d ∈ s.host.rebuild.workspace.list, ∀ n,
      (∃ x ∈ s.host.rebuild.diagnostics d.uri, x.node = d.ptr n ∧ x.isDuplicate = true) ↔
        ∃ m g other, s.host.rebuild.exportsGlobal m g (d.ptr n) = true ∧
          s.host.rebuild.exportsGlobal m g other = true ∧ other ≠ d.ptr n ∧
          [other, d.ptr n].Sublist s.host.rebuild.nodes) ∧
    (∀ d ∈ s.host.rebuild.workspace.list, ∀ n m g other,
      s.host.rebuild.exportsGlobal m g (d.ptr n) = true →
      s.host.rebuild.exportsGlobal m g other = true →
      [other, d.ptr n].Sublist s.host.rebuild.nodes →
        ∃ first, (s.host.rebuild.bearers m g).head? = some first ∧
          (s.host.rebuild.diagnostics d.uri).filter
              (fun x => decide (x.node = d.ptr n) && x.isDuplicate) =
            [.duplicate (d.ptr n) g first]) ∧
    ∀ m g first rest, s.host.rebuild.bearers m g = first :: rest →
      (s.host.rebuild.workspace.list.flatMap fun d => s.host.rebuild.diagnostics d.uri).filter
          (fun x => decide (x.node ∈ s.host.rebuild.bearers m g) && x.isDuplicate) =
        rest.map fun n => .duplicate n g first := by
  have h := hs.publishes
  have hget : ∀ d ∈ s.host.rebuild.workspace.list,
      s.host.rebuild.workspace.get? d.id = some d := fun _ =>
    h.current.workspace.mem_list_iff.1
  have honce : ∀ d ∈ s.host.rebuild.workspace.list, ∀ n m g other,
      s.host.rebuild.exportsGlobal m g (d.ptr n) = true →
      s.host.rebuild.exportsGlobal m g other = true →
      [other, d.ptr n].Sublist s.host.rebuild.nodes →
        ∃ first, (s.host.rebuild.bearers m g).head? = some first ∧
          (s.host.rebuild.diagnostics d.uri).filter
              (fun x => decide (x.node = d.ptr n) && x.isDuplicate) =
            [.duplicate (d.ptr n) g first] := by
    intro d hd n m g other hn hother hbefore
    obtain ⟨first, rest, hbearers, hrest⟩ := Snapshot.exists_bearers_eq hother hn hbefore
    exact ⟨first, by rw [hbearers, List.head?_cons],
      h.duplicates_at hbearers (hget d hd) hrest⟩
  refine ⟨fun d hd n => ⟨?_, ?_⟩, honce, fun m g first rest => h.duplicates_of_bearers⟩
  · rintro ⟨x, hx, hnode, hduplicate⟩
    rw [← hnode]
    exact h.exists_of_isDuplicate hx hduplicate
  · rintro ⟨m, g, other, hn, hother, -, hbefore⟩
    obtain ⟨first, -, honly⟩ := honce d hd n m g other hn hother hbefore
    have hmem := honly ▸ List.mem_singleton_self _
    obtain ⟨hx, hkept⟩ := List.mem_filter.1 hmem
    simp only [Bool.and_eq_true, decide_eq_true_eq] at hkept
    exact ⟨_, hx, hkept⟩

/-- A session in which three nodes of a data model have one identifier; the document of two of them
was taken out and put back, so it comes last. -/
def tripled : Session :=
  (start shopRegistry).run
    [.set (.ofDrafts "file:///shop/a.cm"
        (List.map (fun draft => (NodeId.root, draft))
          [{ kind := .logicalEntity, id := some "X" }, { kind := .relationship, id := some "X" }])),
      .set (shopDocument "b.cm" "X"), .rebuild, .remove "file:///shop/a.cm", .restore 0]

/-- It is reachable. -/
theorem reachable_tripled : tripled.Reachable := by
  refine ⟨_, _, fun a ha => ?_, rfl⟩
  simp only [List.mem_cons, List.not_mem_nil, or_false] at ha
  rcases ha with rfl | rfl | rfl | rfl | rfl
  · exact drafted_flat _ _
  · exact drafted_flat _ _
  all_goals trivial

/-- The two nodes that have come to stand last are reported as duplicates of the third. -/
theorem duplicates_exact_tripled :
    tripled.host.rebuild.bearers ⟨"shop"⟩ "shop.X" =
        [⟨⟨1⟩, ⟨1⟩⟩, ⟨⟨2⟩, ⟨1⟩⟩, ⟨⟨2⟩, ⟨2⟩⟩] ∧
      (tripled.host.rebuild.workspace.list.flatMap fun d =>
          tripled.host.rebuild.diagnostics d.uri).filter
          (fun x => decide (x.node ∈ tripled.host.rebuild.bearers ⟨"shop"⟩ "shop.X") &&
            x.isDuplicate) =
        [.duplicate ⟨⟨2⟩, ⟨1⟩⟩ "shop.X" ⟨⟨1⟩, ⟨1⟩⟩,
          .duplicate ⟨⟨2⟩, ⟨2⟩⟩ "shop.X" ⟨⟨1⟩, ⟨1⟩⟩] := by
  have hbearers : tripled.host.rebuild.bearers ⟨"shop"⟩ "shop.X" =
      [⟨⟨1⟩, ⟨1⟩⟩, ⟨⟨2⟩, ⟨1⟩⟩, ⟨⟨2⟩, ⟨2⟩⟩] := by
    decide +kernel
  exact ⟨hbearers, (duplicates_exact reachable_tripled).2.2 ⟨"shop"⟩ "shop.X" _ _ hbearers⟩

end Session

end ModelBinding
