import ModelBinding.Proofs.Growth
import ModelBinding.Proofs.Written
import Mathlib.Data.List.Induction

/-!
# Derived attributes, copy by copy

A plan is a list of copies, each for one node, and applying it appends them one after
another (`apply_eq_foldl`). So the places that the copies take, the node that contains
each of them and the entries that describe it follow from the list alone
(`Copied.addCopy` for one copy, `copied_apply` for all). What names depend on is the same
at every old place (`Document.GrownTo`).
-/

namespace ModelBinding

/-- The copies of a plan, each behind the node it is for, in the order in which they are
appended. -/
def DerivationPlan.copies (p : DerivationPlan) : List (NodeId × Node) :=
  p.views.flatMap fun v => v.attributes.map fun copy => (v.view, copy)

/-- There are as many of them as the plan counts. -/
theorem DerivationPlan.length_copies (p : DerivationPlan) : p.copies.length = p.attributeCount := by
  simp [copies, attributeCount, List.length_flatMap]

/-- A node with a kind is there. -/
theorem Document.index_lt_of_kind? {d : Document} {n : NodeId} {k : NodeKind}
    (h : d.kind? n = some k) : n.index < d.size := by
  obtain ⟨node, hnode, -⟩ := Option.map_eq_some_iff.1 h
  exact (node?_isSome_iff d n).1 (by simp [hnode])

namespace Derivation

variable {registry : Registry} {d : Document} {tables : LocalTables}

/-- The places that the copies for a node take, when the first copy of all stands at `first`. -/
def copyPlaces (first : Nat) (copies : List (NodeId × Node)) (n : NodeId) : List NodeId :=
  ((copies.zipIdx first).filter (·.1.1 = n)).map fun c => ⟨c.2⟩

/-- The places of the copies for a node are the ones that they take among all copies. -/
theorem mem_copyPlaces_iff {first : Nat} {copies : List (NodeId × Node)} {n c : NodeId} :
    c ∈ copyPlaces first copies n ↔ ∃ copy, (copy, c.index) ∈ copies.zipIdx first ∧ copy.1 = n := by
  simp only [copyPlaces, List.mem_map, List.mem_filter, decide_eq_true_eq]
  constructor
  · rintro ⟨⟨copy, i⟩, ⟨hmem, hn⟩, rfl⟩
    exact ⟨copy, hmem, hn⟩
  · rintro ⟨copy, hmem, hn⟩
    exact ⟨(copy, c.index), ⟨hmem, hn⟩, rfl⟩

/-- No two copies of all take the same place. -/
theorem nodup_map_snd_zipIdx (first : Nat) (copies : List (NodeId × Node)) :
    ((copies.zipIdx first).map (·.2)).Nodup := by
  rw [List.zipIdx_map_snd]
  exact List.nodup_range' 1

/-- A copy is described behind the identifier of its view in the table of the view's container, and
bare in the table of a target. -/
theorem mem_tableNames_iff {d : Document} {view : NodeId} {viewKind : NodeKind} {own : String}
    {t : NodeId × String} : t ∈ tableNames d view viewKind own ↔
      (∃ viewId, d.ownId? view = some viewId ∧ d.parent? view = some t.1 ∧
        t.2 = Name.qualify viewId own) ∨ (viewKind = .targetObject ∧ t = (view, own)) := by
  unfold tableNames
  refine List.mem_append.trans (or_congr ?_ ?_)
  · cases d.ownId? view <;> cases d.parent? view <;> simp [Prod.ext_iff, eq_comm]
  · split <;> simp [*]

/-- The entries that describe a copy for a node of the document, when it stands at a place. -/
def copyEntries (registry : Registry) (d : Document) (c : NodeId × Node) (place : NodeId) :
    List (NodeId × Description) :=
  match c.2.ownId?, d.kind? c.1 with
  | some attributeId, some viewKind =>
    (tableNames d c.1 viewKind attributeId).map fun t =>
      (t.1, d.describe (registry.modelOf? d) place c.2.kind t.2 .localForm)
  | _, _ => []

/-- Append one copy to the node it is for, if that is there. -/
def addCopy (registry : Registry) (s : Derivation) (c : NodeId × Node) : Derivation :=
  match s.document.kind? c.1 with
  | none => s
  | some kind => addAttribute registry c.1 kind s c.2

/-- A node that was there keeps its kind when a copy is attached. -/
theorem kind?_attach_of_kind? {n : NodeId} {kind : NodeKind} (h : d.kind? n = some kind)
    (view : NodeId) (copy : Node) : (attach registry d view copy).kind? n = some kind := by
  have hn := Document.index_lt_of_kind? h
  rw [← h, Document.kind?, Document.kind?, node?_attach_of_lt hn, Option.map_map]
  refine congrArg (Option.map · _) (funext fun node => ?_)
  simp only [Function.comp_apply]
  split <;> rfl

/-- What stands at the place of a copy that was attached. -/
theorem node?_attach_nextNode {view : NodeId} (hview : view.index < d.size) (copy : Node) :
    ∃ g, (attach registry d view copy).node? d.nextNode =
      some { copy with parent := some view, globalId := g } := by
  have hne : view ≠ d.nextNode := by
    rintro rfl
    exact Nat.lt_irrefl _ hview
  refine ⟨registry.globalId? (d.push view copy) d.nextNode, ?_⟩
  rw [attach, Document.node?_modifyNode, if_pos rfl, Document.node?_push, if_pos rfl]
  simp [hne]

/-- Appending a copy to a node that is there attaches it there, and describes it at the end of the
tables. -/
theorem addCopy_of_kind? (registry : Registry) {s : Derivation} {c : NodeId × Node} {k : NodeKind}
    (hk : s.document.kind? c.1 = some k) :
    (addCopy registry s c).document = attach registry s.document c.1 c.2 ∧
      (addCopy registry s c).tables =
        s.tables.append (copyEntries registry s.document c s.document.nextNode) := by
  simp only [addCopy, hk, addAttribute, copyEntries]
  refine ⟨trivial, ?_⟩
  cases c.2.ownId? with
  | none => simp [LocalTables.append]
  | some attributeId => rfl

/-- A further copy takes the next place. -/
theorem copyPlaces_concat (first : Nat) (copies : List (NodeId × Node)) (c : NodeId × Node)
    (n : NodeId) :
    copyPlaces first (copies ++ [c]) n =
      copyPlaces first copies n ++ if c.1 = n then [⟨first + copies.length⟩] else [] := by
  by_cases hcn : c.1 = n <;> simp [copyPlaces, List.zipIdx_append, hcn]

/-- The copies for one view are appended one after another. -/
theorem addView_eq_foldl (registry : Registry) (s : Derivation) (v : ViewPlan) :
    addView registry s v =
      (v.attributes.map fun copy => (v.view, copy)).foldl (addCopy registry) s := by
  unfold addView
  rw [List.foldl_map]
  cases hkind : s.document.kind? v.view with
  | none =>
    induction v.attributes with
    | nil => rfl
    | cons copy copies ih =>
      have hsame : addCopy registry s (v.view, copy) = s := by simp only [addCopy, hkind]
      rw [List.foldl_cons, hsame]
      exact ih
  | some kind =>
    show v.attributes.foldl (addAttribute registry v.view kind) s = _
    induction v.attributes generalizing s with
    | nil => rfl
    | cons copy copies ih =>
      have hadd : addCopy registry s (v.view, copy) = addAttribute registry v.view kind s copy := by
        simp only [addCopy, hkind]
      rw [List.foldl_cons, List.foldl_cons, hadd]
      exact ih _ (kind?_attach_of_kind? hkind v.view copy)

/-- The copies of a plan are appended one after another. -/
theorem apply_eq_foldl (registry : Registry) (p : DerivationPlan) (d : Document)
    (tables : LocalTables) :
    p.apply registry d tables = p.copies.foldl (addCopy registry) { document := d, tables } := by
  rw [DerivationPlan.apply, DerivationPlan.copies, List.foldl_flatMap]
  exact congrArg (fun step => p.views.foldl step _)
    (funext fun s => funext fun v => addView_eq_foldl registry s v)

/-- What a document and its tables have become when copies have been appended. -/
structure Copied (registry : Registry) (d : Document) (tables : LocalTables)
    (copies : List (NodeId × Node)) (s : Derivation) : Prop where
  /-- The document has kept its number. -/
  id_eq : s.document.id = d.id
  /-- The document has kept its address. -/
  uri_eq : s.document.uri = d.uri
  /-- As much is written as before. -/
  parsedLen_eq : s.document.parsedLen = d.parsedLen
  /-- Every copy has taken one place. -/
  size_eq : s.document.size = d.size + copies.length
  /-- Nodes that were there have got the copies for them as children. -/
  node?_old : ∀ n, n.index < d.size → s.document.node? n = (d.node? n).map fun m =>
    { m with children := m.children ++ copyPlaces d.size copies n }
  /-- The copies stand behind them in order, each in the node it is for. -/
  node?_new : ∀ i c, copies[i]? = some c → ∃ g,
    s.document.node? ⟨d.size + i⟩ = some { c.2 with parent := some c.1, globalId := g }
  /-- The entries that describe the copies have been added to the tables in order. -/
  tables_eq : s.tables = tables.append
    ((copies.zipIdx d.size).flatMap fun c => copyEntries registry d c.1 ⟨c.2⟩)

namespace Copied

variable {copies : List (NodeId × Node)} {s : Derivation} (h : Copied registry d tables copies s)
include h

/-- Nodes that were there have kept all but their children. -/
theorem map_node?_old {α : Type} {g : Node → α}
    (hg : ∀ m children, g { m with children } = g m) {n : NodeId} (hn : n.index < d.size) :
    (s.document.node? n).map g = (d.node? n).map g := by
  rw [h.node?_old n hn, Option.map_map]
  exact congrArg (Option.map · _) (funext fun m => hg m _)

theorem kind?_old {n : NodeId} (hn : n.index < d.size) : s.document.kind? n = d.kind? n :=
  h.map_node?_old (fun _ _ => rfl) hn

theorem parent?_old {n : NodeId} (hn : n.index < d.size) : s.document.parent? n = d.parent? n := by
  have hparent := h.map_node?_old (g := (·.parent)) (fun _ _ => rfl) hn
  simpa only [Document.parent?, Option.bind_map, Function.comp_def] using
    congrArg (Option.bind · fun p => p) hparent

theorem ownId?_old {n : NodeId} (hn : n.index < d.size) : s.document.ownId? n = d.ownId? n := by
  have hid := h.map_node?_old (g := (·.ownId?)) (fun _ _ => rfl) hn
  simpa only [Document.ownId?, Option.bind_map, Function.comp_def] using
    congrArg (Option.bind · fun own => own) hid

/-- What stands at the place of a copy. -/
theorem node?_of_mem_zipIdx {c : NodeId × Node} {i : Nat} (hc : (c, i) ∈ copies.zipIdx d.size) :
    ∃ g, s.document.node? ⟨i⟩ = some { c.2 with parent := some c.1, globalId := g } := by
  obtain ⟨hle, hget⟩ := List.mem_zipIdx_iff_le_and_getElem?_sub.1 hc
  have hnode := h.node?_new _ _ hget
  rwa [Nat.add_sub_cancel' hle] at hnode

/-- A copy is inside the node that it is for. -/
theorem parent?_of_mem_zipIdx {c : NodeId × Node} {i : Nat} (hc : (c, i) ∈ copies.zipIdx d.size) :
    s.document.parent? ⟨i⟩ = some c.1 := by
  obtain ⟨g, hg⟩ := h.node?_of_mem_zipIdx hc
  rw [Document.parent?, hg]
  rfl

/-- A node that was not there is a copy. -/
theorem exists_mem_zipIdx {n : NodeId} (hn : d.size ≤ n.index) (hlt : n.index < s.document.size) :
    ∃ c, (c, n.index) ∈ copies.zipIdx d.size := by
  rw [h.size_eq] at hlt
  obtain ⟨c, hc⟩ : ∃ c, copies[n.index - d.size]? = some c :=
    ⟨_, List.getElem?_eq_getElem (by omega)⟩
  exact ⟨c, List.mem_zipIdx_iff_le_and_getElem?_sub.2 ⟨hn, hc⟩⟩

/-- For nodes that were there the entries that describe a copy are the same. -/
theorem copyEntries_eq {c : NodeId × Node} (hview : c.1.index < d.size) (place : NodeId) :
    copyEntries registry s.document c place = copyEntries registry d c place := by
  have hmodel : registry.modelOf? s.document = registry.modelOf? d := by
    rw [Registry.modelOf?, Registry.modelOf?, h.uri_eq]
  simp only [copyEntries, tableNames, hmodel, h.kind?_old hview, h.ownId?_old hview,
    h.parent?_old hview, Document.describe, Document.ptr, h.id_eq, h.uri_eq]

/-- When a further copy is attached, all copies stand behind the old nodes in order. -/
theorem node?_attach_new {c : NodeId × Node} (hview : c.1.index < d.size) {i : Nat}
    {c' : NodeId × Node} (hi : (copies ++ [c])[i]? = some c') :
    ∃ g, (attach registry s.document c.1 c.2).node? ⟨d.size + i⟩ =
      some { c'.2 with parent := some c'.1, globalId := g } := by
  have hsize := h.size_eq
  rcases Nat.lt_or_ge i copies.length with hlt | hge
  · rw [List.getElem?_append_left hlt] at hi
    obtain ⟨g, hg⟩ := h.node?_new i c' hi
    have hplace : (⟨d.size + i⟩ : NodeId).index < s.document.size := by
      show d.size + i < _
      omega
    have hne : c.1 ≠ ⟨d.size + i⟩ := by
      intro heq
      rw [heq] at hview
      exact absurd hview (Nat.not_lt.2 (Nat.le_add_right _ _))
    refine ⟨g, ?_⟩
    rw [node?_attach_of_lt hplace, hg]
    simp [hne]
  · have hlt := (List.getElem?_eq_some_iff.1 hi).1
    rw [List.length_append, List.length_singleton] at hlt
    obtain rfl : i = copies.length := by omega
    rw [List.getElem?_concat_length] at hi
    have hnext : s.document.nextNode = ⟨d.size + copies.length⟩ := congrArg NodeId.mk hsize
    rw [← Option.some.inj hi, ← hnext]
    exact node?_attach_nextNode (by omega) c.2

/-- A further copy for a node that was there takes the next place. -/
theorem addCopy {c : NodeId × Node} (hc : (d.kind? c.1).isSome) :
    Copied registry d tables (copies ++ [c]) (addCopy registry s c) := by
  obtain ⟨viewKind, hkind⟩ := Option.isSome_iff_exists.1 hc
  have hview := Document.index_lt_of_kind? hkind
  have hnext : s.document.nextNode = ⟨d.size + copies.length⟩ := congrArg NodeId.mk h.size_eq
  obtain ⟨hdocument, htables⟩ :=
    addCopy_of_kind? registry (s := s) ((h.kind?_old hview).trans hkind)
  refine ⟨?_, ?_, ?_, ?_, fun n hn => ?_, fun i c' hi => ?_, ?_⟩
  · rw [hdocument]
    exact h.id_eq
  · rw [hdocument]
    exact h.uri_eq
  · rw [hdocument]
    exact h.parsedLen_eq
  · rw [hdocument, size_attach, h.size_eq, List.length_append]
    rfl
  · have hn' : n.index < s.document.size := by
      rw [h.size_eq]
      omega
    rw [hdocument, node?_attach_of_lt hn', h.node?_old n hn, Option.map_map, hnext]
    refine congrArg (Option.map · _) (funext fun m => ?_)
    rw [copyPlaces_concat]
    by_cases hcn : c.1 = n <;> simp [hcn]
  · rw [hdocument]
    exact h.node?_attach_new hview hi
  · rw [htables, h.tables_eq, h.copyEntries_eq hview, hnext, List.zipIdx_append,
      List.flatMap_append, List.zipIdx_singleton, List.flatMap_singleton]
    simp only [LocalTables.append, List.append_assoc]

end Copied

/-- Copies for nodes that are there are appended one after another. -/
theorem copied_foldl {copies : List (NodeId × Node)} (hviews : ∀ c ∈ copies, (d.kind? c.1).isSome) :
    Copied registry d tables copies
      (copies.foldl (addCopy registry) { document := d, tables }) := by
  induction copies using List.reverseRecOn with
  | nil =>
    exact
      { id_eq := rfl
        uri_eq := rfl
        parsedLen_eq := rfl
        size_eq := rfl
        node?_old := fun n _ => by simp [copyPlaces]
        node?_new := fun i c hi => by simp at hi
        tables_eq := by simp [LocalTables.append] }
  | append_singleton copies c ih =>
    rw [List.foldl_append]
    exact (ih fun c' hc' => hviews c' (List.mem_append_left _ hc')).addCopy
      (hviews c (List.mem_append_right _ (List.mem_singleton_self c)))

/-- What applying a plan makes of a document that has all nodes which the plan has copies for. -/
theorem copied_apply (registry : Registry) {p : DerivationPlan} {d : Document}
    (hviews : ∀ c ∈ p.copies, (d.kind? c.1).isSome) (tables : LocalTables) :
    Copied registry d tables p.copies (p.apply registry d tables) := by
  rw [apply_eq_foldl]
  exact copied_foldl hviews

/-- An entry for a copy describes it as a node of the document, under the document's data model. -/
theorem of_mem_copyEntries {c : NodeId × Node} {place : NodeId} {entry : NodeId × Description}
    (h : entry ∈ copyEntries registry d c place) :
    entry.2.node = d.ptr place ∧ entry.2.kind = c.2.kind ∧
      entry.2.dataModel = registry.modelOf? d := by
  unfold copyEntries at h
  split at h
  · obtain ⟨t, -, rfl⟩ := List.mem_map.1 h
    exact ⟨rfl, rfl, rfl⟩
  · cases h

end Derivation

/-- Behind the arena there are no kinds. -/
theorem Document.kind?_eq_none_of_size_le {d : Document} {n : NodeId} (h : d.size ≤ n.index) :
    d.kind? n = none :=
  Option.eq_none_iff_forall_ne_some.2 fun _ hk => Nat.not_lt.2 h (index_lt_of_kind? hk)

/-- A document to which derived attributes have been appended, whatever references remember. -/
structure Document.GrownTo (d e : Document) : Prop where
  /-- The document has kept its number. -/
  id_eq : e.id = d.id
  /-- The document has kept its address. -/
  uri_eq : e.uri = d.uri
  /-- As much is written as before. -/
  parsedLen_eq : e.parsedLen = d.parsedLen
  /-- Nodes that were there have at most got further children, which were not there. -/
  node?_old : ∀ n, n.index < d.size → ∃ more : List NodeId, (∀ c ∈ more, d.size ≤ c.index) ∧
    (e.node? n).map (·.resetReferences) =
      (d.node? n).map fun m => { m.resetReferences with children := m.children ++ more }
  /-- Nodes that were not there are derived attributes. -/
  kind?_new : ∀ n k, d.size ≤ n.index → e.kind? n = some k → k.isDerivedAttribute = true

namespace Document.GrownTo

variable {d e : Document}

/-- What references remember does not count. -/
theorem of_resetReferences_eq (h : e.resetReferences = d.resetReferences) : d.GrownTo e where
  id_eq := (congrArg Document.id h :)
  uri_eq := (congrArg Document.uri h :)
  parsedLen_eq := (congrArg Document.parsedLen h :)
  node?_old := by
    intro n _
    have hnode := congrArg (·.node? n) h
    simp only [node?_resetReferences] at hnode
    refine ⟨[], by simp, hnode.trans (congrArg (Option.map · _) (funext fun m => ?_))⟩
    simp [Node.resetReferences]
  kind?_new := by
    intro n k hn hk
    have hsize : e.size = d.size := (alike_of_resetReferences_eq h).size
    have hlt := index_lt_of_kind? hk
    omega

/-- Appending copies of kinds of derived attributes lets a document grow. -/
theorem of_copied {registry : Registry} {tables : LocalTables} {copies : List (NodeId × Node)}
    {s : Derivation} (h : Derivation.Copied registry d tables copies s)
    (hkinds : ∀ c ∈ copies, c.2.kind.isDerivedAttribute = true) : d.GrownTo s.document where
  id_eq := h.id_eq
  uri_eq := h.uri_eq
  parsedLen_eq := h.parsedLen_eq
  node?_old := by
    intro n hn
    refine ⟨Derivation.copyPlaces d.size copies n, fun c hc => ?_, ?_⟩
    · obtain ⟨c', hc', rfl⟩ := List.mem_map.1 hc
      exact List.le_snd_of_mem_zipIdx (List.mem_filter.1 hc').1
    · rw [h.node?_old n hn, Option.map_map]
      rfl
  kind?_new := by
    intro n k hn hk
    obtain ⟨node, hnode, rfl⟩ := Option.map_eq_some_iff.1 hk
    have hlt := (node?_isSome_iff s.document n).1 (by simp [hnode])
    obtain ⟨c, hc⟩ := h.exists_mem_zipIdx hn hlt
    obtain ⟨g, hg⟩ := h.node?_of_mem_zipIdx hc
    obtain rfl := Option.some.inj (hnode.symm.trans hg)
    exact hkinds c (List.fst_mem_of_mem_zipIdx hc)

variable (h : d.GrownTo e)
include h

/-- Looking up references in the grown document does not count. -/
theorem congr {e' : Document} (heq : e'.resetReferences = e.resetReferences) : d.GrownTo e' where
  id_eq := (congrArg Document.id heq :).trans h.id_eq
  uri_eq := (congrArg Document.uri heq :).trans h.uri_eq
  parsedLen_eq := (congrArg Document.parsedLen heq :).trans h.parsedLen_eq
  node?_old := by
    intro n hn
    obtain ⟨more, hmore, hnode⟩ := h.node?_old n hn
    have hnode' := congrArg (·.node? n) heq
    simp only [node?_resetReferences] at hnode'
    exact ⟨more, hmore, hnode'.trans hnode⟩
  kind?_new := by
    intro n k hn hk
    have hkind := congrArg (fun d : Document => d.kind? n) heq
    simp only [kind?, node?_resetReferences, Option.map_map] at hkind
    exact h.kind?_new n k hn ((hkind.symm.trans hk :))

/-- What depends neither on children nor on what references remember is the same at every old
place. -/
theorem map_node? {α : Type} (g : Node → α) (hreset : ∀ m, g m.resetReferences = g m)
    (hchildren : ∀ m children, g { m with children } = g m) {n : NodeId} (hn : n.index < d.size) :
    (e.node? n).map g = (d.node? n).map g := by
  obtain ⟨more, -, hnode⟩ := h.node?_old n hn
  have hmap := congrArg (·.map g) hnode
  simpa [Function.comp_def, hreset, hchildren] using hmap

theorem kind? {n : NodeId} (hn : n.index < d.size) : e.kind? n = d.kind? n :=
  h.map_node? (·.kind) (fun _ => rfl) (fun _ _ => rfl) hn

theorem parent? {n : NodeId} (hn : n.index < d.size) : e.parent? n = d.parent? n := by
  have hparent := h.map_node? (·.parent) (fun _ => rfl) (fun _ _ => rfl) hn
  simpa only [Document.parent?, Option.bind_map, Function.comp_def] using
    congrArg (Option.bind · fun p => p) hparent

theorem ownId? {n : NodeId} (hn : n.index < d.size) : e.ownId? n = d.ownId? n := by
  have hid := h.map_node? (·.ownId?) (fun _ => rfl) (fun _ _ => rfl) hn
  simpa only [Document.ownId?, Option.bind_map, Function.comp_def] using
    congrArg (Option.bind · fun own => own) hid

/-- What is above an old place is old. -/
theorem ancestors {n : NodeId} (hn : n.index < d.size) : e.ancestors n = d.ancestors n :=
  ancestors_congr_below (fun _ => h.parent?) hn

theorem localId? {n : NodeId} (hn : n.index < d.size) : e.localId? n = d.localId? n :=
  localId?_congr_below (fun _ => h.parent?) (fun _ => h.ownId?) hn

theorem modelOf? (r : Registry) : r.modelOf? e = r.modelOf? d := by
  rw [Registry.modelOf?, Registry.modelOf?, h.uri_eq]

theorem globalId? (r : Registry) {n : NodeId} (hn : n.index < d.size) :
    r.globalId? e n = r.globalId? d n := by
  simp only [Registry.globalId?, h.modelOf?]
  congr 1
  funext name
  simp only [qualifiedId?, h.kind? hn, h.localId? hn]

theorem ancestorOfKind? {n : NodeId} (hn : n.index < d.size) (k : NodeKind) :
    e.ancestorOfKind? n k = d.ancestorOfKind? n k := by
  rw [Document.ancestorOfKind?, Document.ancestorOfKind?, h.ancestors hn, ← List.head?_filter,
    ← List.head?_filter]
  refine congrArg List.head? (List.filter_congr fun a ha => ?_)
  rw [h.kind? (Nat.lt_trans (index_lt_of_mem_ancestors ha) hn)]

/-- Of a kind that no derived attribute has there are the same nodes. -/
theorem kind?_eq_some_iff {k : NodeKind} (hk : k.isDerivedAttribute = false) (n : NodeId) :
    e.kind? n = some k ↔ d.kind? n = some k := by
  rcases Nat.lt_or_ge n.index d.size with hn | hn
  · rw [h.kind? hn]
  · rw [kind?_eq_none_of_size_le hn]
    refine ⟨fun hnew => ?_, fun hold => by cases hold⟩
    rw [h.kind?_new n k hn hnew] at hk
    cases hk

/-- Of a kind that no derived attribute has a node has the same children. -/
theorem childrenOfKind {k : NodeKind} (hk : k.isDerivedAttribute = false) {n : NodeId}
    (hn : n.index < d.size) : e.childrenOfKind n k = d.childrenOfKind n k := by
  obtain ⟨more, hmore, hnode⟩ := h.node?_old n hn
  have hchildren : e.children n = d.children n ++ more := by
    have hmap := congrArg (fun o : Option Node => (o.map (·.children)).getD []) hnode
    obtain ⟨node, hd⟩ := Option.isSome_iff_exists.1 ((node?_isSome_iff d n).2 hn)
    simpa [Document.children, hd, Node.resetReferences, Function.comp_def] using hmap
  have hkinds : ∀ c, decide (e.kind? c = some k) = decide (d.kind? c = some k) := fun c =>
    decide_eq_decide.2 (h.kind?_eq_some_iff hk c)
  have hnil : more.filter (fun c => d.kind? c = some k) = [] := by
    refine List.filter_eq_nil_iff.2 fun c hc => ?_
    simp [kind?_eq_none_of_size_le (hmore c hc)]
  simp only [Document.childrenOfKind, hchildren, hkinds, List.filter_append, hnil,
    List.append_nil]

/-- The text of a reference of an old node. -/
theorem text? {n : NodeId} (hn : n.index < d.size) (p : Property) (i : Nat) :
    ((e.node? n).bind (·.referenceAt? p i)).map (·.text) =
      ((d.node? n).bind (·.referenceAt? p i)).map (·.text) :=
  text?_of_texts (h.map_node? _ (fun node => node.texts_resetReferences p) (fun _ _ => rfl) hn) i

end Document.GrownTo

end ModelBinding
