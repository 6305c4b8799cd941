import ModelBinding.Proofs.Meaning
import ModelBinding.Proofs.Origin

/-!
# What earlier exports leave behind

An export computes the Global IDs of the nodes of identified kinds and then lists all
nodes that remember one. A node that has come to be of another kind since the last export
is passed over by the first and met by the second, so it is exported under what it still
remembers (`isLeftover`). Otherwise an export depends on the tree, the kinds, the
identifiers, the address and the registry alone: it is the one of the same document
written afresh (`exports_eq_published_iff`).

A document comes to be by being drafted, numbered, exported, built and edited, in any
order; beside it runs the document that was only drafted, numbered and edited
(`Handled`), and that one is the other written afresh (`Handled.renews`).
-/

namespace ModelBinding

/-- What an export reads of a node, but for the Global ID that it remembers. -/
def Node.shape (n : Node) : NodeKind × Option String × Option NodeId × List NodeId :=
  (n.kind, n.id, n.parent, n.children)

namespace Document

variable {d e : Document} {r : Registry}

/-- Overwrite what an author may change of a node. What the node remembers stays. -/
def edit (d : Document) (n : NodeId) (kind : NodeKind) (id : Option String)
    (references : List (Property × Reference)) : Document :=
  d.modifyNode n fun node => { node with kind, id, references }

/-- A node with an identifier and of no identified kind that remembers a Global ID. -/
def isLeftover (d : Document) (n : NodeId) : Bool :=
  (d.node? n).any fun node =>
    !node.kind.isIdentified && node.ownId?.isSome && node.globalId.isSome

/-- What a node of an identified kind is to be exported as: itself under its Local ID, then under
the Global ID that it has now. -/
def published (d : Document) (r : Registry) (n : NodeId) : List Description :=
  match d.kind? n, d.localId? n, r.globalId? d n with
  | some k, some l, some g =>
    if k.isIdentified then
      [d.describe (r.modelOf? d) n k l .localForm, d.describe (r.modelOf? d) n k g .globalForm]
    else []
  | _, _, _ => []

/-- The document `e` is `d` written afresh: the same tree of the same kinds and identifiers, under
the same number and address, in which nothing is derived and no Global ID is remembered. -/
structure Renews (e d : Document) : Prop where
  /-- They have the same number. -/
  id_eq : e.id = d.id
  /-- They have the same address. -/
  uri_eq : e.uri = d.uri
  /-- All of the one is written. -/
  parsedLen_eq : e.parsedLen = d.parsedLen
  /-- No node of the one remembers a Global ID. -/
  globalId_eq : ∀ n node, e.node? n = some node → node.globalId = none
  /-- At each place both have a written node of the same shape, or none. -/
  map_node? : ∀ n, (e.node? n).map (·.shape) = (d.dropDerived.node? n).map (·.shape)

/-- The document `d` was drafted, and then numbered, exported, built and edited in some order; `e`
was drafted, numbered and edited in the same way, but never exported or built. -/
inductive Handled : Document → Document → Prop
  /-- A document just as its author wrote it. -/
  | drafted {d : Document} (hd : d.Drafted) : Handled d d
  /-- The document is handed to a workspace and gets a number there. -/
  | numbered {e d : Document} (h : Handled e d) (id : DocumentId) :
      Handled { e with id } { d with id }
  /-- The document is exported under some registry. -/
  | exported {e d : Document} (h : Handled e d) (r : Registry) : Handled e (d.prepare r)
  /-- A build derives nodes. -/
  | built {e d : Document} (h : Handled e d) (p : DerivationPlan) (r : Registry)
      (tables : LocalTables) : Handled e (p.apply r d tables).document
  /-- A node is edited. -/
  | edited {e d : Document} (h : Handled e d) (n : NodeId) (kind : NodeKind) (id : Option String)
      (references : List (Property × Reference)) :
      Handled (e.edit n kind id references) (d.edit n kind id references)

/-- It does not matter whether the derived nodes are dropped before or after editing. -/
theorem dropDerived_edit (d : Document) (n : NodeId) (kind : NodeKind) (id : Option String)
    (references : List (Property × Reference)) :
    (d.edit n kind id references).dropDerived = d.dropDerived.edit n kind id references := by
  refine ext_node? rfl rfl rfl fun m => ?_
  have hlen : (d.edit n kind id references).parsedLen = d.parsedLen := rfl
  rw [node?_dropDerived, hlen, edit, edit, node?_modifyNode, node?_modifyNode, node?_dropDerived]
  by_cases hm : n = m <;> by_cases hlt : m.index < d.parsedLen <;>
    simp [hm, hlt, Function.comp_def]

/-- What is published of a node, by the Global ID that counts for it. -/
theorem published_eq {n : NodeId} {k : NodeKind} (hk : d.kind? n = some k) :
    d.published r n =
      match if k.isIdentified then r.globalId? d n else none, d.localId? n with
      | some g, some l =>
        [d.describe (r.modelOf? d) n k l .localForm, d.describe (r.modelOf? d) n k g .globalForm]
      | _, _ => [] := by
  rw [published, hk]
  by_cases hidentified : k.isIdentified <;> cases d.localId? n <;> cases r.globalId? d n <;>
    simp [hidentified]

/-- All that is published of a node is of its kind, and that is an identified one. -/
theorem isIdentified_of_mem_published {n : NodeId} {x : Description} (hx : x ∈ d.published r n) :
    x.kind.isIdentified = true := by
  unfold published at hx
  split at hx
  · split at hx
    · simp only [List.mem_cons, List.not_mem_nil, or_false] at hx
      rcases hx with rfl | rfl <;> assumption
    · cases hx
  · cases hx

/-- Something is published of a node exactly if a data model owns the document, the kind of the
node is identified and the node has an identifier. -/
theorem published_ne_nil_iff {n : NodeId} :
    d.published r n ≠ [] ↔
      (r.modelOf? d).isSome ∧ (d.kind? n).any (·.isIdentified) = true ∧ (d.ownId? n).isSome := by
  constructor
  · intro hne
    unfold published at hne
    split at hne
    · rename_i k l g hk hl hg
      split at hne
      · rename_i hidentified
        refine ⟨?_, by rw [hk]; exact hidentified, ?_⟩
        · by_contra hnone
          rw [Registry.globalId?_eq_none_of_modelOf?_eq_none
            (Option.not_isSome_iff_eq_none.1 hnone)]
            at hg
          cases hg
        · by_contra hnone
          rw [(d.localId?_eq_none_iff n).2 (Option.not_isSome_iff_eq_none.1 hnone)] at hl
          cases hl
      · exact absurd rfl hne
    · exact absurd rfl hne
  · rintro ⟨hmodel, hkind, hown⟩
    obtain ⟨m, hm⟩ := Option.isSome_iff_exists.1 hmodel
    obtain ⟨k, hk, hidentified⟩ := (Option.any_eq_true ..).1 hkind
    obtain ⟨own, hown⟩ := Option.isSome_iff_exists.1 hown
    have hl : d.localId? n = some (Name.join (d.containerIds n ++ [own])) := by
      rw [localId?, hown, Option.map_some]
    obtain ⟨g, hg⟩ := Registry.exists_globalId? hm hk hl
    simp [published, hk, hl, hg, hidentified]

namespace Renews

variable (h : e.Renews d)
include h

/-- What shapes decide is the same in both. -/
theorem map_eq {α : Type} {f : Node → α}
    (g : NodeKind × Option String × Option NodeId × List NodeId → α)
    (hf : ∀ node, g node.shape = f node) (n : NodeId) :
    (e.node? n).map f = (d.dropDerived.node? n).map f := by
  have hshape : g ∘ Node.shape = f := funext hf
  rw [← hshape, ← Option.map_map, h.map_node?, Option.map_map]

theorem kind? (n : NodeId) : e.kind? n = d.dropDerived.kind? n :=
  h.map_eq (·.1) (fun _ => rfl) n

theorem parent? (n : NodeId) : e.parent? n = d.dropDerived.parent? n := by
  have hparent := h.map_eq (f := (·.parent)) (·.2.2.1) (fun _ => rfl) n
  simpa only [Document.parent?, Option.bind_map, Function.comp_def] using
    congrArg (Option.bind · fun p => p) hparent

theorem ownId? (n : NodeId) : e.ownId? n = d.dropDerived.ownId? n := by
  have hid := h.map_eq (f := (·.ownId?)) (·.2.1.filter (· ≠ "")) (fun _ => rfl) n
  simpa only [Document.ownId?, Option.bind_map, Function.comp_def] using
    congrArg (Option.bind · fun own => own) hid

/-- They are walked alike when they are exported. -/
theorem walk_prepare (r : Registry) : (d.prepare r).walk = e.walk := by
  refine descendants_congr (fun n => ?_) .root
  rw [h.map_eq (f := (·.children)) (·.2.2.2) (fun _ => rfl), prepare, node?_rememberGlobalIds,
    Option.map_map]
  refine congrArg (Option.map · _) (funext fun node => ?_)
  simp only [Function.comp_apply]
  split <;> rfl

/-- All of the document written afresh is written. -/
theorem index_lt {n : NodeId} {node : Node} (hn : e.node? n = some node) :
    n.index < d.parsedLen := by
  by_contra hlt
  have hshape := h.map_node? n
  rw [hn, node?_dropDerived, if_neg hlt] at hshape
  cases hshape

/-- The document written afresh has nothing to be dropped. -/
theorem dropDerived_eq : e.dropDerived = e := by
  refine ext_node? rfl rfl rfl fun n => ?_
  rw [node?_dropDerived, h.parsedLen_eq]
  cases hn : e.node? n with
  | none => simp
  | some node =>
    obtain ⟨old, hold, hshape⟩ : ∃ old, d.dropDerived.node? n = some old ∧
        old.shape = node.shape := by
      simpa [hn, eq_comm] using h.map_node? n
    have hchildren : node.children.filter (·.index < d.parsedLen) = node.children := by
      rw [node?_dropDerived, if_pos (h.index_lt hn)] at hold
      obtain ⟨written, -, rfl⟩ := Option.map_eq_some_iff.1 hold
      have hsame : written.children.filter (·.index < d.parsedLen) = node.children :=
        (congrArg (·.2.2.2) hshape :)
      rw [← hsame, List.filter_filter]
      simp only [Bool.and_self]
    rw [if_pos (h.index_lt hn), Option.map_some, hchildren]

/-- A document written afresh is so with respect to itself. -/
theorem refl : e.Renews e where
  id_eq := rfl
  uri_eq := rfl
  parsedLen_eq := rfl
  globalId_eq := h.globalId_eq
  map_node? n := by rw [h.dropDerived_eq]

/-- A prepared document has the Local IDs of the document written afresh. -/
theorem localId?_prepare (r : Registry) (n : NodeId) :
    (d.prepare r).localId? n = e.localId? n := by
  rw [localId?_congr (d := d.dropDerived) h.parent? h.ownId?, prepare]
  exact localId?_congr (parent?_rememberGlobalIds _ r) (ownId?_rememberGlobalIds _ r) n

/-- A prepared document gives its nodes the descriptions that they have in the document written
afresh. -/
theorem describe_prepare (r : Registry) (n : NodeId) (k : NodeKind) (name : String)
    (form : NameForm) : (d.prepare r).describe (r.modelOf? (d.prepare r)) n k name form =
      e.describe (r.modelOf? e) n k name form := by
  simp only [describe, ptr, Registry.modelOf?, h.id_eq, h.uri_eq, id_prepare, uri_prepare]

/-- What is exported of a node: the Global ID is the one that the node has now if its kind is
identified, and the one that it remembers if not. -/
theorem exportEntries_prepare (r : Registry) {n : NodeId} {node : Node}
    (hnode : d.dropDerived.node? n = some node) :
    (d.prepare r).exportEntries (r.modelOf? (d.prepare r)) n =
      match if node.kind.isIdentified then r.globalId? e n else node.globalId, e.localId? n with
      | some g, some l =>
        [e.describe (r.modelOf? e) n node.kind l .localForm,
          e.describe (r.modelOf? e) n node.kind g .globalForm]
      | _, _ => [] := by
  have hglobal : r.globalId? d.dropDerived n = r.globalId? e n :=
    (globalId?_congr (d := d.dropDerived) h.uri_eq h.kind? h.parent? h.ownId? r n).symm
  have hprepared : (d.prepare r).node? n =
      some (if node.kind.isIdentified then { node with globalId := r.globalId? e n }
        else node) := by
    rw [prepare, node?_rememberGlobalIds, hnode, Option.map_some, hglobal]
  simp only [exportEntries, hprepared, h.localId?_prepare, h.describe_prepare]
  cases node.kind.isIdentified <;> rfl

/-- Whether something is left over at a place where something is written. -/
theorem isLeftover_eq {n : NodeId} {node : Node} (hnode : d.dropDerived.node? n = some node) :
    d.isLeftover n =
      (!node.kind.isIdentified && (e.localId? n).isSome && node.globalId.isSome) := by
  have hlocal : (e.localId? n).isSome = node.ownId?.isSome := by
    rw [localId?, Option.isSome_map, h.ownId?, Document.ownId?, hnode, Option.bind_some]
  rw [node?_dropDerived] at hnode
  split at hnode
  · obtain ⟨old, hold, rfl⟩ := Option.map_eq_some_iff.1 hnode
    rw [isLeftover, hold, Option.any_some, hlocal]
    rfl
  · cases hnode

/-- Where nothing is left over the export lists what is published of the node. -/
theorem exportEntries_of_not_isLeftover (r : Registry) {n : NodeId}
    (hn : d.isLeftover n = false) :
    (d.prepare r).exportEntries (r.modelOf? (d.prepare r)) n = e.published r n := by
  have hkind : e.kind? n = (d.dropDerived.node? n).map (·.kind) := h.kind? n
  cases hnode : d.dropDerived.node? n with
  | none =>
    have hprepared : (d.prepare r).node? n = none := by
      rw [prepare, node?_rememberGlobalIds, hnode, Option.map_none]
    simp only [exportEntries, published, hprepared, hkind, hnode, Option.map_none]
  | some node =>
    rw [hnode, Option.map_some] at hkind
    rw [h.exportEntries_prepare r hnode, published_eq hkind]
    by_cases hidentified : node.kind.isIdentified
    · simp only [if_pos hidentified]
    · -- The node has no identifier or remembers nothing, so it is not exported.
      rw [h.isLeftover_eq hnode] at hn
      simp only [if_neg hidentified]
      cases hl : e.localId? n with
      | none => cases node.globalId <;> rfl
      | some l =>
        have hglobal : node.globalId = none := by simpa [hidentified, hl] using hn
        rw [hglobal]

/-- Where something is left over it is exported under a kind that is not identified. -/
theorem exists_mem_exports_of_isLeftover (r : Registry) {n : NodeId} (hwalk : n ∈ e.walk)
    (hn : d.isLeftover n = true) :
    ∃ x ∈ (d.prepare r).exports r, x.kind.isIdentified = false := by
  obtain ⟨node, hnode⟩ : ∃ node, d.dropDerived.node? n = some node := by
    obtain ⟨fresh, hfresh⟩ := exists_node?_of_mem_descendants hwalk
    have hshape := h.map_node? n
    rw [hfresh, Option.map_some, eq_comm, Option.map_eq_some_iff] at hshape
    obtain ⟨node, hnode, -⟩ := hshape
    exact ⟨node, hnode⟩
  rw [h.isLeftover_eq hnode] at hn
  simp only [Bool.and_eq_true, Bool.not_eq_true', Option.isSome_iff_exists] at hn
  obtain ⟨⟨hkind, l, hl⟩, g, hg⟩ := hn
  refine ⟨e.describe (r.modelOf? e) n node.kind l .localForm,
    List.mem_flatMap.2 ⟨n, h.walk_prepare r ▸ hwalk, ?_⟩, hkind⟩
  have hentries := h.exportEntries_prepare r hnode
  rw [hkind, hl, hg] at hentries
  exact hentries ▸ List.mem_cons_self ..

/-- A document is exported as the one written afresh is published, unless a node is left over. -/
theorem exports_prepare_iff (r : Registry) :
    (d.prepare r).exports r = e.walk.flatMap (e.published r) ↔
      ∀ n ∈ e.walk, d.isLeftover n = false := by
  constructor
  · intro heq n hwalk
    rw [Bool.eq_false_iff]
    intro hn
    obtain ⟨x, hx, hkind⟩ := h.exists_mem_exports_of_isLeftover r hwalk hn
    rw [heq] at hx
    obtain ⟨m, -, hm⟩ := List.mem_flatMap.1 hx
    rw [isIdentified_of_mem_published hm] at hkind
    cases hkind
  · intro hclean
    rw [exports, h.walk_prepare]
    exact List.flatMap_congr fun n hn => h.exportEntries_of_not_isLeftover r (hclean n hn)

/-- A document that has kept its number, its address and what is written in it is renewed by the
same. -/
theorem congr {d' : Document} (hid : d'.id = d.id) (huri : d'.uri = d.uri)
    (hlen : d'.parsedLen = d.parsedLen)
    (hnode : ∀ n, (d'.dropDerived.node? n).map (·.shape) = (d.dropDerived.node? n).map (·.shape)) :
    e.Renews d' where
  id_eq := h.id_eq.trans hid.symm
  uri_eq := h.uri_eq.trans huri.symm
  parsedLen_eq := h.parsedLen_eq.trans hlen.symm
  globalId_eq := h.globalId_eq
  map_node? n := (h.map_node? n).trans (hnode n).symm

/-- Editing both in the same way keeps the one the other written afresh. -/
theorem edit (n : NodeId) (kind : NodeKind) (id : Option String)
    (references : List (Property × Reference)) :
    (e.edit n kind id references).Renews (d.edit n kind id references) where
  id_eq := h.id_eq
  uri_eq := h.uri_eq
  parsedLen_eq := h.parsedLen_eq
  globalId_eq m node hnode := by
    rw [Document.edit, node?_modifyNode] at hnode
    split at hnode
    · obtain ⟨old, hold, rfl⟩ := Option.map_eq_some_iff.1 hnode
      exact h.globalId_eq m old hold
    · exact h.globalId_eq m node hnode
  map_node? m := by
    rw [dropDerived_edit, Document.edit, Document.edit, node?_modifyNode, node?_modifyNode]
    split
    · -- Editing replaces two parts of the shape and keeps the others.
      have hedited := congrArg (Option.map fun shape => (kind, id, shape.2.2)) (h.map_node? m)
      rw [Option.map_map, Option.map_map] at hedited ⊢
      exact hedited
    · exact h.map_node? m

end Renews

namespace Handled

/-- At most what is there is written. -/
theorem parsedLen_le_size (h : Handled e d) : d.parsedLen ≤ d.size := by
  induction h with
  | drafted hd => exact Nat.le_of_eq hd.plain.parsedLen_eq
  | numbered h id ih => exact ih
  | @exported e d h r ih => exact Nat.le_of_eq (d.parsedLen_prepare r ih)
  | built h p r tables ih =>
    have hgrown := Derivation.grownFrom_apply r p ih tables
    exact hgrown.parsedLen_eq ▸ Nat.le_trans ih hgrown.size_le
  | edited h n kind id references ih =>
    rw [edit, size_modifyNode]
    exact ih

/-- Beside a document that comes to be in any of these ways stands the same one written afresh. -/
theorem renews (h : Handled e d) : e.Renews d := by
  induction h with
  | drafted hd =>
    have hplain := hd.plain
    exact ⟨rfl, rfl, rfl, fun n node hn => (hplain.nodes n node hn).globalId_eq,
      fun n => by rw [hplain.dropDerived_eq]⟩
  | numbered h id ih => exact ⟨rfl, ih.uri_eq, ih.parsedLen_eq, ih.globalId_eq, ih.map_node?⟩
  | @exported e d h r ih =>
    refine ih.congr rfl rfl rfl fun n => ?_
    rw [dropDerived_prepare, prepare, node?_rememberGlobalIds, Option.map_map]
    refine congrArg (Option.map · _) (funext fun node => ?_)
    simp only [Function.comp_apply]
    split <;> rfl
  | built h p r tables ih =>
    have hgrown := Derivation.grownFrom_apply r p h.parsedLen_le_size tables
    exact ih.congr hgrown.id_eq hgrown.uri_eq hgrown.parsedLen_eq fun n => by
      rw [hgrown.dropDerived_eq]
  | edited h n kind id references ih => exact ih.edit n kind id references

end Handled

/-- A document that was drafted, numbered, exported, built and edited in some order, and the one
beside it that was only drafted, numbered and edited: the latter is exported as the nodes of
identified kinds with an identifier, each under its Local ID and its Global ID, if a data model owns
it, and as nothing else. The former is exported in the same way exactly if no node of another kind
has kept a Global ID. -/
theorem exports_eq_published_iff (h : Handled e d) (r : Registry) :
    (∀ n, e.published r n ≠ [] ↔
      (r.modelOf? e).isSome ∧ (e.kind? n).any (·.isIdentified) = true ∧ (e.ownId? n).isSome) ∧
    (e.prepare r).exports r = e.walk.flatMap (e.published r) ∧
    ((d.prepare r).exports r = e.walk.flatMap (e.published r) ↔
      ∀ n ∈ e.walk, d.isLeftover n = false) := by
  have hrenews := h.renews
  refine ⟨fun n => published_ne_nil_iff, hrenews.refl.exports_prepare_iff r |>.2 fun n _ => ?_,
    hrenews.exports_prepare_iff r⟩
  rw [isLeftover]
  cases hn : e.node? n with
  | none => rfl
  | some node => simp [hrenews.globalId_eq n node hn]

/-- A document with one entity, as a workspace numbers it. -/
def lone : Document := { Session.shopDocument "a.cm" "E" with id := ⟨0⟩ }

/-- The same exported, and then edited. -/
def loneEdited (kind : NodeKind) (id : Option String) : Document :=
  (lone.prepare Session.shopRegistry).edit ⟨1⟩ kind id []

/-- Beside it stands the document that was edited without having been exported. -/
theorem handled_lone (kind : NodeKind) (id : Option String) :
    Handled (lone.edit ⟨1⟩ kind id []) (loneEdited kind id) :=
  (((Handled.drafted (Session.drafted_flat _ _)).numbered ⟨0⟩).exported
    Session.shopRegistry).edited ⟨1⟩ kind id []

/-- An entity that is renamed after an export is exported under its new names. -/
theorem exports_eq_published_iff_renamed :
    ((loneEdited .logicalEntity (some "F")).prepare Session.shopRegistry).exports
        Session.shopRegistry =
      [⟨"F", .logicalEntity, ⟨⟨0⟩, ⟨1⟩⟩, "file:///shop/a.cm", some ⟨"shop"⟩, .localForm⟩,
        ⟨"shop.F", .logicalEntity, ⟨⟨0⟩, ⟨1⟩⟩, "file:///shop/a.cm", some ⟨"shop"⟩,
          .globalForm⟩] := by
  have hclean : ∀ n ∈ (lone.edit ⟨1⟩ .logicalEntity (some "F") []).walk,
      (loneEdited .logicalEntity (some "F")).isLeftover n = false := by decide +kernel
  rw [(exports_eq_published_iff (handled_lone .logicalEntity (some "F"))
    Session.shopRegistry).2.2.2 hclean]
  decide +kernel

/-- An entity that becomes a target object after an export is exported as a target object, whereas
one that was a target object all the time is not exported. -/
theorem exports_leftover :
    Handled (lone.edit ⟨1⟩ .targetObject (some "E") []) (loneEdited .targetObject (some "E")) ∧
      ((lone.edit ⟨1⟩ .targetObject (some "E") []).prepare Session.shopRegistry).exports
        Session.shopRegistry = [] ∧
      ((loneEdited .targetObject (some "E")).prepare Session.shopRegistry).exports
          Session.shopRegistry =
        [⟨"E", .targetObject, ⟨⟨0⟩, ⟨1⟩⟩, "file:///shop/a.cm", some ⟨"shop"⟩, .localForm⟩,
          ⟨"shop.E", .targetObject, ⟨⟨0⟩, ⟨1⟩⟩, "file:///shop/a.cm", some ⟨"shop"⟩,
            .globalForm⟩] := by
  refine ⟨handled_lone .targetObject (some "E"), ?_, ?_⟩
  · decide +kernel
  · decide +kernel

end Document

end ModelBinding
