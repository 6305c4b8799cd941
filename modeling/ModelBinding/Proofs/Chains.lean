import ModelBinding.Proofs.Meaning

/-!
# Imagined chains

A site at the end of an imagined chain is resolved in a copy of a document with the chain
in it. Nothing is declared in the chain, so around its last node the tables show what is
declared around the written nodes that the chain hangs in
(`Snapshot.Current.flatten_containerLayers_of_ground?`). An existing node counts as the
end of an empty chain, so both sorts of sites are resolved alike (`resolve_of_ground?`).
-/

namespace ModelBinding

/-- What resolution reads of a node under a property: its kind and the texts of its references. -/
def Node.reading (n : Node) (p : Property) : NodeKind × List String :=
  (n.kind, (n.referencesOf p).map (·.text))

/-- What a build remembers in a node is not read. -/
@[simp] theorem Node.reading_bare (n : Node) (p : Property) : n.bare.reading p = n.reading p := by
  unfold bare
  split <;> exact congrArg (Prod.mk n.kind) (n.texts_resetReferences p)

namespace Document

variable {d e : Document}

/-- The written nodes among a node and its containers, innermost first. -/
def writtenAround (d : Document) (n : NodeId) : List NodeId :=
  (n :: d.ancestors n).filter (!d.isDerived ·)

/-- What is read of a written node is written. -/
theorem reading_source {n : NodeId} (hn : d.isDerived n = false) (p : Property) :
    (d.source.node? n).map (·.reading p) = (d.node? n).map (·.reading p) := by
  have hlt : n.index < d.parsedLen := by simpa [isDerived] using hn
  have hnode : d.source.node? n = (d.dropDerived.node? n).map (·.bare) := node?_bare _ n
  rw [hnode, node?_dropDerived, if_pos hlt, Option.map_map, Option.map_map]
  exact congrArg (Option.map · _) (funext fun m => Node.reading_bare _ p)

/-- Documents with the same source are derived behind the same place. -/
theorem isDerived_of_source_eq (h : e.source = d.source) (n : NodeId) :
    e.isDerived n = d.isDerived n := by
  have hlen : e.parsedLen = d.parsedLen := (congrArg parsedLen h :)
  rw [isDerived, isDerived, hlen]

/-- Around a written node the written nodes are the same in documents with the same source. -/
theorem writtenAround_of_source_eq (h : e.source = d.source) {n : NodeId}
    (hn : d.isDerived n = false) : e.writtenAround n = d.writtenAround n := by
  have hancestors : ∀ {f : Document}, f.isDerived n = false →
      f.ancestors n = f.source.ancestors n := by
    intro f hf
    have hlt : n.index < f.parsedLen := by simpa [isDerived] using hf
    rw [ancestors_congr f.parent?_source, ancestors_dropDerived hlt]
  have hn' : e.isDerived n = false := (isDerived_of_source_eq h n).trans hn
  rw [writtenAround, writtenAround, hancestors hn, hancestors hn', h,
    funext (isDerived_of_source_eq h)]

/-- A written node is known by the written nodes around it. -/
theorem eq_of_writtenAround_eq {n m : NodeId} (hn : d.isDerived n = false)
    (hm : e.isDerived m = false) (h : e.writtenAround m = d.writtenAround n) : m = n := by
  have hcons : ∀ {f : Document} {k : NodeId}, f.isDerived k = false →
      f.writtenAround k = k :: (f.ancestors k).filter (!f.isDerived ·) := fun hk =>
    List.filter_cons_of_pos (by simp [hk])
  rw [hcons hn, hcons hm] at h
  exact (List.cons.inj h).1

/-- Nothing is declared in a derived node. -/
theorem declaredIn_source_of_isDerived (r : Registry) {n : NodeId} (hn : d.isDerived n = true) :
    d.source.declaredIn r n = [] := by
  have hlt : ¬ n.index < d.parsedLen := by simpa [isDerived] using hn
  rw [declaredIn, children_source, children, node?_dropDerived, if_neg hlt]
  rfl

end Document

namespace Snapshot

/-- A chain adds nothing that is written. -/
theorem isDerived_hang (d : Document) (n : NodeId) (nodes : List ImaginedNode) :
    (hang d n nodes).1.isDerived = d.isDerived := by
  induction nodes generalizing d n with
  | nil => rfl
  | cons a nodes ih => exact ih _ _

open Document in
/-- Around the last node of a chain the written nodes are those around the node that it hangs in. -/
theorem writtenAround_hang {d : Document} (hle : d.parsedLen ≤ d.size) {n : NodeId}
    (hn : n.index < d.size) (nodes : List ImaginedNode) :
    (hang d n nodes).1.writtenAround (hang d n nodes).2 = d.writtenAround n := by
  induction nodes generalizing d n with
  | nil => rfl
  | cons a nodes ih =>
    have hsize := d.size_push n (nodeOfImagined a)
    have hlen : (d.push n (nodeOfImagined a)).parsedLen = d.parsedLen := rfl
    have hnext : d.nextNode.index = d.size := rfl
    have hparent : (d.push n (nodeOfImagined a)).parent? d.nextNode = some n := by
      rw [parent?_push, if_pos rfl]
    have hold : (d.push n (nodeOfImagined a)).ancestors n = d.ancestors n := by
      refine ancestors_congr_below (k := d.size) (fun m hm => ?_) hn
      rw [parent?_push, if_neg]
      rintro rfl
      exact Nat.lt_irrefl _ hm
    have hderived : (d.push n (nodeOfImagined a)).isDerived = d.isDerived := rfl
    have hlast : d.isDerived d.nextNode = true := by simpa [isDerived, hnext] using hle
    rw [hang, ih (by omega) (by omega), writtenAround, writtenAround, ancestors, hparent]
    simp only [hnext, hn, if_true, hold, hderived]
    rw [List.filter_cons_of_neg (by simp [hlast])]

/-- What is read of the last node of a chain is what was imagined. -/
theorem reading_hang (d : Document) (n : NodeId) (nodes : List ImaginedNode) (p : Property) :
    ((hang d n nodes).1.node? (hang d n nodes).2).map (·.reading p) =
      (nodes.getLast?.map fun a => (nodeOfImagined a).reading p).or
        ((d.node? n).map (·.reading p)) := by
  induction nodes generalizing d n with
  | nil => rfl
  | cons a nodes ih =>
    have hnew : ((d.push n (nodeOfImagined a)).node? d.nextNode).map (·.reading p) =
        some ((nodeOfImagined a).reading p) := by
      rw [Document.node?_push, if_pos rfl, Option.map_some, Option.map_some]
      split <;> rfl
    rw [hang, ih, hnew, List.getLast?_cons]
    cases nodes.getLast? <;> rfl

/-- At the end of a chain the same is read where the chain hangs in the same written nodes; a chain
without nodes ends in the node that it hangs in, which must be written. -/
theorem reading_hang_congr {b b' : Document × NodeId} {nodes : List ImaginedNode}
    (hsource : b'.1.source = b.1.source) (hderived : b'.1.isDerived b'.2 = b.1.isDerived b.2)
    (haround : b'.1.writtenAround b'.2 = b.1.writtenAround b.2)
    (hwritten : nodes = [] → b.1.isDerived b.2 = false) (p : Property) :
    ((hang b'.1 b'.2 nodes).1.node? (hang b'.1 b'.2 nodes).2).map (·.reading p) =
      ((hang b.1 b.2 nodes).1.node? (hang b.1 b.2 nodes).2).map (·.reading p) := by
  rw [reading_hang, reading_hang]
  cases hnodes : nodes with
  | nil =>
    have hb := hwritten hnodes
    have hb' := hderived.trans hb
    have hsame : b'.2 = b.2 := Document.eq_of_writtenAround_eq hb hb' haround
    rw [← Document.reading_source hb, ← Document.reading_source hb', hsource, hsame]
  | cons a nodes => rw [List.getLast?_cons, Option.map_some, Option.some_or, Option.some_or]

/-- Where the chain of a site hangs; an existing node is the end of an empty chain. -/
def ground? (s : Snapshot) (site : Site) : Option (Document × NodeId) :=
  match site.container with
  | .node ptr => (s.workspace.get? ptr.document).map fun d => (d, ptr.node)
  | .imagined c => (s.base c).toOption

end Snapshot

/-- The imagined nodes of a site. -/
def Site.chain (site : Site) : List ImaginedNode :=
  match site.container with
  | .node _ => []
  | .imagined c => c.nodes

namespace Snapshot

variable {s : Snapshot} {site : Site} {b : Document × NodeId}

/-- A chain hangs in what it is based on. -/
theorem base_of_ground? {c : ImaginedChain} {p : Property} {i : Nat}
    (hb : s.ground? ⟨.imagined c, p, i⟩ = some b) : s.base c = .ok b := by
  cases hbase : s.base c with
  | error err => simp [ground?, hbase, Except.toOption] at hb
  | ok b' => simpa [ground?, hbase, Except.toOption] using hb

/-- A site that is there hangs somewhere. -/
theorem exists_ground? {d : Document} {node : Node} (hsite : s.siteAt? site = some (d, node)) :
    ∃ b, s.ground? site = some b ∧ (hang b.1 b.2 site.chain).1 = d ∧
      d.node? (hang b.1 b.2 site.chain).2 = some node := by
  obtain ⟨container, p, i⟩ := site
  cases container with
  | node ptr =>
    simp only [siteAt?, place, Resolver.locate, resolver] at hsite
    cases hd : s.workspace.get? ptr.document with
    | none => simp [hd] at hsite
    | some d' =>
      cases hnode : d'.node? ptr.node with
      | none => simp [hd, hnode] at hsite
      | some node' =>
        simp only [hd, hnode, Option.some.injEq, Prod.mk.injEq] at hsite
        obtain ⟨rfl, rfl⟩ := hsite
        exact ⟨(d', ptr.node), by simp [ground?, hd], rfl, hnode⟩
  | imagined c =>
    cases hbase : s.base c with
    | error err => simp [siteAt?, place, materialize, hbase, Except.map] at hsite
    | ok b =>
      rw [siteAt?_imagined hbase] at hsite
      obtain ⟨node', hnode, heq⟩ := Option.map_eq_some_iff.1 hsite
      cases heq
      exact ⟨b, by simp [ground?, hbase, Except.toOption], rfl, hnode⟩

/-- A site is resolved at the last node of its chain, by the index and the registry of the
snapshot. -/
theorem exists_place (hb : s.ground? site = some b) :
    ∃ r ptr, s.place site = .ok (r, ptr) ∧
      r.document? ptr.document = some (hang b.1 b.2 site.chain).1 ∧
      ptr.node = (hang b.1 b.2 site.chain).2 ∧
      ∀ d n k, r.generalScope d n k = s.resolver.generalScope d n k := by
  obtain ⟨container, p, i⟩ := site
  cases container with
  | node ptr =>
    obtain ⟨d, hd, rfl⟩ := Option.map_eq_some_iff.1 hb
    exact ⟨s.resolver, ptr, rfl, hd, rfl, fun _ _ _ => rfl⟩
  | imagined c =>
    have hplace : s.place ⟨.imagined c, p, i⟩ =
        .ok (s.resolver.overlay (hang b.1 b.2 c.nodes).1,
          (hang b.1 b.2 c.nodes).1.ptr (hang b.1 b.2 c.nodes).2) := by
      simp only [place, materialize, base_of_ground? hb, Except.map]
    exact ⟨_, _, hplace, Resolver.overlay_document?_self _ _, rfl, fun _ _ _ => rfl⟩

/-- In the general case a reference means what its text means in the general scope. -/
theorem resolve_of_ground? (hb : s.ground? site = some b) {kind : NodeKind} {texts : List String}
    (hreading : ((hang b.1 b.2 site.chain).1.node? (hang b.1 b.2 site.chain).2).map
      (·.reading site.property) = some (kind, texts))
    (hgeneral : kind.seesGeneralScope site.property = true) {target : NodeKind}
    (htarget : kind.referenceTarget? site.property = some target) :
    s.resolve site = texts[site.index]?.bind
      (s.resolver.generalScope (hang b.1 b.2 site.chain).1 (hang b.1 b.2 site.chain).2
        target).lookup := by
  obtain ⟨r, ptr, hplace, hdocument, hptr, hscope⟩ := exists_place hb
  obtain ⟨node, hnode, heq⟩ := Option.map_eq_some_iff.1 hreading
  obtain ⟨rfl, rfl⟩ : node.kind = kind ∧ (node.referencesOf site.property).map (·.text) = texts :=
    Prod.mk.injEq .. ▸ heq
  have hlocate : r.locate ptr = .ok ((hang b.1 b.2 site.chain).1, node) := by
    simp only [Resolver.locate, hdocument, hptr, hnode]
  simp only [resolve, resolve?, hplace, Resolver.resolveAt, Resolver.scopeAt, hlocate, htarget,
    Resolver.scopeOf_of_seesGeneralScope _ _ _ hgeneral, hscope, hptr, Node.referenceAt?,
    List.getElem?_map]
  cases (node.referencesOf site.property)[site.index]? <;> rfl

end Snapshot

namespace Snapshot.Current

variable {s : Snapshot} (h : s.Current Document.WellFormed) {site : Site} {b : Document × NodeId}
include h

/-- The root of a document is there, and written. -/
theorem of_root {id : DocumentId} {d : Document} (hd : s.workspace.get? id = some d) :
    0 < d.size ∧ d.isDerived .root = false := by
  have hsize : 0 < d.dropDerived.size :=
    Document.size_bare _ ▸ (h.all Document.lasting_wellFormed id d hd).tree.size_pos
  rw [Document.size_dropDerived] at hsize
  have hlen : ¬ d.parsedLen ≤ 0 := by omega
  exact ⟨by omega, by simpa [Document.isDerived, NodeId.root] using hlen⟩

/-- A site hangs in a document that is there, or in a blank one for an unsaved document. -/
theorem of_ground? (hb : s.ground? site = some b) :
    s.workspace.get? b.1.id = some b.1 ∨
      ∃ c, site.container = .imagined c ∧ c.unsaved = true ∧ b = (.blank c.uri, .root) := by
  obtain ⟨container, p, i⟩ := site
  cases container with
  | node ptr =>
    obtain ⟨d, hd, rfl⟩ := Option.map_eq_some_iff.1 hb
    left
    rw [h.workspace.id_eq _ _ hd]
    exact hd
  | imagined c =>
    rcases of_base (base_of_ground? hb) with ⟨hat, -⟩ | ⟨-, hunsaved, -, hblank⟩
    · obtain ⟨id, -, hget⟩ := Option.bind_eq_some_iff.1 hat
      left
      rw [h.workspace.id_eq _ _ hget]
      exact hget
    · exact Or.inr ⟨c, rfl, hunsaved, hblank⟩

/-- A node with references is written, so where it is the end of a chain without nodes, the chain
hangs in a written node. -/
theorem isDerived_of_ground? (hb : s.ground? site = some b) {node : Node}
    (hnode : (hang b.1 b.2 site.chain).1.node? (hang b.1 b.2 site.chain).2 = some node)
    {p : Property} {target : NodeKind} (htarget : node.kind.referenceTarget? p = some target)
    (hchain : site.chain = []) : b.1.isDerived b.2 = false := by
  rw [hchain] at hnode
  rcases h.of_ground? hb with hget | ⟨c, -, -, rfl⟩
  · have hkind : b.1.kind? b.2 = some node.kind := by
      rw [Document.kind?]
      exact congrArg (Option.map (·.kind)) hnode
    exact h.isDerived_eq_false_of_kind? hget hkind
      (NodeKind.isDerivedAttribute_eq_false_of_referenceTarget? htarget)
  · rfl

/-- Around the end of a chain the written nodes are those around the node that it hangs in. -/
theorem writtenAround_hang (hb : s.ground? site = some b) :
    (hang b.1 b.2 site.chain).1.writtenAround (hang b.1 b.2 site.chain).2 =
      b.1.writtenAround b.2 := by
  obtain ⟨container, p, i⟩ := site
  cases container with
  | node ptr => rfl
  | imagined c =>
    rcases of_base (base_of_ground? hb) with ⟨hat, hnode⟩ | ⟨-, -, -, rfl⟩
    · obtain ⟨id, -, hget⟩ := Option.bind_eq_some_iff.1 hat
      refine Snapshot.writtenAround_hang (h.all Document.lasting_wellFormed id _ hget).parsedLen_le
        ?_ _
      rcases hnode with ⟨-, hroot⟩ | ⟨globalId, -, hanchor⟩
      · rw [hroot]
        exact (h.of_root hget).1
      · have hfound := List.find?_some hanchor
        rw [← Document.node?_isSome_iff]
        cases hn : b.1.node? b.2 with
        | some _ => rfl
        | none => simp [hn] at hfound
    · exact Snapshot.writtenAround_hang (Nat.le_refl _) Nat.zero_lt_one _

/-- Around a site the tables show what is declared around the written nodes that its chain hangs in,
of kinds that no derived attribute has. -/
theorem flatten_containerLayers_of_ground?
    (hfew : ∀ c, site.container = .imagined c → c.unsaved = true →
      s.workspace.nextId ≤ DocumentId.unassigned.index)
    (hb : s.ground? site = some b) {target : NodeKind} (htarget : target.isIdentified = true)
    (hattribute : target.isSubtypeOf .logicalAttribute = false) :
    (s.resolver.containerLayers (hang b.1 b.2 site.chain).1 (hang b.1 b.2 site.chain).2
        target).flatten =
      Description.ofKind target
        ((b.1.writtenAround b.2).flatMap (b.1.source.declaredIn s.registry)) := by
  have hid := (id_uri_hang b.1 b.2 site.chain).1
  have hderived := isDerived_hang b.1 b.2 site.chain
  rw [← h.writtenAround_hang hb, Document.writtenAround, hderived,
    ← Document.flatMap_written fun n => b.1.declaredIn_source_of_isDerived s.registry]
  rcases h.of_ground? hb with hget | ⟨c, hc, hunsaved, rfl⟩
  · exact h.flatten_containerLayers_of_id htarget hattribute hget hid _
  · -- No document has the number of a blank one, and in a blank one nothing is declared.
    have hlocals : s.index.locals? .unassigned = none := by
      refine (Keyed.get?_eq_none_iff _ _).2 fun hmem => ?_
      rw [h.locals_keys] at hmem
      exact absurd (h.workspace.lt_nextId _ hmem) (Nat.not_lt.2 (hfew c hc hunsaved))
    have hchildren : ∀ n, (Document.blank c.uri).source.children n = [] := by
      rintro ⟨i⟩
      cases i <;> rfl
    have hlayers : s.resolver.containerLayers (hang (.blank c.uri) .root site.chain).1
        (hang (.blank c.uri) .root site.chain).2 target = [] := by
      have hnone : s.resolver.index.locals? (hang (.blank c.uri) .root site.chain).1.id = none := by
        rw [hid]
        exact hlocals
      rw [Resolver.containerLayers, hnone]
    rw [hlayers]
    simp [Document.declaredIn, hchildren, Description.ofKind]

end Snapshot.Current

end ModelBinding
