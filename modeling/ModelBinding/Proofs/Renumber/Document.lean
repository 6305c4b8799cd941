import ModelBinding.Export
import ModelBinding.Proofs.Tree

/-!
# Documents under other numbers

Two workspaces may hold the same documents under different numbers. `renumber f` replaces
every document number in what a workspace holds. Names and exports depend neither on
numbers nor on what references remember: this is said of documents that are `Alike`,
which differ in just these two things.
-/

namespace ModelBinding

variable {f : DocumentId → DocumentId}

/-- The same place in the renumbered document. -/
def NodePtr.renumber (f : DocumentId → DocumentId) (p : NodePtr) : NodePtr := ⟨f p.document, p.node⟩

/-- The reference that remembers the same place. -/
def Reference.renumber (f : DocumentId → DocumentId) (r : Reference) : Reference :=
  { r with cached := r.cached.map (·.map (·.renumber f)) }

/-- The node with all numbers in it replaced. -/
def Node.renumber (f : DocumentId → DocumentId) (n : Node) : Node :=
  { n with
    references := n.references.map fun r => (r.1, r.2.renumber f)
    derivedFrom := n.derivedFrom.map (·.renumber f) }

/-- The document with its own number and all those in it replaced. -/
def Document.renumber (f : DocumentId → DocumentId) (d : Document) : Document :=
  { d with id := f d.id, nodes := d.nodes.map (·.renumber f) }

/-- The description of the renumbered node. -/
def Description.renumber (f : DocumentId → DocumentId) (e : Description) : Description :=
  { e with node := e.node.renumber f }

/-- The tables of the renumbered document. -/
def LocalTables.renumber (f : DocumentId → DocumentId) (t : LocalTables) : LocalTables :=
  ⟨t.entries.map fun e => (e.1, e.2.renumber f)⟩

/-- The map with every number replaced, and every value changed. -/
def Keyed.renumber {α : Type} (f : DocumentId → DocumentId) (g : α → α) (m : Keyed DocumentId α) :
    Keyed DocumentId α :=
  ⟨m.entries.map fun e => (f e.1, g e.2)⟩

@[simp] theorem Description.name_renumber (e : Description) : (e.renumber f).name = e.name := rfl

@[simp] theorem Description.kind_renumber (e : Description) : (e.renumber f).kind = e.kind := rfl

@[simp] theorem Description.dataModel_renumber (e : Description) :
    (e.renumber f).dataModel = e.dataModel := rfl

@[simp] theorem Description.isGlobal_renumber (e : Description) :
    (e.renumber f).isGlobal = e.isGlobal := rfl

@[simp] theorem Description.node_renumber (e : Description) :
    (e.renumber f).node = e.node.renumber f := rfl

/-- Different nodes stay different. -/
theorem NodePtr.renumber_injective (hf : Function.Injective f) :
    Function.Injective (NodePtr.renumber f) := by
  intro p q h
  obtain ⟨hd, hn⟩ := NodePtr.mk.inj h
  obtain ⟨d, n⟩ := p
  obtain ⟨d', n'⟩ := q
  exact congr (congrArg NodePtr.mk (hf hd)) hn

/-- What is asked of a kind is asked of the renumbered descriptions. -/
theorem Description.ofKind_map_renumber (k : NodeKind) (es : List Description) :
    Description.ofKind k (es.map (·.renumber f)) =
      (Description.ofKind k es).map (·.renumber f) := by
  simp only [Description.ofKind, List.filter_map]
  rfl

@[simp] theorem Keyed.keys_renumber {α : Type} (g : α → α) (m : Keyed DocumentId α) :
    (m.renumber f g).keys = m.keys.map f := by
  simp [Keyed.keys, Keyed.renumber]

/-- What is found under a replaced number. -/
theorem Keyed.get?_renumber {α : Type} (hf : Function.Injective f) (g : α → α)
    (m : Keyed DocumentId α) (id : DocumentId) :
    (m.renumber f g).get? (f id) = (m.get? id).map g := by
  obtain ⟨es⟩ := m
  induction es with
  | nil => rfl
  | cons e es ih =>
    have ih' : Keyed.find (f id) (es.map fun e => (f e.1, g e.2)) = (Keyed.find id es).map g := ih
    by_cases h : e.1 = id
    · simp [Keyed.renumber, Keyed.get?, Keyed.find, h]
    · have h' : ¬ f e.1 = f id := fun heq => h (hf heq)
      simp [Keyed.renumber, Keyed.get?, Keyed.find, h, h', ih']

@[simp] theorem LocalTables.table_renumber (t : LocalTables) (c : NodeId) :
    (t.renumber f).table c = (t.table c).map (·.renumber f) := by
  simp [LocalTables.table, LocalTables.renumber, List.filter_map, Function.comp_def]

/-- The document under other numbers, with references as if never looked up. -/
def Document.outline (f : DocumentId → DocumentId) (d : Document) : Document :=
  (d.renumber f).resetReferences

/-- Two documents that differ in numbers and in what references remember. -/
def Document.Alike (f : DocumentId → DocumentId) (d e : Document) : Prop :=
  e.resetReferences = d.outline f

/-- Without other numbers a node stays as it is. -/
theorem Node.renumber_self (n : Node) : n.renumber (fun i => i) = n := by
  have hptr : NodePtr.renumber (fun i => i) = fun p => p := rfl
  have href : Reference.renumber (fun i => i) = fun r => r := by
    funext r
    simp [Reference.renumber, hptr]
  simp [renumber, hptr, href]

/-- Without other numbers only what references remember is lost. -/
theorem Document.outline_self (d : Document) : d.outline (fun i => i) = d.resetReferences := by
  have hnode : Node.renumber (fun i => i) = fun n => n := funext Node.renumber_self
  simp [outline, renumber, hnode]

/-- Without other numbers a description stays as it is. -/
theorem Description.renumber_self (e : Description) : e.renumber (fun i => i) = e := rfl

/-- Without other numbers tables stay as they are. -/
theorem LocalTables.renumber_self (t : LocalTables) : t.renumber (fun i => i) = t := by
  simp [renumber, Description.renumber_self]

/-- Forgetting what references mean leaves their texts. -/
theorem Node.texts_resetReferences (n : Node) (p : Property) :
    (n.resetReferences.referencesOf p).map (·.text) = (n.referencesOf p).map (·.text) := by
  simp [referencesOf, resetReferences, List.filter_map, Function.comp_def, Reference.reset]

/-- Where nodes have references with the same texts, each of these has the same text. -/
theorem Document.text?_of_texts {d e : Document} {m n : NodeId} {p : Property}
    (h : (e.node? m).map (fun node => (node.referencesOf p).map (·.text)) =
      (d.node? n).map (fun node => (node.referencesOf p).map (·.text))) (i : Nat) :
    ((e.node? m).bind (·.referenceAt? p i)).map (·.text) =
      ((d.node? n).bind (·.referenceAt? p i)).map (·.text) := by
  have htexts := congrArg (fun t : Option (List String) => t.bind (·[i]?)) h
  simpa [Option.bind_map, Function.comp_def, Option.map_bind, Node.referenceAt?] using htexts

/-- Documents that differ only in what references remember are alike. -/
theorem Document.alike_of_resetReferences_eq {d e : Document}
    (h : e.resetReferences = d.resetReferences) : Alike (fun i => i) d e := by
  rw [Alike, outline_self, h]

namespace Document.Alike

variable {d e : Document} (h : Alike f d e)
include h

theorem id : e.id = f d.id := congrArg (·.id) h

theorem uri : e.uri = d.uri := congrArg (·.uri) h

theorem parsedLen : e.parsedLen = d.parsedLen := congrArg (·.parsedLen) h

theorem nodes :
    e.nodes.map (·.resetReferences) = d.nodes.map (·.renumber f |>.resetReferences) := by
  have hnodes := congrArg (·.nodes) h
  simpa [resetReferences, outline, renumber, Function.comp_def] using hnodes

theorem size : e.size = d.size := by
  simpa [Document.size] using congrArg List.length h.nodes

theorem nextNode : e.nextNode = d.nextNode := congrArg NodeId.mk h.size

theorem isDerived (n : NodeId) : e.isDerived n = d.isDerived n := by
  rw [Document.isDerived, Document.isDerived, h.parsedLen]

/-- At every place stand nodes that differ in numbers and in what references remember. -/
theorem node? (n : NodeId) : (e.node? n).map (·.resetReferences) =
    (d.node? n).map (·.renumber f |>.resetReferences) := by
  simpa [Document.node?, List.getElem?_map] using congrArg (·[n.index]?) h.nodes

/-- Where the one document has no node, neither has the other. -/
theorem node?_none {n : NodeId} (hn : d.node? n = none) : e.node? n = none := by
  simpa [hn] using h.node? n

/-- Where the one document has a node, the other has one that differs in numbers and in what
references remember. -/
theorem node?_some {n : NodeId} {node : Node} (hn : d.node? n = some node) :
    ∃ node', e.node? n = some node' ∧
      node'.resetReferences = (node.renumber f).resetReferences := by
  simpa [hn] using h.node? n

/-- What depends neither on numbers nor on what references remember is the same at every place. -/
theorem map_node? {α : Type} (g : Node → α) (hreset : ∀ n, g n.resetReferences = g n)
    (hrenumber : ∀ n, g (n.renumber f) = g n) (n : NodeId) :
    (e.node? n).map g = (d.node? n).map g := by
  have hnode := congrArg (·.map g) (h.node? n)
  simpa [Function.comp_def, hreset, hrenumber] using hnode

theorem kind? (n : NodeId) : e.kind? n = d.kind? n :=
  h.map_node? (·.kind) (fun _ => rfl) (fun _ => rfl) n

theorem map_children (n : NodeId) : (e.node? n).map (·.children) = (d.node? n).map (·.children) :=
  h.map_node? (·.children) (fun _ => rfl) (fun _ => rfl) n

theorem children (n : NodeId) : e.children n = d.children n := by
  rw [Document.children, Document.children, h.map_children]

theorem parent? (n : NodeId) : e.parent? n = d.parent? n := by
  have hparent := h.map_node? (·.parent) (fun _ => rfl) (fun _ => rfl) n
  simpa only [Document.parent?, Option.bind_map, Function.comp_def] using
    congrArg (Option.bind · fun p => p) hparent

theorem ownId? (n : NodeId) : e.ownId? n = d.ownId? n := by
  have hid := h.map_node? (·.ownId?) (fun _ => rfl) (fun _ => rfl) n
  simpa only [Document.ownId?, Option.bind_map, Function.comp_def] using
    congrArg (Option.bind · fun own => own) hid

theorem ancestors (n : NodeId) : e.ancestors n = d.ancestors n :=
  ancestors_congr h.parent? n

theorem descendants (n : NodeId) : e.descendants n = d.descendants n :=
  descendants_congr h.map_children n

theorem walk : e.walk = d.walk := h.descendants .root

theorem childrenOfKind (n : NodeId) (k : NodeKind) :
    e.childrenOfKind n k = d.childrenOfKind n k := by
  simp only [Document.childrenOfKind, h.children, h.kind?]

theorem ancestorOfKind? (n : NodeId) (k : NodeKind) :
    e.ancestorOfKind? n k = d.ancestorOfKind? n k := by
  simp only [Document.ancestorOfKind?, h.ancestors, h.kind?]

theorem localId? (n : NodeId) : e.localId? n = d.localId? n :=
  localId?_congr h.parent? h.ownId? n

theorem modelOf? (r : Registry) : r.modelOf? e = r.modelOf? d := by
  rw [Registry.modelOf?, Registry.modelOf?, h.uri]

theorem globalId? (r : Registry) (n : NodeId) : r.globalId? e n = r.globalId? d n :=
  globalId?_congr h.uri h.kind? h.parent? h.ownId? r n

theorem ptr (n : NodeId) : e.ptr n = (d.ptr n).renumber f := by
  rw [Document.ptr, Document.ptr, h.id]
  rfl

theorem describe (model : Option DataModelId) (n : NodeId) (k : NodeKind) (name : String)
    (form : NameForm) :
    e.describe model n k name form = (d.describe model n k name form).renumber f := by
  simp only [Document.describe, h.ptr, h.uri]
  rfl

/-- The texts of the references of a node under one property. -/
theorem texts (n : NodeId) (p : Property) :
    (e.node? n).map (fun node => (node.referencesOf p).map (·.text)) =
      (d.node? n).map (fun node => (node.referencesOf p).map (·.text)) := by
  refine h.map_node? (fun node => (node.referencesOf p).map (·.text))
    (fun node => node.texts_resetReferences p) (fun node => ?_) n
  simp [Node.referencesOf, Node.renumber, List.filter_map, Function.comp_def, Reference.renumber]

/-- The text of one reference of a node. -/
theorem text? (n : NodeId) (p : Property) (i : Nat) :
    ((e.node? n).bind (·.referenceAt? p i)).map (·.text) =
      ((d.node? n).bind (·.referenceAt? p i)).map (·.text) :=
  text?_of_texts (h.texts n p) i

end Document.Alike

end ModelBinding
