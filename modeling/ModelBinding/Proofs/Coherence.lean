import ModelBinding.Proofs.Host
import ModelBinding.Proofs.Renumber.Resolution

/-!
# What references remember

On a host with nothing out of date a reference remembers nothing, or what it means now
(`Snapshot.Coherent`). Whatever could change a meaning puts something out of date, and a
rebuild then makes all references forget. So looking up a reference always answers what
it means (`lookUp_coherent`), whatever was done before and whatever the documents are
like.
-/

namespace ModelBinding

/-- An index that remembers an answer gives the answers that it gave before. -/
theorem Index.globalScope_remember (i : Index) (k k' : NodeKind) :
    (i.remember k).globalScope k' = i.globalScope k' := by
  by_cases hk : k' = k
  · rw [hk, globalScope_remember_self]
  · simp only [globalScope, remember, Keyed.get?_insert, if_neg hk]
    rfl

namespace Snapshot

variable {s t : Snapshot}

/-- Every reference that remembers something remembers what it means. -/
def Coherent (s : Snapshot) : Prop :=
  ∀ ptr p i ref, s.reference? ptr p i = some ref →
    ref.cached = none ∨ ref.cached = some ((s.resolve (.ofNode ptr p i)).map (·.node))

/-- What a reference of an existing node means is asked of the resolver of the snapshot. -/
theorem resolve_ofNode (s : Snapshot) (ptr : NodePtr) (p : Property) (i : Nat) :
    s.resolve (.ofNode ptr p i) = s.resolver.resolve ptr p i := rfl

/-- Snapshots with the same data models, exports and tables, whose documents differ in what
references remember, resolve alike. -/
theorem alike_resolver (hregistry : t.registry = s.registry)
    (hglobal : ∀ k, t.index.globalScope k = s.index.globalScope k)
    (hlocals : t.index.locals = s.index.locals)
    (hdocuments : ∀ id, (t.workspace.get? id).map (·.resetReferences) =
      (s.workspace.get? id).map (·.resetReferences)) :
    Resolver.Alike (fun i => i) s.resolver t.resolver := by
  have hself : (fun e : Description => e.renumber fun i => i) = fun e => e := rfl
  refine ⟨fun _ _ h => h, hregistry, fun k => ?_, fun id => ?_, fun id => ?_⟩
  · rw [hself, List.map_id']
    exact hglobal k
  · have hid : t.index.locals? id = s.index.locals? id := by
      rw [Index.locals?, hlocals]
      rfl
    have htables : (fun t : LocalTables => t.renumber fun i => i) = fun t => t :=
      funext LocalTables.renumber_self
    rw [htables, Option.map_id']
    exact hid
  · have hid := hdocuments id
    show Option.Rel _ (s.workspace.get? id) (t.workspace.get? id)
    cases hs : s.workspace.get? id with
    | none =>
      rw [hs] at hid
      rw [Option.map_eq_none_iff.1 hid]
      exact .none
    | some d =>
      rw [hs, Option.map_some] at hid
      obtain ⟨e, he, heq⟩ := Option.map_eq_some_iff.1 hid
      rw [he]
      exact .some (Document.alike_of_resetReferences_eq heq)

/-- So they agree on what references mean. -/
theorem resolve_congr (hregistry : t.registry = s.registry)
    (hglobal : ∀ k, t.index.globalScope k = s.index.globalScope k)
    (hlocals : t.index.locals = s.index.locals)
    (hdocuments : ∀ id, (t.workspace.get? id).map (·.resetReferences) =
      (s.workspace.get? id).map (·.resetReferences)) (ptr : NodePtr) (p : Property) (i : Nat) :
    t.resolve (.ofNode ptr p i) = s.resolve (.ofNode ptr p i) := by
  have hresolve := (alike_resolver hregistry hglobal hlocals hdocuments).resolve ptr p i
  have hself : (fun e : Description => e.renumber fun i => i) = fun e => e := rfl
  rw [hself, Option.map_id'] at hresolve
  exact hresolve

/-- Look-ups do not change what references mean. -/
theorem resolve_of_resetReferences_eq (h : t.resetReferences = s.resetReferences) (ptr : NodePtr)
    (p : Property) (i : Nat) : t.resolve (.ofNode ptr p i) = s.resolve (.ofNode ptr p i) := by
  have hindex : t.index = s.index := (congrArg Snapshot.index h :)
  have hregistry : t.registry = s.registry := (congrArg Snapshot.registry h :)
  refine resolve_congr hregistry (fun k => ?_) ?_ (get?_of_resetReferences_eq h) ptr p i
  · rw [hindex]
  · rw [hindex]

/-- What is found at a place after the change of a reference. -/
theorem reference?_modifyReference (s : Snapshot) (ptr place : NodePtr) (p q : Property) (i j : Nat)
    (f : Reference → Reference) :
    (s.modifyReference ptr p i f).reference? place q j =
      if ptr = place ∧ p = q ∧ i = j then (s.reference? place q j).map f
      else s.reference? place q j := by
  obtain ⟨id, n⟩ := ptr
  obtain ⟨id', n'⟩ := place
  have hget : (s.modifyReference ⟨id, n⟩ p i f).workspace.get? id' =
      if id' = id then (s.workspace.get? id').map fun d =>
        d.modifyNode n fun node => node.modifyReferenceAt p i f
      else s.workspace.get? id' := Keyed.get?_modify _ _ _ _
  simp only [reference?, hget]
  by_cases hid : id' = id
  · subst hid
    rw [if_pos rfl]
    cases s.workspace.get? id' with
    | none => simp
    | some d =>
      simp only [Option.map_some, Option.bind_some, Document.node?_modifyNode]
      by_cases hn : n = n'
      · subst hn
        rw [if_pos rfl]
        cases d.node? n with
        | none => simp
        | some node => simp [Node.referenceAt?_modifyReferenceAt]
      · simp [hn]
  · rw [if_neg hid]
    simp [Ne.symm hid]

/-- A reference that was forgotten remembers nothing. -/
theorem coherent_resetReferences (s : Snapshot) : s.resetReferences.Coherent := by
  intro ptr p i ref href
  left
  obtain ⟨d, node, hd, hnode, hat⟩ := reference?_eq_some_iff.1 href
  have hd' :=
    (Keyed.get?_mapValues s.workspace.documents (·.resetReferences) ptr.document).symm.trans hd
  obtain ⟨d, -, rfl⟩ := Option.map_eq_some_iff.1 hd'
  rw [Document.node?_resetReferences] at hnode
  obtain ⟨node, -, rfl⟩ := Option.map_eq_some_iff.1 hnode
  have hmem := List.mem_of_getElem? hat
  simp only [Node.referencesOf, Node.resetReferences, List.mem_map, List.mem_filter] at hmem
  obtain ⟨_, ⟨⟨r, -, rfl⟩, -⟩, rfl⟩ := hmem
  rfl

/-- A reference that is not there means nothing. -/
theorem resolve_eq_none {ptr : NodePtr} {p : Property} {i : Nat}
    (h : s.reference? ptr p i = none) : s.resolve (.ofNode ptr p i) = none := by
  rw [resolve_ofNode]
  simp only [Resolver.resolve, Resolver.resolveAt, Resolver.locate, resolver]
  cases hd : s.workspace.get? ptr.document with
  | none => rfl
  | some d =>
    cases hnode : d.node? ptr.node with
    | none => simp [hnode]
    | some node =>
      have hat : node.referenceAt? p i = none := by
        simpa [reference?, hd, hnode] using h
      simp [hnode, hat]

/-- On a coherent snapshot looking up a reference answers what it means. -/
theorem Coherent.fst_resolveReference (h : s.Coherent) (ptr : NodePtr) (p : Property) (i : Nat) :
    (s.resolveReference ptr p i).1 = (s.resolve (.ofNode ptr p i)).map (·.node) := by
  unfold resolveReference
  cases href : s.reference? ptr p i with
  | none =>
    rw [resolve_eq_none href]
    rfl
  | some ref =>
    rcases h ptr p i ref href with hcached | hcached
    · simp [Reference.resolveWith, hcached]
    · simp [Reference.resolveWith, hcached]

/-- Looking up a reference keeps a snapshot coherent. -/
theorem Coherent.resolveReference (hs : s.workspace.ids.Nodup) (h : s.Coherent) (ptr : NodePtr)
    (p : Property) (i : Nat) : (s.resolveReference ptr p i).2.Coherent := by
  intro place q j ref href
  have hanswer := h.fst_resolveReference ptr p i
  rw [resolve_of_resetReferences_eq (resetReferences_resolveReference hs ptr p i)]
  unfold Snapshot.resolveReference at href hanswer
  cases hold : s.reference? ptr p i with
  | none =>
    rw [hold] at href
    exact h place q j ref href
  | some old =>
    simp only [hold] at href hanswer
    rw [reference?_modifyReference] at href
    split at href
    · rename_i heq
      obtain ⟨rfl, rfl, rfl⟩ := heq
      rw [hold, Option.map_some] at href
      rw [← Option.some.inj href, Reference.cached_resolveWith, hanswer]
      exact Or.inr rfl
    · exact h place q j ref href

/-- Look-ups keep a snapshot coherent. -/
theorem Coherent.read (h : s.Coherent) (hs : s.workspace.ids.Nodup) {t : Snapshot}
    (hread : s.Read t) : t.Coherent := by
  induction hread with
  | refl => exact h
  | resolveReference hread ptr p i ih =>
    have hids := ids_eq_of_resetReferences_eq (hread.resetReferences_eq hs)
    exact ih.resolveReference (hids ▸ hs) ptr p i

/-- Remembering an answer of the index keeps a snapshot coherent. -/
theorem Coherent.remember (h : s.Coherent) (k : NodeKind) :
    ({ s with index := s.index.remember k } : Snapshot).Coherent := by
  intro ptr p i ref href
  rw [resolve_congr (s := s) (t := { s with index := s.index.remember k }) rfl
    (s.index.globalScope_remember k) rfl fun _ => rfl]
  exact h ptr p i ref href

end Snapshot

namespace Session

/-- References remember what they mean unless something is out of date. -/
def CoherentIfClean (s : Session) : Prop := s.host.isDirty = false → s.host.toSnapshot.Coherent

/-- A rebuild makes a host coherent. -/
theorem CoherentIfClean.rebuild {s : Session} (h : s.CoherentIfClean) :
    s.host.rebuild.toSnapshot.Coherent := by
  cases hclean : s.host.isDirty with
  | true =>
    rw [Host.rebuild_of_isDirty hclean]
    exact Snapshot.coherent_resetReferences _
  | false =>
    rw [Host.rebuild_of_not_isDirty hclean]
    exact h hclean

/-- Every action leaves a host coherent or puts something out of date. -/
theorem coherentIfClean_step {s : Session} (hc : s.host.Consistent) (h : s.CoherentIfClean)
    (a : Action) : (s.step a).CoherentIfClean := by
  have hmove := move_step hc a
  generalize s.step a = s' at hmove ⊢
  cases hmove with
  | idle => exact h
  | set d =>
    have hdirty : (s.host.setDocument d).2.isDirty = true :=
      Host.isDirty_of_mem (Host.mem_dirty_setDocument.2 (Or.inr rfl))
    intro hclean
    exact absurd hdirty (Bool.eq_false_iff.1 hclean)
  | remove uri id d hid hd heq =>
    simp only [Host.removeDocument_of_idOf? hid hd heq]
    intro hclean
    simp [Host.isDirty] at hclean
  | touch uri =>
    intro hclean
    replace hclean : (s.host.touchDocument uri).2.isDirty = false := hclean
    show (s.host.touchDocument uri).2.toSnapshot.Coherent
    unfold Host.touchDocument at hclean ⊢
    cases hid : s.host.workspace.idOf? uri with
    | none =>
      simp only [hid] at hclean ⊢
      exact h hclean
    | some id =>
      simp only [hid] at hclean
      have hdirty := Host.isDirty_of_mem (Host.mem_dirty_mark (h := s.host).2 (Or.inr (Eq.refl id)))
      exact absurd hdirty (Bool.eq_false_iff.1 hclean)
  | setRegistry registry =>
    -- No document is out of date only if there is none, and then there is no reference.
    intro hclean ptr p i ref href
    have hnil := (Host.dirty_of_not_isDirty (h := s.host.setRegistry registry) hclean).1
    obtain ⟨d, node, hd, -, -⟩ := Snapshot.reference?_eq_some_iff.1 href
    have hmem := Host.mem_dirty_setRegistry_of_get? hd
    rw [hnil] at hmem
    cases hmem
  | lookUp t hread => exact fun _ => h.rebuild.read hc.rebuild.workspace.nodup_ids hread
  | consult kind => exact fun hclean => (h hclean).remember kind

/-- Whatever is done in a session, references remember what they mean unless something is out of
date. -/
theorem coherentIfClean_run (registry : Registry) (actions : List Action) :
    ((start registry).run actions).CoherentIfClean := by
  have hrun := run_induction (P := fun s => s.host.Consistent ∧ s.CoherentIfClean)
    (fun s a h => ⟨consistent_step h.1 a, coherentIfClean_step h.1 h.2 a⟩) (s := start registry)
    ⟨Host.consistent_new registry, fun _ ptr p i ref href => by cases href⟩ actions
  exact hrun.2

/-- After any actions and a rebuild, every reference that remembers something remembers what it
means, and looking up a reference answers what it means. -/
theorem lookUp_coherent (registry : Registry) (actions : List Action) :
    ((start registry).run actions).host.rebuild.toSnapshot.Coherent ∧
      ∀ ptr p i,
        (((start registry).run actions).host.rebuild.resolveReference ptr p i).1 =
          (((start registry).run actions).host.rebuild.resolve (.ofNode ptr p i)).map (·.node) := by
  have hcoherent := (coherentIfClean_run registry actions).rebuild
  exact ⟨hcoherent, hcoherent.fst_resolveReference⟩

end Session

end ModelBinding
