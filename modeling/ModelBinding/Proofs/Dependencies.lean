import Mathlib.Data.List.Nodup
import Mathlib.Logic.Relation
import Mathlib.Tactic.ByContra
import ModelBinding.Identity

/-!
# Dependencies and visibility

The search for what dependencies lead to finds exactly what a chain of counted
dependencies leads to (`leadsTo_iff_transGen`). A data model that is updated with one
dependency more therefore sees at least what it saw, and so do the others; names and the
ownership of files stay as they are (`widens_of_update`).
-/

namespace ModelBinding.Registry

variable {r r' : Registry}

/-- The data models have identifiers of their own, as registering them sees to. -/
def Distinct (r : Registry) : Prop := (r.models.map (·.id)).Nodup

instance (r : Registry) : Decidable r.Distinct :=
  inferInstanceAs (Decidable (r.models.map (·.id)).Nodup)

/-- Every data model is found under its identifier. -/
theorem Distinct.get?_eq (h : r.Distinct) {m : DataModel} (hm : m ∈ r.models) :
    r.get? m.id = some m := by
  have hsome : (r.get? m.id).isSome := by
    rw [get?, List.find?_isSome]
    exact ⟨m, hm, by simp⟩
  obtain ⟨found, hfound⟩ := Option.isSome_iff_exists.1 hsome
  have hid : found.id = m.id := by simpa using List.find?_some hfound
  rw [hfound, List.inj_on_of_nodup_map h (List.mem_of_find?_eq_some hfound) hm hid]

/-- What an update that succeeds leads to. -/
theorem of_update {m : DataModel} (hr : r.update m = .ok r') :
    (r.get? m.id).isSome ∧
      r' = { r with models := r.models.map fun old => if old.id = m.id then m else old } := by
  unfold update at hr
  split at hr
  · cases hr
    exact ⟨‹_›, rfl⟩
  · cases hr

/-- An update leaves the identifiers as they are. -/
theorem ids_of_update {m : DataModel} (hr : r.update m = .ok r') :
    r'.models.map (·.id) = r.models.map (·.id) := by
  obtain ⟨-, rfl⟩ := of_update hr
  rw [List.map_map]
  refine List.map_congr_left fun old _ => ?_
  by_cases hid : old.id = m.id <;> simp [hid]

/-- An updated data model is found as it was given, and the others as they were. -/
theorem get?_of_update {m : DataModel} (hr : r.update m = .ok r') (id : DataModelId) :
    r'.get? id = if id = m.id then some m else r.get? id := by
  obtain ⟨hsome, rfl⟩ := of_update hr
  have hfound : (r.models.map fun old => if old.id = m.id then m else old).find? (·.id = id) =
      (r.get? id).map fun old => if old.id = m.id then m else old := by
    rw [List.find?_map, get?]
    refine congrArg (Option.map _ <| List.find? · r.models) (funext fun old => ?_)
    by_cases hid : old.id = m.id <;> simp [hid]
  rw [get?, hfound]
  split
  · rename_i hid
    obtain ⟨old, hold⟩ := Option.isSome_iff_exists.1 hsome
    have hsame : old.id = m.id := by simpa using List.find?_some hold
    rw [hid, hold, Option.map_some, if_pos hsame]
  · rename_i hid
    cases hold : r.get? id with
    | none => rfl
    | some old =>
      have hsame : old.id = id := by simpa using List.find?_some hold
      rw [Option.map_some, if_neg (hsame ▸ hid)]

/-- Registering a data model keeps identifiers apart. -/
theorem Distinct.register (h : r.Distinct) {m : DataModel} (hr : r.register m = .ok r') :
    r'.Distinct := by
  unfold Registry.register at hr
  split at hr
  · cases hr
  · rename_i hfree
    cases hr
    rw [Distinct, List.map_append, List.nodup_append]
    refine ⟨h, List.nodup_singleton _, fun id hid other hother heq => ?_⟩
    obtain ⟨old, hold, rfl⟩ := List.mem_map.1 hid
    rw [List.map_singleton, List.mem_singleton] at hother
    rw [← hother, ← heq, h.get?_eq hold] at hfree
    exact hfree rfl

/-- Updating a data model keeps identifiers apart. -/
theorem Distinct.update (h : r.Distinct) {m : DataModel} (hr : r.update m = .ok r') :
    r'.Distinct := by
  rw [Distinct, ids_of_update hr]
  exact h

/-- Forgetting a data model keeps identifiers apart. -/
theorem Distinct.remove (h : r.Distinct) (id : DataModelId) : (r.remove id).Distinct :=
  h.sublist (List.filter_sublist.map _)

section Roots

variable {f : DataModel → DataModel} (hf : ∀ m, (f m).root = m.root)
include hf

/-- The data model with the longest root is found as it is changed, if roots stay. -/
theorem foldl_deeper_map (models : List DataModel) (best : Option DataModel) :
    (models.map f).foldl deeper (best.map f) = (models.foldl deeper best).map f := by
  induction models generalizing best with
  | nil => rfl
  | cons m models ih =>
    have hstep : deeper (best.map f) (f m) = (deeper best m).map f := by
      cases best with
      | none => rfl
      | some b =>
        simp only [deeper, Option.map_some, hf]
        split <;> rfl
    rw [List.map_cons, List.foldl_cons, List.foldl_cons, hstep, ih]

/-- A file belongs to the changed data model, if roots stay. -/
theorem ownerModel?_map (r : Registry) (uri : String) :
    ownerModel? { r with models := r.models.map f } uri = (r.ownerModel? uri).map f := by
  have howns : (fun m : DataModel => m.owns uri) ∘ f = fun m => m.owns uri :=
    funext fun m => by simp [DataModel.owns, hf]
  rw [ownerModel?, List.filter_map, howns]
  exact foldl_deeper_map hf _ none

end Roots

section LeadsTo

variable {forReference : Bool} {target : DataModelId}

/-- What the search finds, a chain of dependencies leads to. -/
theorem transGen_of_leadsTo {pool queue : List DataModelId}
    (h : r.leadsTo forReference target pool queue = true) :
    ∃ source ∈ queue,
      Relation.TransGen (fun a b => b ∈ r.targets forReference a) source target := by
  fun_induction leadsTo r forReference target pool queue with
  | case1 => cases h
  | case2 pool id queue hid ih =>
    rcases Bool.or_eq_true_iff.1 h with hdirect | hfurther
    · exact ⟨id, List.mem_cons_self .., .single (by simpa using hdirect)⟩
    · obtain ⟨source, hsource, hchain⟩ := ih hfurther
      rcases List.mem_append.1 hsource with hqueue | htargets
      · exact ⟨source, List.mem_cons_of_mem id hqueue, hchain⟩
      · exact ⟨id, List.mem_cons_self .., .head htargets hchain⟩
  | case3 pool id queue hid ih =>
    obtain ⟨source, hsource, hchain⟩ := ih h
    exact ⟨source, List.mem_cons_of_mem id hsource, hchain⟩

/-- What the search does not find, no chain of dependencies leads to: those no longer in the pool
have been looked at, and what they depend on has been too or waits in the queue. -/
theorem not_transGen_of_leadsTo_eq_false {pool queue : List DataModelId}
    (h : r.leadsTo forReference target pool queue = false)
    (hseen : ∀ id, id ∉ pool → target ∉ r.targets forReference id ∧
      ∀ next ∈ r.targets forReference id, next ∉ pool ∨ next ∈ queue)
    {source : DataModelId} (hsource : source ∉ pool ∨ source ∈ queue) :
    ¬ Relation.TransGen (fun a b => b ∈ r.targets forReference a) source target := by
  fun_induction leadsTo r forReference target pool queue with
  | case1 pool =>
    have hsource : source ∉ pool := hsource.resolve_right List.not_mem_nil
    intro hchain
    induction hchain using Relation.TransGen.head_induction_on with
    | single hstep => exact (hseen _ hsource).1 hstep
    | head hstep _ ih =>
      exact ih (Or.inl (((hseen _ hsource).2 _ hstep).resolve_right List.not_mem_nil))
        (((hseen _ hsource).2 _ hstep).resolve_right List.not_mem_nil)
  | case2 pool id queue hid ih =>
    obtain ⟨hdirect, hfurther⟩ := Bool.or_eq_false_iff.1 h
    -- Once it has been looked at, what waited for being `id` has left the pool.
    have hmove : ∀ {next : DataModelId}, next ∉ pool ∨ next ∈ id :: queue →
        next ∉ Pool.without id pool ∨ next ∈ queue ++ r.targets forReference id := by
      intro next hnext
      rcases hnext with hnext | hnext
      · exact Or.inl fun hmem => hnext (Pool.mem_without.1 hmem).1
      · rcases List.mem_cons.1 hnext with rfl | hnext
        · exact Or.inl fun hmem => (Pool.mem_without.1 hmem).2 rfl
        · exact Or.inr (List.mem_append_left _ hnext)
    refine ih hfurther (fun looked hlooked => ?_) (hmove hsource)
    by_cases heq : looked = id
    · subst heq
      exact ⟨by simpa using hdirect, fun next hnext => Or.inr (List.mem_append_right _ hnext)⟩
    · obtain ⟨htarget, hnext⟩ := hseen looked fun hmem => hlooked (Pool.mem_without.2 ⟨hmem, heq⟩)
      exact ⟨htarget, fun next hmem => hmove (hnext next hmem)⟩
  | case3 pool id queue hid ih =>
    have hmove : ∀ {next : DataModelId}, next ∉ pool ∨ next ∈ id :: queue →
        next ∉ pool ∨ next ∈ queue := by
      intro next hnext
      rcases hnext with hnext | hnext
      · exact Or.inl hnext
      · rcases List.mem_cons.1 hnext with rfl | hnext
        · exact Or.inl hid
        · exact Or.inr hnext
    refine ih h (fun looked hlooked => ?_) (hmove hsource)
    exact ⟨(hseen looked hlooked).1, fun next hnext => hmove ((hseen looked hlooked).2 next hnext)⟩

/-- The search finds exactly what a chain of counted dependencies leads to. -/
theorem leadsTo_iff_transGen {source : DataModelId} :
    r.leadsTo forReference target (r.models.map (·.id)) [source] = true ↔
      Relation.TransGen (fun a b => b ∈ r.targets forReference a) source target := by
  constructor
  · intro h
    obtain ⟨found, hfound, hchain⟩ := transGen_of_leadsTo h
    rwa [List.mem_singleton.1 hfound] at hchain
  · intro hchain
    by_contra hnot
    refine not_transGen_of_leadsTo_eq_false (by simpa using hnot) (fun id hid => ?_)
      (Or.inr (List.mem_singleton_self source)) hchain
    -- A data model that is not registered depends on nothing.
    have hnone : r.get? id = none := by
      rw [get?, List.find?_eq_none]
      intro m hm heq
      exact hid (List.mem_map.2 ⟨m, hm, by simpa using heq⟩)
    simp [targets, hnone]

end LeadsTo

/-- The same data models own the same files under the same names, and each sees at least what it
saw. -/
structure Widens (r r' : Registry) : Prop where
  /-- Files belong to the same data models. -/
  owner? : ∀ uri, r'.owner? uri = r.owner? uri
  /-- Data models have the same names. -/
  referenceName? : ∀ id, r'.referenceName? id = r.referenceName? id
  /-- What could be referred to still can be. -/
  isVisible : ∀ source target, r.isVisible source target true = true →
    r'.isVisible source target true = true

namespace Widens

variable (h : r.Widens r') (d : Document)
include h

/-- Documents belong to the same data models. -/
theorem modelOf? : r'.modelOf? d = r.modelOf? d := h.owner? d.uri

/-- Nodes have the same Global IDs. -/
theorem globalId? (n : NodeId) : r'.globalId? d n = r.globalId? d n := by
  rw [Registry.globalId?, Registry.globalId?, h.modelOf?, funext h.referenceName?]

end Widens

section Update

variable {m : DataModel} {deps front back : List Dependency} {dep : Dependency}

section Targets

variable (hm : r.get? m.id = some m) (hr : r.update { m with dependencies := deps } = .ok r')
include hm hr

/-- The versions that count are the same after the update. -/
theorem counts_of_update (forReference : Bool) (d : Dependency) :
    r'.counts forReference d = r.counts forReference d := by
  have hany : ∀ id (p : Version → Bool),
      (r'.get? id).any (fun found => p found.version) =
        (r.get? id).any fun found => p found.version := by
    intro id p
    rw [get?_of_update hr]
    split
    · rename_i hid
      rw [hid, hm]
      rfl
    · rfl
  rw [counts, counts, hany d.target]

/-- The updated data model depends on what the new dependencies lead to, and the others on what
they depended on. -/
theorem targets_of_update (forReference : Bool) (id : DataModelId) :
    r'.targets forReference id =
      if id = m.id then (deps.filter (r.counts forReference)).map (·.target)
      else r.targets forReference id := by
  unfold targets
  rw [get?_of_update hr, funext (counts_of_update hm hr forReference)]
  by_cases hid : id = m.id <;> simp [hid]

end Targets

variable (hdistinct : r.Distinct) (hm : r.get? m.id = some m)
  (hdeps : m.dependencies = front ++ back)
  (hr : r.update { m with dependencies := front ++ dep :: back } = .ok r')
include hm hr

include hdeps in
/-- Every data model still depends on what it depended on. -/
theorem mem_targets_of_update {forReference : Bool} {id target : DataModelId}
    (h : target ∈ r.targets forReference id) : target ∈ r'.targets forReference id := by
  rw [targets_of_update hm hr]
  split
  · rename_i hid
    have hsublist : m.dependencies.Sublist (front ++ dep :: back) := by
      rw [hdeps]
      exact (List.sublist_cons_self dep back).append_left front
    rw [hid, targets, hm] at h
    exact ((hsublist.filter _).map _).subset h
  · exact h

include hdeps in
/-- What could be seen still can be. -/
theorem isVisible_of_update {forReference : Bool} {source target : DataModelId}
    (h : r.isVisible source target forReference = true) :
    r'.isVisible source target forReference = true := by
  have hmode : r'.mode = r.mode := by
    obtain ⟨-, rfl⟩ := of_update hr
    rfl
  unfold isVisible at h ⊢
  rw [hmode]
  rcases Bool.or_eq_true_iff.1 h with hself | hother
  · rw [hself, Bool.true_or]
  · refine Bool.or_eq_true_iff.2 (Or.inr ?_)
    cases hm' : r.mode with
    | direct =>
      simp only [hm', List.contains_iff_mem] at hother ⊢
      exact mem_targets_of_update hm hdeps hr hother
    | transitive =>
      simp only [hm', leadsTo_iff_transGen] at hother ⊢
      exact Relation.TransGen.mono (fun a b => mem_targets_of_update hm hdeps hr) _ _ hother

/-- The target of the new dependency can be seen, if the dependency counts. -/
theorem isVisible_target_of_update {forReference : Bool}
    (hcounts : r.counts forReference dep = true) :
    r'.isVisible m.id dep.target forReference = true := by
  have hmem : dep.target ∈ r'.targets forReference m.id := by
    rw [targets_of_update hm hr, if_pos rfl]
    exact List.mem_map_of_mem (List.mem_filter.2 ⟨by simp, hcounts⟩)
  refine Bool.or_eq_true_iff.2 (Or.inr ?_)
  cases r'.mode with
  | direct => exact List.contains_iff_mem.2 hmem
  | transitive => exact leadsTo_iff_transGen.2 (.single hmem)

include hdistinct in
/-- Every file belongs to the data model that it belonged to. -/
theorem owner?_of_update (uri : String) : r'.owner? uri = r.owner? uri := by
  obtain ⟨-, rfl⟩ := of_update hr
  -- Only `m` has its identifier, so the update replaces `m` by a data model with the same root.
  have hmap : (r.models.map fun old =>
      if old.id = m.id then { m with dependencies := front ++ dep :: back } else old) =
      r.models.map fun old =>
        if old = m then { m with dependencies := front ++ dep :: back } else old := by
    refine List.map_congr_left fun old hold => ?_
    by_cases hid : old.id = m.id
    · have hget := hdistinct.get?_eq hold
      rw [hid, hm] at hget
      rw [if_pos hid, if_pos (Option.some.inj hget).symm]
    · rw [if_neg hid, if_neg fun heq => hid (congrArg (·.id) heq)]
  rw [hmap, owner?, owner?, ownerModel?_map fun old => ?_, Option.map_map]
  · refine congrArg (Option.map · _) (funext fun old => ?_)
    by_cases heq : old = m <;> simp [heq]
  · by_cases heq : old = m <;> simp [heq]

include hdistinct hdeps in
/-- One dependency more leaves names and the ownership of files as they are, and hides nothing. -/
theorem widens_of_update : r.Widens r' where
  owner? := owner?_of_update hdistinct hm hr
  referenceName? id := by
    rw [Registry.referenceName?, Registry.referenceName?, get?_of_update hr]
    split
    · rename_i hid
      rw [hid, hm]
      rfl
    · rfl
  isVisible _ _ h := isVisible_of_update hm hdeps hr h

end Update

end ModelBinding.Registry
