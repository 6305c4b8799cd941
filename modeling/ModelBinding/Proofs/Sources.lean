import Mathlib.Logic.Relation
import ModelBinding.Proofs.Lists
import ModelBinding.Proofs.WellFormed
import ModelBinding.Resolver.SourceClosure

/-!
# What sources depend on

The search behind the closure of a source is judged by three facts: whatever it meets is
led to from its stack, it meets what waits on the stack, and with a source it meets what
that depends on. So the closure holds exactly what chains of dependencies lead to from
the source (`mem_sourceClosure_iff`), whatever cycles there are.
-/

namespace ModelBinding.Document

variable {d : Document}

/-- The first source of a mapping that has an identifier. -/
def sourceNamed? (d : Document) (mapping : NodeId) (own : String) : Option NodeId :=
  (d.childrenOfKind mapping .sourceObject).find? (d.ownId? · = some own)

/-- It is a source of the mapping. -/
theorem mem_of_sourceNamed? {mapping t : NodeId} {own : String}
    (h : d.sourceNamed? mapping own = some t) :
    t ∈ d.childrenOfKind mapping .sourceObject ∧ d.ownId? t = some own :=
  ⟨List.mem_of_find?_eq_some h, by simpa using List.find?_some h⟩

/-- Where the sources of a mapping have distinct identifiers, any of them is the first that has its
identifier. -/
theorem sourceNamed?_eq_some_of_nodup {mapping t : NodeId} {own : String}
    (hdistinct : ((d.childrenOfKind mapping .sourceObject).filterMap d.ownId?).Nodup)
    (ht : t ∈ d.childrenOfKind mapping .sourceObject) (hown : d.ownId? t = some own) :
    d.sourceNamed? mapping own = some t := by
  have hsome : (d.sourceNamed? mapping own).isSome :=
    List.find?_isSome.2 ⟨t, ht, decide_eq_true hown⟩
  obtain ⟨first, hfirst⟩ := Option.isSome_iff_exists.1 hsome
  obtain ⟨hmem, hfirstOwn⟩ := mem_of_sourceNamed? hfirst
  rw [hfirst, eq_of_nodup_filterMap hdistinct hmem ht hfirstOwn hown]

/-- Looking up an identifier among the sources that have one, where not all count, is looking for
the first that counts and has it. -/
theorem find?_namedSources (d : Document) (mapping : NodeId) (counts : NodeId → Bool)
    (own : String) :
    (d.namedSources mapping).find? (fun named => counts named.2 && decide (named.1 = own)) =
      ((d.childrenOfKind mapping .sourceObject).find? fun s =>
        counts s && decide (d.ownId? s = some own)).map fun s => (own, s) := by
  have hlisted : (fun s => ((d.ownId? s).map fun id => (id, s)).any fun named =>
      counts named.2 && decide (named.1 = own)) =
        fun s => counts s && decide (d.ownId? s = some own) := by
    funext s
    cases d.ownId? s <;> simp
  rw [namedSources, List.find?_filterMap, hlisted]
  cases hfound : (d.childrenOfKind mapping .sourceObject).find? fun s =>
      counts s && decide (d.ownId? s = some own) with
  | none => rfl
  | some t =>
    obtain ⟨-, hown⟩ : counts t = true ∧ d.ownId? t = some own := by
      simpa using List.find?_some hfound
    simp [hown]

/-- Looking up an identifier among the sources that have one is looking for the first source that
has it. -/
theorem map_find?_namedSources (d : Document) (mapping : NodeId) (own : String) :
    ((d.namedSources mapping).find? (·.1 = own)).map (·.2) = d.sourceNamed? mapping own := by
  simpa [sourceNamed?, Function.comp_def] using
    congrArg (Option.map (·.2)) (d.find?_namedSources mapping (fun _ => true) own)

/-- A source depends directly on the sources that come first under the identifiers by which its
dependencies refer to one. -/
theorem mem_directDependencies_iff {mapping s t : NodeId} :
    t ∈ d.directDependencies (d.namedSources mapping) s ↔
      ∃ dependency ∈ d.childrenOfKind s .sourceObjectDependency, ∃ ref,
        (d.node? dependency).bind (·.reference? .source) = some ref ∧
          d.sourceNamed? mapping ref.text = some t := by
  simp only [directDependencies, dependencyTarget?, map_find?_namedSources, List.mem_filterMap,
    Option.bind_eq_some_iff]

/-- They are sources that have an identifier. -/
theorem mem_sources_of_mem_directDependencies {mapping s t : NodeId}
    (h : t ∈ d.directDependencies (d.namedSources mapping) s) :
    t ∈ (d.namedSources mapping).map (·.2) := by
  obtain ⟨_, -, ref, -, hnamed⟩ := mem_directDependencies_iff.1 h
  exact List.mem_map.2 ⟨_, mem_namedSources.2 (mem_of_sourceNamed? hnamed), rfl⟩

section Search

variable {sources : List (String × NodeId)} {pool stack : List NodeId} {s t : NodeId}

/-- What the search meets, a chain of dependencies leads to from the stack. -/
theorem reflTransGen_of_mem_visitSources (h : t ∈ d.visitSources sources pool stack) :
    ∃ s ∈ stack, Relation.ReflTransGen (fun a b => b ∈ d.directDependencies sources a) s t := by
  fun_induction visitSources d sources pool stack with
  | case1 => cases h
  | case2 pool s stack _ ih =>
    rcases List.mem_cons.1 h with rfl | h
    · exact ⟨t, List.mem_cons_self .., .refl⟩
    · obtain ⟨first, hfirst, hchain⟩ := ih h
      rcases List.mem_append.1 hfirst with hdirect | hstack
      · exact ⟨s, List.mem_cons_self .., .head hdirect hchain⟩
      · exact ⟨first, List.mem_cons_of_mem s hstack, hchain⟩
  | case3 pool s stack _ ih =>
    obtain ⟨first, hfirst, hchain⟩ := ih h
    exact ⟨first, List.mem_cons_of_mem s hfirst, hchain⟩

/-- The search meets what is on the stack, if it has not been met before. -/
theorem mem_visitSources_of_mem (hstack : s ∈ stack) (hpool : s ∈ pool) :
    s ∈ d.visitSources sources pool stack := by
  fun_induction visitSources d sources pool stack with
  | case1 => cases hstack
  | case2 pool first stack _ ih =>
    by_cases heq : s = first
    · exact heq ▸ List.mem_cons_self ..
    · have hrest := (List.mem_cons.1 hstack).resolve_left heq
      exact List.mem_cons_of_mem _
        (ih (List.mem_append_right _ hrest) (Pool.mem_without.2 ⟨hpool, heq⟩))
  | case3 pool first stack hmet ih =>
    exact ih ((List.mem_cons.1 hstack).resolve_left fun heq => hmet (heq ▸ hpool)) hpool

/-- With a source the search meets what that depends on, if it has not been met before. -/
theorem mem_visitSources_of_directDependencies (hs : s ∈ d.visitSources sources pool stack)
    (ht : t ∈ d.directDependencies sources s) (hpool : t ∈ pool) :
    t ∈ d.visitSources sources pool stack := by
  fun_induction visitSources d sources pool stack with
  | case1 => cases hs
  | case2 pool first stack _ ih =>
    by_cases heq : t = first
    · exact heq ▸ List.mem_cons_self ..
    · have hleft := Pool.mem_without.2 ⟨hpool, heq⟩
      rcases List.mem_cons.1 hs with rfl | hs
      · exact List.mem_cons_of_mem _ (mem_visitSources_of_mem (List.mem_append_left _ ht) hleft)
      · exact List.mem_cons_of_mem _ (ih hs hleft)
  | case3 pool first stack _ ih => exact ih hs hpool

end Search

/-- The closure of a source holds exactly what chains of dependencies lead to. -/
theorem mem_sourceClosure_iff {owner mapping : NodeId} (hmapping : d.parent? owner = some mapping)
    {t : NodeId} :
    t ∈ d.sourceClosure owner ↔
      Relation.ReflTransGen (fun a b => b ∈ d.directDependencies (d.namedSources mapping) a)
        owner t := by
  unfold sourceClosure
  rw [hmapping]
  constructor
  · intro h
    obtain ⟨first, hfirst, hchain⟩ := reflTransGen_of_mem_visitSources h
    rwa [List.mem_singleton.1 hfirst] at hchain
  · intro hchain
    induction hchain with
    | refl => exact mem_visitSources_of_mem (List.mem_singleton_self owner) (List.mem_cons_self ..)
    | tail _ hstep ih =>
      apply mem_visitSources_of_directDependencies ih hstep
      exact List.mem_cons_of_mem _ (mem_sources_of_mem_directDependencies hstep)

/-- The closure of a source holds it and sources of the mapping. -/
theorem eq_or_mem_of_mem_sourceClosure {owner mapping : NodeId}
    (hmapping : d.parent? owner = some mapping) {t : NodeId} (ht : t ∈ d.sourceClosure owner) :
    t = owner ∨ t ∈ d.childrenOfKind mapping .sourceObject := by
  rw [sourceClosure, hmapping] at ht
  refine (List.mem_cons.1 (mem_pool_of_mem_visitSources ht)).imp_right fun hnamed => ?_
  obtain ⟨⟨own, named⟩, hmem, rfl⟩ := List.mem_map.1 hnamed
  exact (mem_namedSources.1 hmem).1

/-- In a tree the closure of a source object holds source objects of its mapping alone. -/
theorem IsTree.mem_childrenOfKind_of_mem_sourceClosure (h : d.IsTree) {owner mapping : NodeId}
    (hkind : d.kind? owner = some .sourceObject) (hmapping : d.parent? owner = some mapping)
    {t : NodeId} (ht : t ∈ d.sourceClosure owner) : t ∈ d.childrenOfKind mapping .sourceObject := by
  rcases eq_or_mem_of_mem_sourceClosure hmapping ht with rfl | ht
  · exact List.mem_filter.2 ⟨(h.of_parent? hmapping).2, by simpa using hkind⟩
  · exact ht

/-- It holds no source twice. -/
theorem nodup_sourceClosure (d : Document) (owner : NodeId) : (d.sourceClosure owner).Nodup := by
  unfold sourceClosure
  split
  · exact List.pairwise_singleton _ owner
  · exact d.nodup_visitSources _ _ _

end ModelBinding.Document
