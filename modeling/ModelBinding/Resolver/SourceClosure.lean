import ModelBinding.Document
import ModelBinding.Pool

/-!
# Dependencies among the sources of a mapping

The sources of a mapping may declare that they depend on others of the same mapping, by
identifier. The closure of a source is itself and all that it depends on, directly or
through others, each once, in the order of a depth-first search that follows
declarations in order. An identifier means the first source that has it; identifiers of
no source are passed over.
-/

namespace ModelBinding.Document

/-- The sources of a mapping that have an identifier, with it, in order. -/
def namedSources (d : Document) (mapping : NodeId) : List (String × NodeId) :=
  (d.childrenOfKind mapping .sourceObject).filterMap fun s => (d.ownId? s).map fun id => (id, s)

/-- The source that a dependency names, among those given. -/
def dependencyTarget? (d : Document) (sources : List (String × NodeId)) (dependency : NodeId) :
    Option NodeId :=
  ((d.node? dependency).bind (·.reference? .source)).bind fun ref =>
    (sources.find? (·.1 = ref.text)).map (·.2)

/-- The sources that a source depends on directly, in order of declaration. -/
def directDependencies (d : Document) (sources : List (String × NodeId)) (source : NodeId) :
    List NodeId :=
  (d.childrenOfKind source .sourceObjectDependency).filterMap (d.dependencyTarget? sources)

/-- The sources met when those on the stack are searched in turn. The pool holds the sources that
have not been met yet. -/
def visitSources (d : Document) (sources : List (String × NodeId)) (pool : List NodeId) :
    List NodeId → List NodeId
  | [] => []
  | s :: stack =>
    if s ∈ pool then
      s :: d.visitSources sources (Pool.without s pool) (d.directDependencies sources s ++ stack)
    else d.visitSources sources pool stack
termination_by stack => (pool.length, stack.length)
decreasing_by
  · exact Prod.Lex.left _ _ (Pool.length_without_lt ‹_›)
  · exact Prod.Lex.right _ (Nat.lt_succ_self _)

/-- A source and all sources of its mapping that it depends on. -/
def sourceClosure (d : Document) (owner : NodeId) : List NodeId :=
  match d.parent? owner with
  | none => [owner]
  | some mapping =>
    d.visitSources (d.namedSources mapping) (owner :: (d.namedSources mapping).map (·.2)) [owner]

/-- The sources that have an identifier are listed under it. -/
theorem mem_namedSources {d : Document} {mapping s : NodeId} {own : String} :
    (own, s) ∈ d.namedSources mapping ↔
      s ∈ d.childrenOfKind mapping .sourceObject ∧ d.ownId? s = some own := by
  simp only [namedSources, List.mem_filterMap, Option.map_eq_some_iff, Prod.mk.injEq]
  constructor
  · rintro ⟨s, hs, own, hown, rfl, rfl⟩
    exact ⟨hs, hown⟩
  · rintro ⟨hs, hown⟩
    exact ⟨s, hs, own, hown, rfl, rfl⟩

/-- A search only meets what was in the pool. -/
theorem mem_pool_of_mem_visitSources {d : Document} {sources : List (String × NodeId)}
    {pool stack : List NodeId} {s : NodeId} (h : s ∈ d.visitSources sources pool stack) :
    s ∈ pool := by
  fun_induction visitSources d sources pool stack with
  | case1 => simp at h
  | case2 pool s' stack hmem ih =>
    rcases List.mem_cons.1 h with rfl | h
    · exact hmem
    · exact (Pool.mem_without.1 (ih h)).1
  | case3 pool s' stack _ ih => exact ih h

/-- A search meets nothing twice. -/
theorem nodup_visitSources (d : Document) (sources : List (String × NodeId))
    (pool stack : List NodeId) : (d.visitSources sources pool stack).Nodup := by
  fun_induction visitSources d sources pool stack with
  | case1 => exact List.nodup_nil
  | case2 pool s stack hmem ih =>
    refine List.nodup_cons.2 ⟨fun h => ?_, ih⟩
    exact (Pool.mem_without.1 (mem_pool_of_mem_visitSources h)).2 rfl
  | case3 pool s stack _ ih => exact ih

/-- The closure of a source begins with it. -/
theorem head?_sourceClosure (d : Document) (owner : NodeId) :
    (d.sourceClosure owner).head? = some owner := by
  unfold sourceClosure
  split
  · rfl
  · simp [visitSources]

end ModelBinding.Document
