import Mathlib.Data.Finset.Lattice.Lemmas
import Mathlib.Data.Finset.Dedup
import ModelBinding.Proofs.Sources

/-!
# The order of a search with a stack

A search that keeps a stack, and passes over what it has met when this comes up again,
may have one node on its stack many times. It finds nodes in depth-first order all the
same: what the stack holds is searched piece by piece, each piece without what was met in
the pieces before it (`DepthFirst.exists_of_append`). The closure of a source is what
such a search finds, whatever the dependencies are (`Document.isDepthFirst_sourceClosure`).
-/

namespace ModelBinding

section Search

variable {α : Type} [DecidableEq α]

/-- That a loop over a stack ends and has found certain nodes in this order. A node that comes up
is passed over if it has been met before; else it is found and what comes next is put on the
stack. -/
inductive StackSearch (next : α → List α) : Finset α → List α → List α → Prop where
  /-- The stack is empty. -/
  | done (met : Finset α) : StackSearch next met [] []
  /-- The node on top has been met. -/
  | again {met : Finset α} {s : α} {stack found : List α} (hmet : s ∈ met)
      (rest : StackSearch next met stack found) : StackSearch next met (s :: stack) found
  /-- The node on top is met now. -/
  | visit {met : Finset α} {s : α} {stack found : List α} (hmet : s ∉ met)
      (rest : StackSearch next (insert s met) (next s ++ stack) found) :
      StackSearch next met (s :: stack) (s :: found)

/-- The nodes that a depth-first search meets from some nodes in turn, and in which order: a node
that has not been met, then what is met below it, then what is met from the other nodes. -/
inductive DepthFirst (next : α → List α) : Finset α → List α → List α → Prop where
  /-- There is nowhere to search. -/
  | done (met : Finset α) : DepthFirst next met [] []
  /-- The first node has been met. -/
  | skip {met : Finset α} {s : α} {rest after : List α} (hmet : s ∈ met)
      (hafter : DepthFirst next met rest after) : DepthFirst next met (s :: rest) after
  /-- The first node is met now. -/
  | visit {met : Finset α} {s : α} {rest below after : List α} (hmet : s ∉ met)
      (hbelow : DepthFirst next (insert s met) (next s) below)
      (hafter : DepthFirst next (insert s met ∪ below.toFinset) rest after) :
      DepthFirst next met (s :: rest) (s :: (below ++ after))

variable {next : α → List α} {met : Finset α} {stack found found' : List α}

/-- The loop finds one thing only. -/
theorem StackSearch.unique (h : StackSearch next met stack found)
    (h' : StackSearch next met stack found') : found = found' := by
  induction h generalizing found' with
  | done =>
    cases h'
    rfl
  | again hmet _ ih =>
    cases h' with
    | again _ rest => exact ih rest
    | visit hnew => exact absurd hmet hnew
  | visit hnew _ ih =>
    cases h' with
    | again hmet => exact absurd hmet hnew
    | visit _ rest => rw [ih rest]

/-- A depth-first search has one order only. -/
theorem DepthFirst.unique (h : DepthFirst next met stack found)
    (h' : DepthFirst next met stack found') : found = found' := by
  induction h generalizing found' with
  | done =>
    cases h'
    rfl
  | skip hmet _ ih =>
    cases h' with
    | skip _ hafter => exact ih hafter
    | visit hnew => exact absurd hmet hnew
  | visit hnew _ _ ihbelow ihafter =>
    cases h' with
    | skip hmet => exact absurd hmet hnew
    | visit _ hbelow hafter =>
      obtain rfl := ihbelow hbelow
      rw [ihafter hafter]

/-- Nodes in two lists are searched list by list. -/
theorem DepthFirst.exists_of_append {first second : List α}
    (h : DepthFirst next met (first ++ second) found) :
    ∃ before after, found = before ++ after ∧ DepthFirst next met first before ∧
      DepthFirst next (met ∪ before.toFinset) second after := by
  induction first generalizing met found with
  | nil => exact ⟨[], found, rfl, .done met, by simpa using h⟩
  | cons s first ih =>
    cases h with
    | skip hmet hafter =>
      obtain ⟨before, after, rfl, hbefore, hrest⟩ := ih hafter
      exact ⟨before, after, rfl, .skip hmet hbefore, hrest⟩
    | @visit _ _ _ below _ hnew hbelow hafter =>
      obtain ⟨before, after, rfl, hbefore, hrest⟩ := ih hafter
      -- For the second list all that the first one led to has been met, below `s` and after it.
      have hmet : insert s met ∪ below.toFinset ∪ before.toFinset =
          met ∪ (s :: (below ++ before)).toFinset := by
        ext t
        simp only [Finset.mem_union, Finset.mem_insert, List.mem_toFinset, List.mem_cons,
          List.mem_append]
        tauto
      refine ⟨s :: (below ++ before), after, by simp, .visit hnew hbelow hbefore, ?_⟩
      rwa [← hmet]

/-- What the loop finds, it finds depth first. -/
theorem StackSearch.depthFirst (h : StackSearch next met stack found) :
    DepthFirst next met stack found := by
  induction h with
  | done => exact .done _
  | again hmet _ ih => exact .skip hmet ih
  | visit hnew _ ih =>
    obtain ⟨below, after, rfl, hbelow, hafter⟩ := ih.exists_of_append
    exact .visit hnew hbelow hafter

end Search

namespace Document

variable {d : Document}

/-- The sources of a mapping that a source depends on: for each of its dependencies the first one
that has the text of its first reference to a source for an identifier. -/
def namedDependencies (d : Document) (mapping source : NodeId) : List NodeId :=
  (d.childrenOfKind source .sourceObjectDependency).filterMap fun dependency =>
    ((d.node? dependency).bind (·.reference? .source)).bind fun ref =>
      d.sourceNamed? mapping ref.text

theorem directDependencies_namedSources (mapping : NodeId) :
    d.directDependencies (d.namedSources mapping) = d.namedDependencies mapping := by
  funext source
  simp only [directDependencies, namedDependencies, ← map_find?_namedSources]
  rfl

/-- With a pool of what has not been met, of nodes among which all stay, the search is the loop
that keeps the nodes it has met. -/
theorem stackSearch_visitSources {sources : List (String × NodeId)} {nodes pool stack : List NodeId}
    {met : Finset NodeId} (hnext : ∀ s, ∀ t ∈ d.directDependencies sources s, t ∈ nodes)
    (hpool : ∀ t, t ∈ pool ↔ t ∈ nodes ∧ t ∉ met) (hstack : ∀ s ∈ stack, s ∈ nodes) :
    StackSearch (d.directDependencies sources) met stack (d.visitSources sources pool stack) := by
  fun_induction visitSources d sources pool stack generalizing met with
  | case1 => exact .done met
  | case2 pool s stack hmem ih =>
    -- The pool without `s` is what has not been met once `s` has.
    have hnew : s ∉ met := ((hpool s).1 hmem).2
    refine .visit hnew (ih ?_ ?_)
    · intro t
      rw [Pool.mem_without, hpool, Finset.mem_insert]
      tauto
    · intro t ht
      rcases List.mem_append.1 ht with ht | ht
      · exact hnext s t ht
      · exact hstack t (List.mem_cons_of_mem s ht)
  | case3 pool s stack hmem ih =>
    have hnodes := hstack s (List.mem_cons_self ..)
    have hmet : s ∈ met := by
      by_contra hnew
      exact hmem ((hpool s).2 ⟨hnodes, hnew⟩)
    exact .again hmet (ih hpool fun t ht => hstack t (List.mem_cons_of_mem s ht))

/-- From a source in a mapping the loop ends, and finds its closure. -/
theorem stackSearch_sourceClosure {owner mapping : NodeId}
    (hmapping : d.parent? owner = some mapping) :
    StackSearch (d.namedDependencies mapping) ∅ [owner] (d.sourceClosure owner) := by
  rw [sourceClosure, hmapping, ← directDependencies_namedSources]
  apply stackSearch_visitSources
  · intro s t ht
    exact List.mem_cons_of_mem owner (mem_sources_of_mem_directDependencies ht)
  · intro t
    simp
  · intro s hs
    rw [List.mem_singleton.1 hs]
    exact List.mem_cons_self ..

/-- The closure of a source in a mapping begins with it, holds nothing twice and all that chains of
dependencies lead to, cycles or not. It is what the loop over a stack ends with, and the depth-first
order in which dependencies are declared. -/
theorem isDepthFirst_sourceClosure {owner mapping : NodeId}
    (hmapping : d.parent? owner = some mapping) :
    (d.sourceClosure owner).head? = some owner ∧ (d.sourceClosure owner).Nodup ∧
      (∀ t, t ∈ d.sourceClosure owner ↔
        Relation.ReflTransGen (fun a b => b ∈ d.namedDependencies mapping a) owner t) ∧
      (∀ found, StackSearch (d.namedDependencies mapping) ∅ [owner] found ↔
        found = d.sourceClosure owner) ∧
      ∀ found, DepthFirst (d.namedDependencies mapping) ∅ [owner] found ↔
        found = d.sourceClosure owner := by
  have hsearch := stackSearch_sourceClosure hmapping
  refine ⟨d.head?_sourceClosure owner, d.nodup_sourceClosure owner, ?_, ?_, ?_⟩
  · intro t
    rw [mem_sourceClosure_iff hmapping, directDependencies_namedSources]
  · intro found
    constructor
    · intro h
      exact h.unique hsearch
    · rintro rfl
      exact hsearch
  · intro found
    constructor
    · intro h
      exact h.unique hsearch.depthFirst
    · rintro rfl
      exact hsearch.depthFirst

/-- A mapping of five sources: `A` depends on `B`, on a name that no source has and on `C`; `B`,
whose identifier a later source repeats, on `D` and on `A`; and `C` on itself. -/
def circular : Document :=
  .ofDrafts "file:///core/a.cm"
    [(.root, { kind := .mapping, id := some "Load" }),
      (⟨1⟩, { kind := .sourceObject, id := some "A" }),
      (⟨2⟩, { kind := .sourceObjectDependency, references := [(.source, "B")] }),
      (⟨2⟩, { kind := .sourceObjectDependency, references := [(.source, "X")] }),
      (⟨2⟩, { kind := .sourceObjectDependency, references := [(.source, "C"), (.source, "X")] }),
      (⟨1⟩, { kind := .sourceObject, id := some "B" }),
      (⟨6⟩, { kind := .sourceObjectDependency, references := [(.source, "D")] }),
      (⟨6⟩, { kind := .sourceObjectDependency, references := [(.source, "A")] }),
      (⟨1⟩, { kind := .sourceObject, id := some "C" }),
      (⟨9⟩, { kind := .sourceObjectDependency, references := [(.source, "C")] }),
      (⟨1⟩, { kind := .sourceObject, id := some "B" }),
      (⟨1⟩, { kind := .sourceObject, id := some "D" })]

/-- The search from the first source ends and goes down before it goes on. -/
theorem isDepthFirst_sourceClosure_circular :
    circular.sourceClosure ⟨2⟩ = [⟨2⟩, ⟨6⟩, ⟨12⟩, ⟨9⟩] ∧
      DepthFirst (circular.namedDependencies ⟨1⟩) ∅ [⟨2⟩] [⟨2⟩, ⟨6⟩, ⟨12⟩, ⟨9⟩] := by
  have hmapping : circular.parent? ⟨2⟩ = some ⟨1⟩ := by decide +kernel
  have hsources : circular.namedSources ⟨1⟩ =
      [("A", ⟨2⟩), ("B", ⟨6⟩), ("C", ⟨9⟩), ("B", ⟨11⟩), ("D", ⟨12⟩)] := by
    decide +kernel
  have hdependencies : [⟨2⟩, ⟨6⟩, ⟨9⟩, ⟨12⟩].map
      (circular.directDependencies
        [("A", ⟨2⟩), ("B", ⟨6⟩), ("C", ⟨9⟩), ("B", ⟨11⟩), ("D", ⟨12⟩)]) =
      [[⟨6⟩, ⟨9⟩], [⟨12⟩, ⟨2⟩], [⟨9⟩], []] := by
    decide +kernel
  simp only [List.map_cons, List.map_nil, List.cons.injEq, and_true] at hdependencies
  have hclosure : circular.sourceClosure ⟨2⟩ = [⟨2⟩, ⟨6⟩, ⟨12⟩, ⟨9⟩] := by
    simp [sourceClosure, hmapping, hsources, visitSources, hdependencies]
  obtain ⟨-, -, -, -, horder⟩ := isDepthFirst_sourceClosure hmapping
  exact ⟨hclosure, (horder _).2 hclosure.symm⟩

end Document

end ModelBinding
