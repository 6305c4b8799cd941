import ModelBinding.Completion
import Mathlib.Data.Prod.Lex
import Mathlib.Data.String.Basic

/-!
# What is offered is what binds

What is offered of a scope is what looking up some name in it finds
(`mem_candidates_iff`). Each name is offered at most once, and so is each node if Global
forms are suppressed beside Local ones. Nothing that a name could mean is missing: a name
that is not offered means a node that is offered under its Local ID
(`candidates_agree_lookup`).
-/

namespace ModelBinding

/-- By what names are offered in order: by their numbers of segments, and those of equally many
segments by their code points. -/
def Name.rank (name : String) : ℕ ×ₗ String := toLex (segmentCount name, name)

/-- Different names have different ranks. -/
theorem Name.rank_injective : Function.Injective rank := fun _ _ h =>
  congrArg (fun r => (ofLex r).2) h

namespace Completion

/-- Descriptions are sorted by the ranks of their names. -/
theorem comesFirst_iff (a b : Description) :
    comesFirst a b = true ↔ Name.rank a.name ≤ Name.rank b.name := by
  simp only [comesFirst, Bool.or_eq_true, Bool.and_eq_true, decide_eq_true_eq, beq_iff_eq,
    Bool.not_eq_true', decide_eq_false_iff_not, not_lt, Name.rank, Prod.Lex.toLex_le_toLex]

/-- The first description of each name is the one that a search for its name finds. -/
theorem mem_firstOfName_iff {ds : List Description} {d : Description} :
    d ∈ firstOfName ds ↔ ds.find? (·.name = d.name) = some d := by
  induction ds with
  | nil => simp [firstOfName]
  | cons e ds ih =>
    rw [firstOfName, List.mem_cons, List.mem_filter, ih, List.find?_cons]
    by_cases hname : e.name = d.name
    · simp [hname, eq_comm]
    · have hne : d ≠ e := fun heq => hname (heq ▸ rfl)
      simp [hname, hne, Ne.symm hname]

variable {s : Scope} {options : CompletionOptions} {d : Description}

/-- A description is offered if looking up its name finds it, unless it is in Global form, such
forms are suppressed and the node is found under a Local ID. -/
theorem mem_candidates_iff : d ∈ candidates s options ↔ s.lookup d.name = some d ∧
    (options.suppressQualifiedDuplicates = true → d.form = .localForm ∨
      ∀ e, s.lookup e.name = some e → e.form = .localForm → e.node ≠ d.node) := by
  have hunique : ∀ e, e ∈ firstOfName s.elements ↔ s.lookup e.name = some e := fun e => by
    rw [mem_firstOfName_iff, Scope.lookup_eq_find?]
  rw [candidates, List.mem_mergeSort]
  by_cases hsuppress : options.suppressQualifiedDuplicates = true
  · rw [if_pos hsuppress, dropQualified, List.mem_filter, hunique]
    simp [hsuppress, hunique, Description.isLocal]
  · rw [if_neg hsuppress, hunique]
    simp [hsuppress]

/-- What is found in Local form is offered, whatever is suppressed. -/
theorem mem_candidates_of_lookup (hlookup : s.lookup d.name = some d)
    (hlocal : d.form = .localForm) : d ∈ candidates s options :=
  mem_candidates_iff.2 ⟨hlookup, fun _ => Or.inl hlocal⟩

variable (options) in
/-- What a name means is offered, or is in Global form while the node is offered in Local form. -/
theorem offered_of_lookup {name : String} (hlookup : s.lookup name = some d) :
    d ∈ candidates s options ∨ options.suppressQualifiedDuplicates = true ∧
      d.form = .globalForm ∧ ∃ c ∈ candidates s options, c.form = .localForm ∧ c.node = d.node := by
  rw [← (Scope.of_lookup hlookup).2] at hlookup
  cases hform : d.form with
  | localForm => exact Or.inl (mem_candidates_of_lookup hlookup hform)
  | globalForm =>
    by_cases hhidden : options.suppressQualifiedDuplicates = true ∧
        ∃ e, s.lookup e.name = some e ∧ e.form = .localForm ∧ e.node = d.node
    · obtain ⟨hsuppress, e, he, hlocal, hnode⟩ := hhidden
      exact Or.inr ⟨hsuppress, rfl, e, mem_candidates_of_lookup he hlocal, hlocal, hnode⟩
    · exact Or.inl (mem_candidates_iff.2 ⟨hlookup, fun hsuppress =>
        Or.inr fun e he hlocal hnode => hhidden ⟨hsuppress, e, he, hlocal, hnode⟩⟩)

/-- No name is offered twice. -/
theorem nodup_names_candidates (s : Scope) (options : CompletionOptions) :
    ((candidates s options).map (·.name)).Nodup := by
  have hperm := List.mergeSort_perm
    (if options.suppressQualifiedDuplicates then dropQualified (firstOfName s.elements)
      else firstOfName s.elements) comesFirst
  refine (hperm.map (·.name)).nodup_iff.2 ?_
  split
  · exact (nodup_names_firstOfName s.elements).sublist (List.filter_sublist.map _)
  · exact nodup_names_firstOfName s.elements

/-- What is offered comes in order, each name strictly after those before it. -/
theorem pairwise_rank_candidates (s : Scope) (options : CompletionOptions) :
    (candidates s options).Pairwise fun a b => Name.rank a.name < Name.rank b.name := by
  have hsorted : (candidates s options).Pairwise fun a b => comesFirst a b = true := by
    refine List.pairwise_mergeSort (fun a b c hab hbc => ?_) (fun a b => ?_) _
    · rw [comesFirst_iff] at hab hbc ⊢
      exact hab.trans hbc
    · rw [Bool.or_eq_true, comesFirst_iff, comesFirst_iff]
      exact le_total _ _
  have hapart := List.pairwise_map.1 (nodup_names_candidates s options)
  refine (hsorted.and hapart).imp fun {a b} h => ?_
  exact lt_of_le_of_ne ((comesFirst_iff a b).1 h.1) fun heq => h.2 (Name.rank_injective heq)

/-- Of every scope, with Global forms suppressed beside Local ones or not: what is offered comes
strictly in order, so no name is offered twice; every name that is offered means what it is offered
as; every name of the scope is offered, or means, in Global form, a node that is offered under its
Local ID, and this only with suppression; so the nodes that are offered are those that some name
means; with suppression no node is offered in both forms; and the items are the candidates in their
order, numbered from zero. -/
theorem candidates_agree_lookup (s : Scope) (options : CompletionOptions) :
    (candidates s options).Pairwise (fun a b => Name.rank a.name < Name.rank b.name) ∧
      ((candidates s options).map (·.name)).Nodup ∧
      (∀ d ∈ candidates s options, s.lookup d.name = some d) ∧
      (∀ e ∈ s.elements, (∃ d ∈ candidates s options, d.name = e.name) ∨
        options.suppressQualifiedDuplicates = true ∧ ∃ d, s.lookup e.name = some d ∧
          d.form = .globalForm ∧ ∃ c ∈ candidates s options,
            c.form = .localForm ∧ c.node = d.node) ∧
      (∀ n, (∃ d ∈ candidates s options, d.node = n) ↔
        ∃ name d, s.lookup name = some d ∧ d.node = n) ∧
      (options.suppressQualifiedDuplicates = true → ∀ c ∈ candidates s options,
        ∀ d ∈ candidates s options, c.form = .localForm → d.form = .globalForm →
          c.node ≠ d.node) ∧
      ∀ place : ℕ,
        (items s options)[place]?.map (fun item => (item.priority, item.label, item.target)) =
          (candidates s options)[place]?.map fun d => (place, d.name, d.node) := by
  refine ⟨pairwise_rank_candidates s options, nodup_names_candidates s options,
    fun d hd => (mem_candidates_iff.1 hd).1, fun e he => ?_, fun n => ⟨?_, ?_⟩,
    fun hsuppress c hc d hd hlocal hglobal => ?_, fun place => ?_⟩
  · obtain ⟨d, hlookup⟩ := Scope.exists_lookup_of_mem he
    rcases offered_of_lookup options hlookup with hd | ⟨hsuppress, hglobal, hoffered⟩
    · exact Or.inl ⟨d, hd, (Scope.of_lookup hlookup).2⟩
    · exact Or.inr ⟨hsuppress, d, hlookup, hglobal, hoffered⟩
  · rintro ⟨d, hd, rfl⟩
    exact ⟨d.name, d, (mem_candidates_iff.1 hd).1, rfl⟩
  · rintro ⟨name, d, hlookup, rfl⟩
    rcases offered_of_lookup options hlookup with hd | ⟨-, -, c, hc, -, hnode⟩
    · exact ⟨d, hd, rfl⟩
    · exact ⟨c, hc, hnode⟩
  · have hnotLocal : d.form ≠ .localForm := by simp [hglobal]
    exact ((mem_candidates_iff.1 hd).2 hsuppress).resolve_left hnotLocal c
      (mem_candidates_iff.1 hc).1 hlocal
  · rw [items, List.getElem?_mapIdx, Option.map_map]
    rfl

end Completion

end ModelBinding
