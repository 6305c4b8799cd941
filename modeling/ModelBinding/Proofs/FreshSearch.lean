import ModelBinding.Proofs.FreshNames
import Mathlib.Data.Finset.Card

/-!
# The search for a fresh name

The search looks at the candidates of a base in turn and ends at the first that is not
taken, so its answer is settled by what is taken and not by how that is listed
(`Name.fresh_eq_candidate_iff`). It ends because the candidates are distinct: of those
passed over each is another of the names taken, so there are at most as many
(`Name.card_passed_le`). A candidate of a normalized base is normalized, hence a single
segment.
-/

namespace ModelBinding

namespace Name

/-- The search through the candidates of a base from the `n`-th on, the names taken being left as
they are, looks at so many candidates and ends with an answer. -/
inductive Finds (base : String) (taken : List String) : Nat → Nat → String → Prop where
  /-- A candidate that is not taken is the answer. -/
  | free {n : Nat} (h : candidate base n ∉ taken) : Finds base taken n 1 (candidate base n)
  /-- After one that is taken the search goes on with the next. -/
  | next {n probes : Nat} {answer : String} (h : candidate base n ∈ taken)
      (hrest : Finds base taken (n + 1) probes answer) : Finds base taken n (probes + 1) answer

variable {base proposal : String} {taken existing other : List String} {m n : Nat}

/-- The search ends at a candidate that is not taken behind some that are. -/
theorem finds_of_passed (hfree : candidate base (n + m) ∉ taken)
    (hpassed : ∀ i < m, candidate base (n + i) ∈ taken) :
    Finds base taken n (m + 1) (candidate base (n + m)) := by
  induction m generalizing n with
  | zero => exact .free hfree
  | succ m ih =>
    have hshift (i : Nat) : n + 1 + i = n + (i + 1) := by omega
    have hrest : Finds base taken (n + 1) (m + 1) (candidate base (n + 1 + m)) := by
      apply ih
      · rw [hshift]
        exact hfree
      · intro i hi
        rw [hshift]
        exact hpassed (i + 1) (by omega)
    rw [hshift] at hrest
    exact .next (hpassed 0 (by omega)) hrest

/-- Candidates that are passed over are distinct names that are taken. -/
theorem card_passed_le (hpassed : ∀ i < m, candidate base i ∈ taken) : m ≤ taken.toFinset.card := by
  have hsubset : (Finset.range m).image (candidate base) ⊆ taken.toFinset := by
    intro name hname
    obtain ⟨i, hi, rfl⟩ := Finset.mem_image.1 hname
    exact List.mem_toFinset.2 (hpassed i (Finset.mem_range.1 hi))
  have hcard := Finset.card_le_card hsubset
  rwa [Finset.card_image_of_injective _ (candidate_injective base), Finset.card_range] at hcard

/-- The answer for a proposal is the first candidate that is not taken. -/
theorem fresh_eq_candidate_iff :
    fresh proposal existing = candidate (normalize proposal) m ↔
      candidate (normalize proposal) m ∉ existing ∧
        ∀ i < m, candidate (normalize proposal) i ∈ existing := by
  obtain ⟨first, -, heq, hpassed⟩ := exists_firstFree_eq (normalize proposal) 0 existing
  have hfree : candidate (normalize proposal) first ∉ existing :=
    heq ▸ fresh_notMem proposal existing
  constructor
  · intro h
    obtain rfl : first = m := candidate_injective _ (heq.symm.trans h)
    exact ⟨hfree, fun i hi => hpassed i (by omega) hi⟩
  · rintro ⟨hfree', hpassed'⟩
    rcases Nat.lt_trichotomy m first with hlt | rfl | hgt
    · exact absurd (hpassed m (by omega) hlt) hfree'
    · exact heq
    · exact absurd (hpassed' first hgt) hfree

/-- The answer depends on what is taken alone, not on its order or on repetitions. -/
theorem fresh_congr (h : ∀ name, name ∈ other ↔ name ∈ existing) :
    fresh proposal other = fresh proposal existing := by
  obtain ⟨m, -, heq, -⟩ := exists_firstFree_eq (normalize proposal) 0 existing
  have hfirst := fresh_eq_candidate_iff.1 heq
  simp only [← h] at hfirst
  exact (fresh_eq_candidate_iff.2 hfirst).trans heq.symm

section Normal

/-- Digits may stand in a segment. -/
theorem isAllowed_of_isDigit {c : Char} (h : c.isDigit = true) : isAllowed c = true := by
  simp [isAllowed, Text.isIdentifierContinue_of_isDigit h]

/-- Normalizing leaves a text alone exactly if all its characters may stand in a segment. -/
theorem normalize_eq_self_iff {text : String} :
    normalize text = text ↔ ∀ c ∈ text.toList, isAllowed c = true := by
  have hmap : (text.toList.map fun c => if isAllowed c then c else replacement) = text.toList ↔
      ∀ c ∈ text.toList, (if isAllowed c then c else replacement) = c := by
    simpa only [List.map_id'] using List.map_inj_left (g := fun c : Char => c)
  rw [← String.toList_inj, normalize, String.toList_ofList, hmap]
  refine forall₂_congr fun c _ => ?_
  by_cases hc : isAllowed c = true
  · simp [hc]
  · have hne : replacement ≠ c := by
      rintro rfl
      exact hc (by decide)
    simp [hc, hne]

/-- What is normalized holds only characters that may stand in a segment. -/
theorem isAllowed_of_mem_normalize {c : Char} (hc : c ∈ (normalize proposal).toList) :
    isAllowed c = true := by
  rw [normalize, String.toList_ofList] at hc
  obtain ⟨c', -, rfl⟩ := List.mem_map.1 hc
  by_cases hallowed : isAllowed c' = true
  · rw [if_pos hallowed]
    exact hallowed
  · rw [if_neg hallowed]
    decide

/-- So do the candidates of such a base. -/
theorem isAllowed_of_mem_candidate (hbase : ∀ c ∈ base.toList, isAllowed c = true) {c : Char}
    (hc : c ∈ (candidate base n).toList) : isAllowed c = true := by
  cases n with
  | zero => exact hbase c hc
  | succ n =>
    rw [candidate, String.toList_append, String.toList_append, List.mem_append,
      List.mem_append] at hc
    rcases hc with (hc | hc) | hc
    · exact hbase c hc
    · rw [List.mem_singleton.1 hc]
      decide
    · apply isAllowed_of_isDigit
      rw [Nat.toString_eq_repr, Nat.toList_repr] at hc
      exact Nat.isDigit_of_mem_toDigits (by decide) (by decide) hc

/-- So does the answer for every proposal. -/
theorem isAllowed_of_mem_fresh {c : Char} (hc : c ∈ (fresh proposal existing).toList) :
    isAllowed c = true := by
  obtain ⟨m, -, heq, -⟩ := exists_firstFree_eq (normalize proposal) 0 existing
  rw [fresh, heq] at hc
  exact isAllowed_of_mem_candidate (fun _ => isAllowed_of_mem_normalize) hc

end Normal

end Name

/-- What is allocated in the subtree of a node is none of the identifiers of nodes in it that may
stand where the kind is asked for. -/
theorem Document.ownId?_ne_freshId {d : Document} {container n : NodeId}
    (hn : n ∈ d.descendants container) {k kind : NodeKind} (hkind : d.kind? n = some kind)
    (hsubtype : kind.isSubtypeOf k = true) (proposal : String) :
    d.ownId? n ≠ some (d.freshId k proposal container) := by
  intro hown
  refine Name.fresh_notMem _ _ (List.mem_filterMap.2 ⟨n, List.mem_filter.2 ⟨hn, ?_⟩, hown⟩)
  simp [hkind, hsubtype]

namespace Snapshot

/-- The search for a fresh name ends after at most one look more than there are distinct names. Its
answer is the first candidate that is not taken, is normalized and a single segment, and depends
only on what is taken. So what is allocated in the subtree of a node is free there for the kind. -/
theorem fresh_isFirstFree (proposal : String) (existing : List String) :
    (∃ n ≤ existing.toFinset.card,
      Name.Finds (Name.normalize proposal) existing 0 (n + 1) (Name.fresh proposal existing) ∧
        Name.fresh proposal existing = Name.candidate (Name.normalize proposal) n ∧
          ∀ i < n, Name.candidate (Name.normalize proposal) i ∈ existing) ∧
    Name.fresh proposal existing ∉ existing ∧
    Name.separator ∉ (Name.fresh proposal existing).toList ∧
    Name.normalize (Name.fresh proposal existing) = Name.fresh proposal existing ∧
    (∀ other : List String, (∀ name, name ∈ other ↔ name ∈ existing) →
      Name.fresh proposal other = Name.fresh proposal existing) ∧
    ∀ (s : Snapshot) (container : NodePtr) (d : Document),
      s.workspace.get? container.document = some d → ∀ n ∈ d.descendants container.node,
        ∀ k kind, d.kind? n = some kind → kind.isSubtypeOf k = true →
          d.ownId? n ≠ some (s.freshId k proposal (.inside container)) := by
  obtain ⟨n, -, heq, -⟩ := Name.exists_firstFree_eq (Name.normalize proposal) 0 existing
  obtain ⟨hfree, hpassed⟩ := Name.fresh_eq_candidate_iff.1 heq
  have hfinds := Name.finds_of_passed (n := 0) (by rwa [Nat.zero_add])
    fun i hi => by rw [Nat.zero_add]; exact hpassed i hi
  rw [Nat.zero_add, ← heq] at hfinds
  refine ⟨⟨n, Name.card_passed_le hpassed, hfinds, heq, hpassed⟩, Name.fresh_notMem _ _, ?_, ?_,
    fun other h => Name.fresh_congr h, ?_⟩
  · intro hdot
    have hallowed := Name.isAllowed_of_mem_fresh hdot
    rw [Name.isAllowed_separator] at hallowed
    exact absurd hallowed (by decide)
  · exact Name.normalize_eq_self_iff.2 fun c hc => Name.isAllowed_of_mem_fresh hc
  · intro s container d hd n hn k kind hkind hsubtype
    rw [freshId, hd]
    exact Document.ownId?_ne_freshId hn hkind hsubtype proposal

-- The base may itself end like a candidate.
example : Name.fresh "Order Line-2" ["Order_Line-2-2", "Order_Line-2", "Order_Line-2-2"] =
    "Order_Line-2-3" := by
  decide +kernel

end Snapshot

end ModelBinding
