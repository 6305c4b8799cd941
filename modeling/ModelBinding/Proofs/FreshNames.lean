import ModelBinding.Analysis
import ModelBinding.Proofs.Published

/-!
# Allocated identifiers are free

The search for a free name ends at the first candidate that is not taken
(`Name.fresh_notMem`): the candidates of a base are distinct, so one that was taken once
need not be looked at again. What counts as taken in a document are the Local IDs that
its data model exports. Where there is a data model, these include the Local ID of every
written node of the document that may stand where the kind is asked for; a document of no
data model exports nothing, so there the proposal is allocated as it is, whatever the
document holds (`freshId_forDocument`).
-/

namespace ModelBinding

namespace Name

/-- No candidate of a base comes up twice. -/
theorem candidate_injective (base : String) : Function.Injective (candidate base) := by
  have hlonger : ∀ n, (candidate base (n + 1)).length ≠ base.length := fun n h => by
    have hlength : (candidate base (n + 1)).length = base.length + 1 + (n + 2).repr.length := by
      simp only [candidate, String.length_append]
      rfl
    omega
  intro n m h
  match n, m with
  | 0, 0 => rfl
  | 0, m + 1 => exact absurd (congrArg String.length h).symm (hlonger m)
  | n + 1, 0 => exact absurd (congrArg String.length h) (hlonger n)
  | n + 1, m + 1 =>
    have hsuffix : (n + 2).repr = (m + 2).repr := (String.append_right_inj (base ++ "-")).1 h
    have hdigits := congrArg (fun text => Nat.ofDigitChars 10 text.toList 0) hsuffix
    simp only [Nat.toList_repr, Nat.ofDigitChars_ten_toDigits] at hdigits
    omega

/-- The search answers with a candidate at which it has not been before, and all that it has passed
over are taken. -/
theorem exists_firstFree_eq (base : String) (n : Nat) (taken : List String) :
    ∃ m, n ≤ m ∧ firstFree base n taken = candidate base m ∧
      ∀ i, n ≤ i → i < m → candidate base i ∈ taken := by
  fun_induction firstFree base n taken with
  | case1 n taken hmem ih =>
    obtain ⟨m, hm, heq, hpassed⟩ := ih
    refine ⟨m, by omega, heq, fun i hi hlt => ?_⟩
    by_cases hin : i = n
    · rw [hin]
      exact hmem
    · exact (Pool.mem_without.1 (hpassed i (by omega) hlt)).1
  | case2 n taken => exact ⟨n, Nat.le_refl n, rfl, fun i hi hlt => by omega⟩

/-- What the search answers is not taken. -/
theorem firstFree_notMem (base : String) (n : Nat) (taken : List String) :
    firstFree base n taken ∉ taken := by
  fun_induction firstFree base n taken with
  | case1 n taken _ ih =>
    -- The candidate that was dropped lies behind, so the answer is none of the old names either.
    obtain ⟨m, hm, heq, -⟩ :=
      exists_firstFree_eq base (n + 1) (Pool.without (candidate base n) taken)
    have hne : firstFree base (n + 1) (Pool.without (candidate base n) taken) ≠
        candidate base n := fun h => by
      have := candidate_injective base (heq.symm.trans h)
      omega
    exact fun hmem => ih (Pool.mem_without.2 ⟨hmem, hne⟩)
  | case2 n taken hfree => exact hfree

/-- The name found for a proposal is none of the existing ones. -/
theorem fresh_notMem (proposal : String) (existing : List String) :
    fresh proposal existing ∉ existing :=
  firstFree_notMem _ _ _

/-- A name found for a proposal that is not empty is not empty. -/
theorem fresh_ne_empty {proposal : String} (hproposal : proposal ≠ "") (existing : List String) :
    fresh proposal existing ≠ "" := by
  obtain ⟨m, -, heq, -⟩ := exists_firstFree_eq (normalize proposal) 0 existing
  rw [fresh, heq]
  intro hempty
  have hlength := congrArg String.length hempty
  cases m with
  | zero =>
    rw [candidate, length_normalize] at hlength
    exact hproposal (String.length_eq_zero_iff.1 hlength)
  | succ m => simp [candidate, String.length_append] at hlength

/-- Where no name exists yet the proposal is only normalized. -/
@[simp] theorem fresh_nil (proposal : String) : fresh proposal [] = normalize proposal :=
  firstFree_of_notMem List.not_mem_nil

end Name

/-- The name that is allocated for a kind in a data model is none of the Local IDs under which nodes
that may stand where the kind is asked for are exported in the data model. -/
theorem Index.Faithful.name_ne_freshLocalName {i : Index} (h : i.Faithful) {x : Description}
    (hx : x ∈ i.all) {k : NodeKind} (hkind : x.kind.isSubtypeOf k = true)
    (hform : x.form = .localForm) (proposal : String) :
    x.name ≠ i.freshLocalName k proposal x.dataModel := by
  intro heq
  have htaken : x ∈ (i.globalScope k).filter fun y => y.isLocal && y.dataModel = x.dataModel :=
    List.mem_filter.2
      ⟨h.mem_globalScope_iff.2 ⟨hx, hkind⟩, by simp [Description.isLocal, hform]⟩
  have hname := List.mem_map_of_mem (f := Description.name) htaken
  rw [heq] at hname
  exact Name.fresh_notMem _ _ hname

namespace Snapshot.Publishes

variable {s : Snapshot} (h : s.Publishes) {k : NodeKind} (hk : k.isIdentified = true)
include h hk

/-- The name that is allocated in a data model is none of the Local IDs of the written nodes of its
documents, as far as these may stand where the kind is asked for. -/
theorem localId?_ne_freshLocalName {id : DocumentId} {d : Document}
    (hd : s.workspace.get? id = some d) {m : DataModelId} (hm : s.registry.modelOf? d = some m)
    {n : NodeId} (hn : d.isDerived n = false) {k' : NodeKind} (hk' : d.kind? n = some k')
    (hsubtype : k'.isSubtypeOf k = true) (proposal : String) :
    d.localId? n ≠ some (s.index.freshLocalName k proposal (some m)) := by
  intro hl
  have hidentified := NodeKind.isIdentified_of_isSubtypeOf hsubtype hk
  obtain ⟨g, -, hpublished⟩ := Document.published_eq_of_localId? hm hk' hidentified hl
  have hall := h.mem_all hd hn (hpublished ▸ List.mem_cons_self ..)
  exact h.current.index.name_ne_freshLocalName hall hsubtype rfl proposal rfl

/-- Outside all data models nothing of an identified kind is exported, so a proposal is only
normalized. -/
theorem freshLocalName_none (proposal : String) :
    s.index.freshLocalName k proposal none = Name.normalize proposal := by
  have hnone : (s.index.globalScope k).filter (fun x => x.isLocal && x.dataModel = none) = [] :=
    List.filter_eq_nil_iff.2 fun x hx => by
      simp [h.current.dataModel_ne_none_of_mem_globalScope hk hx]
  rw [Index.freshLocalName, hnone, List.map_nil, Name.fresh_nil]

end Snapshot.Publishes

namespace Session

/-- After any sound actions and a rebuild, the identifier allocated for a kind in a document that a
data model owns is none of the Local IDs of the document's written nodes of this kind or of one of
its subtypes. A document of no data model exports nothing, and the identifier allocated in it is the
normalized proposal. -/
theorem freshId_forDocument {s : Session} (hs : s.Reachable) {uri : String} {d : Document}
    (hd : s.host.rebuild.workspace.at? uri = some d) {k : NodeKind} (hk : k.isIdentified = true)
    (proposal : String) :
    ((s.host.rebuild.registry.modelOf? d).isSome → ∀ n k', d.isDerived n = false →
      d.kind? n = some k' → k'.isSubtypeOf k = true →
        d.localId? n ≠ some (s.host.rebuild.freshId k proposal (.forDocument uri))) ∧
    (s.host.rebuild.registry.modelOf? d = none →
      s.host.rebuild.index.exportsOf d.id = [] ∧
        s.host.rebuild.freshId k proposal (.forDocument uri) = Name.normalize proposal) := by
  have hpublishes := hs.publishes
  obtain ⟨hget, rfl⟩ := hs.current.workspace.at?_eq_some_iff.1 hd
  have hfresh : s.host.rebuild.freshId k proposal (.forDocument d.uri) =
      s.host.rebuild.index.freshLocalName k proposal (s.host.rebuild.registry.modelOf? d) := rfl
  rw [hfresh]
  constructor
  · intro howned n k' hn hk' hsubtype
    obtain ⟨m, hm⟩ := Option.isSome_iff_exists.1 howned
    rw [hm]
    exact hpublishes.localId?_ne_freshLocalName hk hget hm hn hk' hsubtype proposal
  · intro hnone
    refine ⟨hpublishes.exportsOf_eq_nil hget hnone, ?_⟩
    rw [hnone]
    exact hpublishes.freshLocalName_none hk proposal

/-- Beside the entity of a data model its identifier is given out with a suffix. -/
theorem freshId_forDocument_dependent :
    ∃ d, dependent.host.rebuild.workspace.at? "file:///core/a.cm" = some d ∧
      d.localId? ⟨1⟩ = some "Party" ∧
      d.localId? ⟨1⟩ ≠ some (dependent.host.rebuild.freshId .logicalEntity "Party"
        (.forDocument "file:///core/a.cm")) ∧
      dependent.host.rebuild.freshId .logicalEntity "Party" (.forDocument "file:///core/a.cm") =
        "Party-2" := by
  obtain ⟨d, hd⟩ := Option.isSome_iff_exists.1
    (show (dependent.host.rebuild.workspace.at? "file:///core/a.cm").isSome by decide +kernel)
  have hnode : (dependent.host.rebuild.workspace.at? "file:///core/a.cm").map (fun d =>
      (dependent.host.rebuild.registry.modelOf? d, d.isDerived ⟨1⟩, d.kind? ⟨1⟩,
        d.localId? ⟨1⟩)) = some (some ⟨"core"⟩, false, some .logicalEntity, some "Party") := by
    decide +kernel
  rw [hd, Option.map_some, Option.some.injEq, Prod.mk.injEq, Prod.mk.injEq, Prod.mk.injEq]
    at hnode
  obtain ⟨hmodel, hwritten, hkind, hlocal⟩ := hnode
  obtain ⟨hfree, -⟩ := freshId_forDocument reachable_dependent hd
    (show NodeKind.logicalEntity.isIdentified = true by rfl) "Party"
  exact ⟨d, hd, hlocal, hfree (by rw [hmodel]; rfl) _ _ hwritten hkind rfl, by decide +kernel⟩

/-- A session with one document, of no data model, that has an entity. -/
def loose : Session :=
  (start {}).run
    [.set (.ofDrafts "file:///loose/d.cm"
      (List.map (fun draft => (NodeId.root, draft))
        [{ kind := .logicalEntity, id := some "E" }]))]

/-- It is reachable. -/
theorem reachable_loose : loose.Reachable := by
  refine ⟨_, _, fun a ha => ?_, rfl⟩
  rw [List.mem_singleton.1 ha]
  exact drafted_flat _ _

/-- In a document of no data model the identifier of one of its entities is given out again. -/
theorem freshId_forDocument_taken :
    loose.Reachable ∧ ∃ d, loose.host.rebuild.workspace.at? "file:///loose/d.cm" = some d ∧
      d.isDerived ⟨1⟩ = false ∧ d.kind? ⟨1⟩ = some .logicalEntity ∧
      d.localId? ⟨1⟩ = some (loose.host.rebuild.freshId .logicalEntity "E"
        (.forDocument "file:///loose/d.cm")) := by
  obtain ⟨d, hd⟩ := Option.isSome_iff_exists.1
    (show (loose.host.rebuild.workspace.at? "file:///loose/d.cm").isSome by decide +kernel)
  have hnode : (loose.host.rebuild.workspace.at? "file:///loose/d.cm").map (fun d =>
      (d.isDerived ⟨1⟩, d.kind? ⟨1⟩, d.localId? ⟨1⟩)) =
        some (false, some .logicalEntity, some "E") := by
    decide +kernel
  have hfresh : loose.host.rebuild.freshId .logicalEntity "E"
      (.forDocument "file:///loose/d.cm") = "E" := by
    decide +kernel
  rw [hd, Option.map_some, Option.some.injEq, Prod.mk.injEq, Prod.mk.injEq] at hnode
  rw [hfresh]
  exact ⟨reachable_loose, d, hd, hnode⟩

end Session

end ModelBinding
