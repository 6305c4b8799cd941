import ModelBinding.Proofs.Dependencies

/-!
# Visibility as reachability

Counted dependencies are the edges of a graph on the identifiers of data models, in which
there may be cycles, loops and edges that lead nowhere. What a data model sees is itself
and what the graph leads to, in one step or in any number of steps as the mode has it
(`isVisible_iff_reaches`). So seeing only asks for more edges: a graph with more of them
shows at least as much (`isVisible_mono`).

A blank requirement is the requirement without conditions, and that one is met by releases
only. A dependency with a blank requirement therefore leads to a release, and adds nothing
to what is visible if its target is a pre-release (`isVisible_blank_iff`).
-/

namespace ModelBinding.Registry

variable {r r' : Registry} {forReference : Bool} {a b c : DataModelId}

/-- The data model `a` is registered and declares a dependency on `b`; to count for references,
`b` must be registered as well, in a version that the requirement of the dependency admits. -/
def DependsOn (r : Registry) (forReference : Bool) (a b : DataModelId) : Prop :=
  ∃ m dep, r.get? a = some m ∧ dep ∈ m.dependencies ∧ dep.target = b ∧
    (forReference = true → ∃ t, r.get? b = some t ∧ dep.requirement.admits t.version = true)

/-- A chain of counted dependencies leads from `a` to `b`, of the length that the mode allows. -/
def Reaches (r : Registry) (forReference : Bool) (a b : DataModelId) : Prop :=
  match r.mode with
  | .direct => r.DependsOn forReference a b
  | .transitive => Relation.TransGen (r.DependsOn forReference) a b

/-- A dependency counts in any case, and for references if its target meets the requirement. -/
theorem counts_iff {dep : Dependency} :
    r.counts forReference dep = true ↔
      (forReference = true →
        ∃ t, r.get? dep.target = some t ∧ dep.requirement.admits t.version = true) := by
  cases forReference with
  | false => simp [counts]
  | true => simp [counts, Option.any_eq_true]

/-- The targets are what a counted dependency leads to. -/
theorem mem_targets_iff_dependsOn :
    b ∈ r.targets forReference a ↔ r.DependsOn forReference a b := by
  unfold targets DependsOn
  cases r.get? a with
  | none => simp
  | some m =>
    simp only [List.mem_map, List.mem_filter, counts_iff, Option.some.injEq]
    constructor
    · rintro ⟨dep, ⟨hdep, hcounts⟩, rfl⟩
      exact ⟨m, dep, rfl, hdep, rfl, hcounts⟩
    · rintro ⟨_, dep, rfl, hdep, rfl, hcounts⟩
      exact ⟨dep, ⟨hdep, hcounts⟩, rfl⟩

/-- What counts for references counts in any case. -/
theorem DependsOn.advisory (h : r.DependsOn true a b) : r.DependsOn false a b := by
  obtain ⟨m, dep, hm, hdep, htarget, -⟩ := h
  exact ⟨m, dep, hm, hdep, htarget, fun hfalse => Bool.noConfusion hfalse⟩

/-- A data model sees itself and what a chain of counted dependencies leads to. -/
theorem isVisible_iff :
    r.isVisible a b forReference = true ↔ a = b ∨ r.Reaches forReference a b := by
  unfold isVisible Reaches
  rw [Bool.or_eq_true_iff, decide_eq_true_iff]
  refine or_congr_right ?_
  cases r.mode with
  | direct => exact List.contains_iff_mem.trans mem_targets_iff_dependsOn
  | transitive =>
    have hstep : (fun a b => b ∈ r.targets forReference a) = r.DependsOn forReference :=
      funext fun a => funext fun b => propext mem_targets_iff_dependsOn
    exact leadsTo_iff_transGen.trans (by rw [hstep])

/-- A single dependency is a chain in either mode. -/
theorem DependsOn.reaches (h : r.DependsOn forReference a b) : r.Reaches forReference a b := by
  unfold Reaches
  cases r.mode with
  | direct => exact h
  | transitive => exact .single h

/-- A chain has a first dependency. -/
theorem Reaches.exists_dependsOn (h : r.Reaches forReference a b) :
    ∃ c, r.DependsOn forReference a c := by
  unfold Reaches at h
  revert h
  cases r.mode with
  | direct => exact fun h => ⟨b, h⟩
  | transitive =>
    intro h
    obtain ⟨c, hac, -⟩ := Relation.TransGen.head'_iff.1 h
    exact ⟨c, hac⟩

/-- A graph with more edges shows at least as much. -/
theorem isVisible_mono {forReference' : Bool} (hmode : r'.mode = r.mode)
    (h : ∀ a b, r.DependsOn forReference a b → r'.DependsOn forReference' a b)
    (hvisible : r.isVisible a b forReference = true) :
    r'.isVisible a b forReference' = true := by
  rw [isVisible_iff] at hvisible ⊢
  refine hvisible.imp_right fun hreaches => ?_
  unfold Reaches at hreaches ⊢
  rw [hmode]
  revert hreaches
  cases r.mode with
  | direct => exact h a b
  | transitive => exact Relation.TransGen.mono h a b

/-- With chains of any length, what is seen by what is seen is seen. -/
theorem isVisible_trans (hmode : r.mode = .transitive) (hab : r.isVisible a b forReference = true)
    (hbc : r.isVisible b c forReference = true) : r.isVisible a c forReference = true := by
  simp only [isVisible_iff, Reaches, hmode] at hab hbc ⊢
  rcases hab with rfl | hab
  · exact hbc
  · rcases hbc with rfl | hbc
    · exact Or.inr hab
    · exact Or.inr (hab.trans hbc)

/-- Visibility is reachability along counted dependencies: with exactly one of them in the one mode
and with any number in the other. Hence what is visible for references is visible in any case, one
dependency more hides nothing from anyone, and with chains of any length the relation is
transitive. -/
theorem isVisible_iff_reaches (r : Registry) :
    (∀ source target forReference, r.isVisible source target forReference = true ↔
      source = target ∨ r.Reaches forReference source target) ∧
    (∀ source target, r.isVisible source target true = true →
      r.isVisible source target false = true) ∧
    (∀ m front dep back r', r.get? m.id = some m → m.dependencies = front ++ back →
      r.update { m with dependencies := front ++ dep :: back } = .ok r' →
      ∀ source target forReference, r.isVisible source target forReference = true →
        r'.isVisible source target forReference = true) ∧
    (r.mode = .transitive → ∀ a b c forReference, r.isVisible a b forReference = true →
      r.isVisible b c forReference = true → r.isVisible a c forReference = true) := by
  refine ⟨fun _ _ _ => isVisible_iff, fun _ _ => isVisible_mono rfl fun _ _ h => h.advisory, ?_,
    fun hmode _ _ _ _ => isVisible_trans hmode⟩
  intro m front dep back r' hm hdeps hr source target forReference
  exact isVisible_of_update hm hdeps hr

/-- The last of the data models of a ring. -/
def ringCore (dependencies : List Dependency) : DataModel :=
  { id := ⟨"core"⟩, referenceName := "core", root := "file:///core", dependencies }

/-- Three data models in a ring, the last of which has the given dependencies. The first depends on
itself as well, and the second on a data model that is not registered. -/
def ring (dependencies : List Dependency) : Registry where
  mode := .transitive
  models :=
    [{ id := ⟨"app"⟩, referenceName := "app", root := "file:///app"
       dependencies := [⟨⟨"app"⟩, .any⟩, ⟨⟨"lib"⟩, .any⟩] },
     { id := ⟨"lib"⟩, referenceName := "lib", root := "file:///lib"
       dependencies := [⟨⟨"gone"⟩, .any⟩, ⟨⟨"core"⟩, .any⟩] },
     ringCore dependencies]

/-- Around the ring everything sees everything, also through a chain that needs more than one step
and also with a dependency more, but nothing refers to what is not registered. -/
theorem isVisible_iff_reaches_ring :
    let r := ring [⟨⟨"app"⟩, .any⟩]
    let r' := ring [⟨⟨"gone"⟩, .any⟩, ⟨⟨"app"⟩, .any⟩]
    r.isVisible ⟨"app"⟩ ⟨"core"⟩ true = true ∧ r.isVisible ⟨"app"⟩ ⟨"core"⟩ false = true ∧
      r.isVisible ⟨"core"⟩ ⟨"core"⟩ true = true ∧ r.isVisible ⟨"lib"⟩ ⟨"gone"⟩ false = true ∧
      r.isVisible ⟨"lib"⟩ ⟨"gone"⟩ true = false ∧ r'.isVisible ⟨"app"⟩ ⟨"core"⟩ true = true := by
  intro r r'
  obtain ⟨hiff, hadvisory, hmore, htrans⟩ := isVisible_iff_reaches r
  have happ : r.DependsOn true ⟨"app"⟩ ⟨"lib"⟩ :=
    ⟨_, ⟨⟨"lib"⟩, .any⟩, rfl, by decide, rfl, fun _ => ⟨_, rfl, rfl⟩⟩
  have hlib : r.DependsOn true ⟨"lib"⟩ ⟨"core"⟩ :=
    ⟨_, ⟨⟨"core"⟩, .any⟩, rfl, by decide, rfl, fun _ => ⟨_, rfl, rfl⟩⟩
  have hcore : r.DependsOn true ⟨"core"⟩ ⟨"app"⟩ :=
    ⟨_, ⟨⟨"app"⟩, .any⟩, rfl, by decide, rfl, fun _ => ⟨_, rfl, rfl⟩⟩
  have hgone : r.DependsOn false ⟨"lib"⟩ ⟨"gone"⟩ :=
    ⟨_, ⟨⟨"gone"⟩, .any⟩, rfl, by decide, rfl, fun hfalse => Bool.noConfusion hfalse⟩
  have hsees : r.isVisible ⟨"app"⟩ ⟨"core"⟩ true = true :=
    (hiff ..).2 (Or.inr (.tail (.single happ) hlib))
  have hback : r.isVisible ⟨"core"⟩ ⟨"app"⟩ true = true := (hiff ..).2 (Or.inr (.single hcore))
  refine ⟨hsees, hadvisory _ _ hsees, htrans rfl _ _ _ _ hback hsees,
    (hiff ..).2 (Or.inr (.single hgone)), Bool.eq_false_iff.2 fun hvisible => ?_,
    hmore (ringCore [⟨⟨"app"⟩, .any⟩]) [] ⟨⟨"gone"⟩, .any⟩ _ r' rfl rfl rfl _ _ _ hsees⟩
  rcases (hiff ..).1 hvisible with heq | hreaches
  · exact absurd heq (by decide)
  · -- The last step of a chain would need the target to be registered.
    obtain ⟨_, -, _, _, -, -, -, hregistered⟩ := Relation.TransGen.tail'_iff.1 hreaches
    obtain ⟨t, ht, -⟩ := hregistered rfl
    cases ht

section Blank

variable {m found : DataModel} {front back : List Dependency} {dep : Dependency} {text : String}
  {r₀ : Registry}

/-- Blank text states the requirement without conditions. -/
theorem requirement_of_isBlank {requirement : Version.Requirement}
    (hblank : Text.isBlank text = true)
    (h : Version.Requirement.ofText text = .ok requirement) : requirement = .any := by
  rw [Version.Requirement.ofText, if_pos hblank] at h
  exact (Except.ok.inj h).symm

/-- The edges are those that there are without a dependency, and the one that it makes if it
counts. -/
theorem dependsOn_iff_of_update (hm : r.get? m.id = some m)
    (hdeps : m.dependencies = front ++ dep :: back)
    (hr : r.update { m with dependencies := front ++ back } = .ok r₀) :
    r.DependsOn forReference a b ↔ r₀.DependsOn forReference a b ∨
      (a = m.id ∧ b = dep.target ∧ r.counts forReference dep = true) := by
  rw [← mem_targets_iff_dependsOn, ← mem_targets_iff_dependsOn, targets_of_update hm hr]
  split
  · rename_i ha
    have htargets : r.targets forReference m.id =
        ((front ++ dep :: back).filter (r.counts forReference)).map (·.target) := by
      rw [targets, hm, ← hdeps]
    rw [ha, htargets]
    simp only [List.mem_map, List.mem_filter, List.mem_append, List.mem_cons]
    constructor
    · rintro ⟨other, ⟨hfront | rfl | hback, hcounts⟩, rfl⟩
      · exact Or.inl ⟨other, ⟨Or.inl hfront, hcounts⟩, rfl⟩
      · exact Or.inr ⟨trivial, rfl, hcounts⟩
      · exact Or.inl ⟨other, ⟨Or.inr hback, hcounts⟩, rfl⟩
    · rintro (⟨other, ⟨hmem, hcounts⟩, rfl⟩ | ⟨-, rfl, hcounts⟩)
      · exact ⟨other, ⟨hmem.imp_right Or.inr, hcounts⟩, rfl⟩
      · exact ⟨dep, ⟨Or.inr (Or.inl rfl), hcounts⟩, rfl⟩
  · rename_i ha
    simp [ha]

/-- A dependency with a blank requirement leads to its target if that is a release. If it is a
pre-release, the target is visible only if it would be without the dependency. -/
theorem isVisible_blank_iff (hm : r.get? m.id = some m)
    (hdeps : m.dependencies = front ++ dep :: back) (hblank : Text.isBlank text = true)
    (hrequirement : Version.Requirement.ofText text = .ok dep.requirement)
    (hfound : r.get? dep.target = some found)
    (hr : r.update { m with dependencies := front ++ back } = .ok r₀) :
    r.isVisible m.id dep.target true = true ↔
      found.version.preRelease = [] ∨ r₀.isVisible m.id dep.target true = true := by
  have hcounts : r.counts true dep = true ↔ found.version.preRelease = [] := by
    rw [counts, hfound, requirement_of_isBlank hblank hrequirement]
    exact Version.Requirement.admits_any_iff found.version
  have hmode : r₀.mode = r.mode := by
    obtain ⟨-, rfl⟩ := of_update hr
    rfl
  constructor
  · intro hvisible
    rw [or_iff_not_imp_left]
    intro hpre
    refine isVisible_mono hmode (fun x y hxy => ?_) hvisible
    refine ((dependsOn_iff_of_update hm hdeps hr).1 hxy).resolve_right ?_
    rintro ⟨-, -, hdep⟩
    exact hpre (hcounts.1 hdep)
  · rintro (hrelease | hvisible)
    · have hedge : r.DependsOn true m.id dep.target :=
        (dependsOn_iff_of_update hm hdeps hr).2 (Or.inr ⟨rfl, rfl, hcounts.2 hrelease⟩)
      exact isVisible_iff.2 (Or.inr hedge.reaches)
    · refine isVisible_mono hmode.symm (fun x y hxy => ?_) hvisible
      exact (dependsOn_iff_of_update hm hdeps hr).2 (Or.inl hxy)

/-- An application that depends on a library under a blank requirement, and the library in the
version that a text states. -/
def libraryAt (mode : Visibility) (version : String) : Except RegistryError Registry := do
  let lib ← DataModel.withVersion
    { id := ⟨"lib"⟩, referenceName := "lib", root := "file:///lib" } version
  let app ← DataModel.withDependency
    { id := ⟨"app"⟩, referenceName := "app", root := "file:///app" } ⟨"lib"⟩ ""
  let r ← register { mode } lib
  r.register app

/-- The application, with its dependencies as they are read. -/
def libraryApp (dependencies : List Dependency) : DataModel :=
  { id := ⟨"app"⟩, referenceName := "app", root := "file:///app", dependencies }

/-- The library and the application, with the version and the dependencies as they are read. -/
def library (mode : Visibility) (version : Version) (dependencies : List Dependency) :
    Registry where
  mode
  models :=
    [{ id := ⟨"lib"⟩, referenceName := "lib", version, root := "file:///lib" },
     libraryApp dependencies]

/-- The only dependency counts for references if the library is a release. -/
theorem dependsOn_library {mode : Visibility} {version : Version}
    (h : (library mode version [⟨⟨"lib"⟩, .any⟩]).DependsOn true ⟨"app"⟩ b) :
    version.preRelease = [] := by
  obtain ⟨m, dep, hm, hdep, rfl, hadmits⟩ := h
  cases hm
  obtain rfl := List.mem_singleton.1 hdep
  obtain ⟨t, ht, hadmits⟩ := hadmits rfl
  cases ht
  exact (Version.Requirement.admits_any_iff version).1 hadmits

/-- A pre-release that is registered, and that is depended on under a blank requirement, is not
visible for references in either mode. -/
theorem not_isVisible_preRelease :
    ∃ r r', libraryAt .direct "1.0.0-alpha" = .ok r ∧
      libraryAt .transitive "1.0.0-alpha" = .ok r' ∧
      r.isVisible ⟨"app"⟩ ⟨"lib"⟩ true = false ∧ r'.isVisible ⟨"app"⟩ ⟨"lib"⟩ true = false := by
  have hhidden : ∀ mode version, version.preRelease ≠ [] →
      (library mode version [⟨⟨"lib"⟩, .any⟩]).isVisible ⟨"app"⟩ ⟨"lib"⟩ true = false := by
    intro mode version hpre
    refine Bool.eq_false_iff.2 fun hvisible => ?_
    rcases isVisible_iff.1 hvisible with heq | hreaches
    · exact absurd heq (by decide)
    · obtain ⟨b, hedge⟩ := hreaches.exists_dependsOn
      exact hpre (dependsOn_library hedge)
  exact ⟨_, _, rfl, rfl, hhidden .direct ⟨1, 0, 0, [.text "alpha"], []⟩ (by simp),
    hhidden .transitive ⟨1, 0, 0, [.text "alpha"], []⟩ (by simp)⟩

/-- A release is visible under a blank requirement in either mode, build metadata or not. -/
theorem isVisible_blank_iff_release :
    ∃ r r', libraryAt .direct "1.2.3+build" = .ok r ∧ libraryAt .transitive "1.2.3+build" = .ok r' ∧
      r.isVisible ⟨"app"⟩ ⟨"lib"⟩ true = true ∧ r'.isVisible ⟨"app"⟩ ⟨"lib"⟩ true = true := by
  have hvisible : ∀ mode version, version.preRelease = [] →
      (library mode version [⟨⟨"lib"⟩, .any⟩]).isVisible ⟨"app"⟩ ⟨"lib"⟩ true = true := by
    intro mode version hrelease
    have hm : (library mode version [⟨⟨"lib"⟩, .any⟩]).get? (libraryApp [⟨⟨"lib"⟩, .any⟩]).id =
        some (libraryApp [⟨⟨"lib"⟩, .any⟩]) := rfl
    have hdeps : (libraryApp [⟨⟨"lib"⟩, .any⟩]).dependencies = [] ++ ⟨⟨"lib"⟩, .any⟩ :: [] := rfl
    have hr : (library mode version [⟨⟨"lib"⟩, .any⟩]).update
        { libraryApp [⟨⟨"lib"⟩, .any⟩] with dependencies := [] ++ [] } =
          .ok (library mode version []) := rfl
    exact (isVisible_blank_iff hm hdeps Text.isBlank_empty rfl rfl hr).2 (Or.inl hrelease)
  exact ⟨_, _, rfl, rfl, hvisible .direct ⟨1, 2, 3, [], ["build"]⟩ rfl,
    hvisible .transitive ⟨1, 2, 3, [], ["build"]⟩ rfl⟩

end Blank

end ModelBinding.Registry
