import Mathlib.Data.List.Forall2
import Mathlib.Data.List.Nodup
import Mathlib.Data.List.Pairwise
import Mathlib.Data.List.Perm.Subperm
import Mathlib.Order.Monotone.Basic
import Mathlib.Order.Nat

/-!
# Lists

What the developments about documents need to know of lists: where something is gathered
from the elements of a list, which elements it comes from, lists that are related element
by element, and lists with further elements in between (`Padded`).
-/

namespace ModelBinding

/-- What is gathered from the elements with a property. -/
theorem flatMap_ite_nil {α β : Type} (p : α → Bool) (f : α → List β) (l : List α) :
    (l.flatMap fun x => if p x then f x else []) = (l.filter p).flatMap f := by
  induction l with
  | nil => rfl
  | cons x l ih => cases hp : p x <;> simp [hp, ih]

/-- Where a function is empty on all elements of a list but one, it is gathered from that one. -/
theorem flatMap_eq_of_unique {α β κ : Type} {l : List α} (key : α → κ) (hl : (l.map key).Nodup)
    {g : α → List β} {x : α} (hx : x ∈ l) (hg : ∀ y ∈ l, key y ≠ key x → g y = []) :
    l.flatMap g = g x := by
  obtain ⟨front, back, rfl⟩ := List.append_of_mem hx
  rw [List.map_append, List.map_cons, List.nodup_append, List.nodup_cons] at hl
  obtain ⟨-, ⟨hback, -⟩, hfront⟩ := hl
  have hnil : ∀ l' : List α, (∀ y ∈ l', y ∈ front ++ x :: back) → (∀ y ∈ l', key y ≠ key x) →
      l'.flatMap g = [] := fun l' hmem hne =>
    List.flatMap_eq_nil_iff.2 fun y hy => hg y (hmem y hy) (hne y hy)
  have hfront' : front.flatMap g = [] :=
    hnil front (fun y hy => List.mem_append_left _ hy) fun y hy =>
      hfront _ (List.mem_map_of_mem hy) _ (List.mem_cons_self ..)
  have hback' : back.flatMap g = [] :=
    hnil back (fun y hy => List.mem_append_right _ (List.mem_cons_of_mem _ hy)) fun y hy heq =>
      hback (heq ▸ List.mem_map_of_mem hy)
  rw [List.flatMap_append, List.flatMap_cons, hfront', hback', List.nil_append, List.append_nil]

/-- What two lists show element by element of a third one they show of each other. -/
theorem forall₂_comp {α β γ : Type} {R : α → β → Prop} {S : β → γ → Prop} {T : α → γ → Prop}
    (h : ∀ a b c, R a b → S b c → T a c) {as : List α} {bs : List β} {cs : List γ}
    (hR : List.Forall₂ R as bs) (hS : List.Forall₂ S bs cs) : List.Forall₂ T as cs := by
  induction hR generalizing cs with
  | nil =>
    cases hS
    exact List.Forall₂.nil
  | cons hab _ ih =>
    cases hS with
    | cons hbc hS => exact List.Forall₂.cons (h _ _ _ hab hbc) (ih hS)

/-- Where the results of a function are distinct, an element is known by its result. -/
theorem eq_of_nodup_filterMap {α β : Type} {f : α → Option β} {l : List α}
    (hl : (l.filterMap f).Nodup) {x y : α} (hx : x ∈ l) (hy : y ∈ l) {b : β} (hfx : f x = some b)
    (hfy : f y = some b) : x = y := by
  by_contra hne
  have hpairs := List.pairwise_filterMap.1 hl
  have hsymm : Std.Symm fun a a' => ∀ b, f a = some b → ∀ b', f a' = some b' → b ≠ b' :=
    ⟨fun a a' hapart b hb b' hb' => (hapart b' hb' b hb).symm⟩
  exact hpairs.forall hx hy hne b hfx b hfy rfl

/-- What is left without repetitions has none. -/
theorem nodup_eraseDups {α : Type} [DecidableEq α] (l : List α) : l.eraseDups.Nodup := by
  induction hk : l.length using Nat.strongRecOn generalizing l with
  | ind k ih =>
    cases l with
    | nil => exact List.nodup_nil
    | cons x l =>
      rw [List.eraseDups_cons, List.nodup_cons]
      refine ⟨fun hx => ?_, ih _ ?_ _ rfl⟩
      · simpa using List.mem_eraseDups.1 hx
      · have hle := List.length_filter_le (fun y => !y == x) l
        rw [List.length_cons] at hk
        omega

/-- A list has no repetitions if no two of its elements agree in some respect. -/
theorem nodup_of_length_filter_le_one {α β : Type} [DecidableEq α] [DecidableEq β] {f : α → β}
    {l : List α} (h : ∀ x ∈ l, (l.filter (f · = f x)).length ≤ 1) : l.Nodup := by
  rw [List.nodup_iff_count_le_one]
  intro x
  by_cases hx : x ∈ l
  · refine Nat.le_trans ?_ (h x hx)
    rw [List.count, ← List.countP_eq_length_filter]
    refine List.countP_mono_left fun y _ hy => ?_
    rw [beq_iff_eq] at hy
    simp [hy]
  · simp [List.count_eq_zero.2 hx]

/-- What is gathered from each element may be gathered in part. -/
theorem flatMap_sublist_flatMap {α β : Type} {f g : α → List β} {l : List α}
    (h : ∀ x ∈ l, (f x).Sublist (g x)) : (l.flatMap f).Sublist (l.flatMap g) := by
  induction l with
  | nil => exact List.Sublist.refl []
  | cons x l ih =>
    rw [List.flatMap_cons, List.flatMap_cons]
    exact (h x (List.mem_cons_self ..)).append (ih fun y hy => h y (List.mem_cons_of_mem x hy))

/-- A part of a list without repetitions is what the list keeps if just its elements are kept. -/
theorem filter_eq_of_sublist {α : Type} {l whole : List α} (h : l.Sublist whole)
    (hwhole : whole.Nodup) {p : α → Bool} (hp : ∀ x ∈ whole, p x = true ↔ x ∈ l) :
    whole.filter p = l := by
  have hself : l.filter p = l := List.filter_eq_self.2 fun x hx => (hp x (h.subset hx)).2 hx
  have hkept : l.Sublist (whole.filter p) := hself ▸ h.filter p
  have hfew : (whole.filter p).length ≤ l.length :=
    ((hwhole.filter p).subperm fun x hx =>
      (hp x (List.mem_of_mem_filter hx)).1 (List.of_mem_filter hx)).length_le
  exact (hkept.eq_of_length_le hfew).symm

/-- Elements kept by a property and the results of a function that has one exactly for these
correspond to each other, in order. -/
theorem forall₂_filter_filterMap {α β : Type} {R : α → β → Prop} {keep : α → Bool}
    {f : α → Option β} {l : List α} (hnone : ∀ x ∈ l, keep x = false → f x = none)
    (hsome : ∀ x ∈ l, keep x = true → ∃ y, f x = some y ∧ R x y) :
    List.Forall₂ R (l.filter keep) (l.filterMap f) := by
  induction l with
  | nil => exact List.Forall₂.nil
  | cons x l ih =>
    have ih' := ih (fun y hy => hnone y (List.mem_cons_of_mem x hy))
      fun y hy => hsome y (List.mem_cons_of_mem x hy)
    cases hkeep : keep x with
    | false =>
      rw [List.filter_cons_of_neg (by simp [hkeep]),
        List.filterMap_cons_none (hnone x (List.mem_cons_self ..) hkeep)]
      exact ih'
    | true =>
      obtain ⟨y, hy, hxy⟩ := hsome x (List.mem_cons_self ..) hkeep
      rw [List.filter_cons_of_pos hkeep, List.filterMap_cons_some hy]
      exact List.Forall₂.cons hxy ih'

/-- The first element with a property is the first with a stronger one, if it has that too. -/
theorem find?_eq_some_of_imp {α : Type} {p p' : α → Bool} {l : List α} {x : α}
    (hx : l.find? p = some x) (hp' : p' x = true) (h : ∀ y ∈ l, p' y = true → p y = true) :
    l.find? p' = some x := by
  obtain ⟨-, front, back, rfl, hfront⟩ := List.find?_eq_some_iff_append.1 hx
  refine List.find?_eq_some_iff_append.2 ⟨hp', front, back, rfl, fun y hy => ?_⟩
  cases hy' : p' y with
  | false => rfl
  | true =>
    have hnot := hfront y hy
    rw [h y (List.mem_append_left _ hy) hy'] at hnot
    cases hnot

/-- If more is kept of a list, what was found in it is found still, or something that was not kept
and stands before it. -/
theorem find?_filter_of_imp {α : Type} {keep keep' p : α → Bool}
    (h : ∀ x, keep x = true → keep' x = true) {l : List α} {x : α}
    (hx : (l.filter keep).find? p = some x) :
    (l.filter keep').find? p = some x ∨
      ∃ y, (l.filter keep').find? p = some y ∧ keep y = false ∧ [y, x].Sublist l := by
  simp only [List.find?_filter] at hx ⊢
  obtain ⟨hfound, front, back, rfl, hfront⟩ := List.find?_eq_some_iff_append.1 hx
  obtain ⟨hkeep, hp⟩ : keep x = true ∧ p x = true := by simpa using hfound
  rw [List.find?_append]
  cases hy : front.find? fun a => decide (keep' a = true ∧ p a = true) with
  | none =>
    left
    rw [Option.none_or, List.find?_cons_of_pos (by simp [h x hkeep, hp])]
  | some y =>
    have hmem := List.mem_of_find?_eq_some hy
    have hfirst : keep' y = true ∧ p y = true := by simpa using List.find?_some hy
    have hskipped : keep y = false := by simpa [hfirst.2] using hfront y hmem
    exact Or.inr ⟨y, rfl, hskipped,
      (List.singleton_sublist.2 hmem).append (List.singleton_sublist.2 (List.mem_cons_self ..))⟩

/-- The second list is the first one with further elements in between, each with a property. -/
inductive Padded {α : Type} (extra : α → Prop) : List α → List α → Prop
  /-- There is nothing. -/
  | nil : Padded extra [] []
  /-- Both start with the same element. -/
  | keep (x : α) {l l' : List α} (h : Padded extra l l') : Padded extra (x :: l) (x :: l')
  /-- The second one starts with a further element. -/
  | insert {x : α} (hx : extra x) {l l' : List α} (h : Padded extra l l') :
    Padded extra l (x :: l')

namespace Padded

variable {α β : Type} {extra : α → Prop} {l l' : List α}

/-- Nothing need be added. -/
theorem refl (extra : α → Prop) (l : List α) : Padded extra l l := by
  induction l with
  | nil => exact nil
  | cons x l ih => exact ih.keep x

/-- Further elements alone. -/
theorem of_forall (h : ∀ x ∈ l, extra x) : Padded extra [] l := by
  induction l with
  | nil => exact nil
  | cons x l ih =>
    exact (ih fun y hy => h y (List.mem_cons_of_mem x hy)).insert (h x (List.mem_cons_self ..))

/-- Lists are padded part by part. -/
theorem append {m m' : List α} (h : Padded extra l l') (hm : Padded extra m m') :
    Padded extra (l ++ m) (l' ++ m') := by
  induction h with
  | nil => exact hm
  | keep x _ ih => exact ih.keep x
  | insert hx _ ih => exact ih.insert hx

/-- What is kept of a list, padded with what is not. -/
theorem filter (keep : α → Bool) (l : List α) :
    Padded (fun x => keep x = false) (l.filter keep) l := by
  induction l with
  | nil => exact nil
  | cons x l ih =>
    cases hx : keep x with
    | false =>
      rw [List.filter_cons_of_neg (by simp [hx])]
      exact .insert (by exact hx) ih
    | true =>
      rw [List.filter_cons_of_pos hx]
      exact ih.keep x

/-- What is gathered is padded where it is gathered from padded lists, or from further elements. -/
theorem flatMap {extra' : β → Prop} {g g' : α → List β} (h : Padded extra l l')
    (hkeep : ∀ x ∈ l, Padded extra' (g x) (g' x)) (hextra : ∀ x, extra x → ∀ y ∈ g' x, extra' y) :
    Padded extra' (l.flatMap g) (l'.flatMap g') := by
  induction h with
  | nil => exact nil
  | keep x _ ih =>
    rw [List.flatMap_cons, List.flatMap_cons]
    exact (hkeep x (List.mem_cons_self ..)).append
      (ih fun y hy => hkeep y (List.mem_cons_of_mem x hy))
  | insert hx _ ih =>
    rw [List.flatMap_cons]
    exact (of_forall (hextra _ hx)).append (ih hkeep)

theorem map {extra' : β → Prop} (f : α → β) (h : Padded extra l l')
    (hextra : ∀ x, extra x → extra' (f x)) : Padded extra' (l.map f) (l'.map f) := by
  induction h with
  | nil => exact nil
  | keep x _ ih => exact ih.keep (f x)
  | insert hx _ ih => exact ih.insert (hextra _ hx)

/-- Where the elements of a list stand in the padded one. -/
structure Places (extra : α → Prop) (l l' : List α) (place : Nat → Nat) : Prop where
  /-- They stand there in order. -/
  strictMono : StrictMono place
  /-- Each is found at its new place. -/
  getElem?_eq : ∀ i, l'[place i]? = l[i]?
  /-- What is gathered from elements and places, and not from further elements, is gathered there. -/
  flatMap_zipIdx : ∀ {β : Type} (g : α → Nat → List β), (∀ x i, extra x → g x i = []) →
    ∀ first, (l'.zipIdx first).flatMap (fun c => g c.1 c.2) =
      l.zipIdx.flatMap fun c => g c.1 (first + place c.2)

/-- The places of elements with a property that no further element has. -/
theorem Places.map_filter_zipIdx {place : Nat → Nat} (h : Places extra l l' place) {p : α → Bool}
    (hp : ∀ x, extra x → p x = false) (first : Nat) :
    ((l'.zipIdx first).filter (p ·.1)).map (·.2) =
      (l.zipIdx.filter (p ·.1)).map fun c => first + place c.2 := by
  have hgather : ∀ {β : Type} (l : List (α × Nat)) (f : α × Nat → β),
      (l.filter (p ·.1)).map f = l.flatMap fun c => if p c.1 then [f c] else [] := by
    intro β l f
    induction l with
    | nil => rfl
    | cons c l ih =>
      rw [List.filter_cons, List.flatMap_cons, ← ih]
      split <;> rfl
  rw [hgather, hgather]
  exact h.flatMap_zipIdx (fun x i => if p x then [i] else []) (fun x i hx => by simp [hp x hx]) first

/-- The elements of a list have places in the padded one. -/
theorem exists_places (h : Padded extra l l') : ∃ place, Places extra l l' place := by
  induction h with
  | nil => exact ⟨id, strictMono_id, fun _ => rfl, fun _ _ _ => rfl⟩
  | @keep x l l' _ ih =>
    obtain ⟨place, hmono, hget, hgather⟩ := ih
    refine ⟨fun i => i.casesOn 0 fun i => place i + 1, ?_, ?_, ?_⟩
    · refine strictMono_nat_of_lt_succ fun i => ?_
      cases i with
      | zero => exact Nat.succ_pos _
      | succ i => exact Nat.succ_lt_succ (hmono (Nat.lt_succ_self i))
    · intro i
      cases i with
      | zero => rfl
      | succ i => exact hget i
    · intro β g hg first
      rw [List.zipIdx_cons, List.flatMap_cons, hgather g hg, List.zipIdx_cons', List.flatMap_cons,
        List.flatMap_map]
      refine congrArg (g x first ++ ·) (List.flatMap_congr fun c _ => ?_)
      exact congrArg (g c.1) (by show _ = first + (place c.2 + 1); omega)
  | @insert x hx l l' _ ih =>
    obtain ⟨place, hmono, hget, hgather⟩ := ih
    refine ⟨fun i => place i + 1, fun i j hij => Nat.succ_lt_succ (hmono hij), hget,
      fun g hg first => ?_⟩
    rw [List.zipIdx_cons, List.flatMap_cons, hg _ _ hx, List.nil_append, hgather g hg]
    exact List.flatMap_congr fun c _ => congrArg (g c.1) (by show _ = first + (place c.2 + 1); omega)

end Padded

end ModelBinding
