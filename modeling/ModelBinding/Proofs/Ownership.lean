import Mathlib.Data.List.Induction
import Mathlib.Data.List.TakeWhile
import Mathlib.Data.Set.Basic
import ModelBinding.Proofs.Dependencies
import ModelBinding.Site

/-!
# The owner of a file

A file belongs to the data model with the longest root that covers it. All roots that
cover one file begin its address, so two of one length are the same root; hence which
of the data models owns a file depends only on what is registered, not on the calls
that led there (`owner?_ofCalls`).

The address of an unsaved document is made from a directory without its slashes at the
end. It belongs to the owner of the directory unless that owner ends in the slashes
that were left out, or another data model has a longer root that covers the address
(`owner?_unsavedUri_iff`).
-/

namespace ModelBinding

namespace DataModel

/-- A data model covers an address if its root is the address, or if the address goes on behind
the root and a slash ends the root or follows it. -/
def Covers (m : DataModel) (uri : String) : Prop :=
  m.root = uri ∨ ∃ rest, uri = m.root ++ rest ∧
    (m.root.toList.getLast? = some '/' ∨ rest.toList.head? = some '/')

variable {m other : DataModel} {uri : String}

/-- Owning is covering. -/
theorem owns_iff : m.owns uri = true ↔ m.Covers uri := by
  rw [owns, isUnder_iff, Covers, String.toList_inj]
  apply or_congr_right
  constructor
  · rintro ⟨rest, huri, hslash⟩
    exact ⟨String.ofList rest, String.toList_inj.1 (by simpa using huri), by simpa using hslash⟩
  · rintro ⟨rest, rfl, hslash⟩
    exact ⟨rest.toList, String.toList_append, hslash⟩

/-- A root that covers an address begins it. -/
theorem Covers.prefix_toList (h : m.Covers uri) : m.root.toList <+: uri.toList := by
  rcases h with rfl | ⟨rest, rfl, -⟩
  · exact List.prefix_rfl
  · rw [String.toList_append]
    exact List.prefix_append ..

/-- Of two roots that cover one address, the one that is not longer begins the other. -/
theorem Covers.prefix_of_length_le (h : m.Covers uri) (hother : other.Covers uri)
    (hle : other.root.length ≤ m.root.length) : other.root.toList <+: m.root.toList :=
  List.prefix_of_prefix_length_le hother.prefix_toList h.prefix_toList (by simpa [String.length_toList] using hle)

/-- A root that covers an address is no longer than it. -/
theorem Covers.length_le (h : m.Covers uri) : m.root.length ≤ uri.length := by
  rw [← String.length_toList, ← String.length_toList]
  exact h.prefix_toList.length_le

/-- Two roots of one length that cover one address are the same. -/
theorem Covers.root_eq (h : m.Covers uri) (hother : other.Covers uri)
    (heq : other.root.length = m.root.length) : other.root = m.root :=
  String.toList_inj.1 <|
    (h.prefix_of_length_le hother (Nat.le_of_eq heq)).eq_of_length (by simpa [String.length_toList] using heq)

/-- Of some data models the one whose root is the longest that covers an address. -/
structure Deepest (models : Set DataModel) (uri : String) (m : DataModel) : Prop where
  /-- It is one of them. -/
  mem : m ∈ models
  /-- It covers the address. -/
  covers : m.Covers uri
  /-- No other root that does is longer. -/
  longest : ∀ other ∈ models, other.Covers uri → other.root.length ≤ m.root.length

/-- Data models with different roots have at most one whose root is the longest. -/
theorem Deepest.unique {models : Set DataModel}
    (hroots : ∀ m ∈ models, ∀ other ∈ models, m.root = other.root → m = other)
    (h : Deepest models uri m) (hother : Deepest models uri other) : other = m := by
  have heq : other.root.length = m.root.length := by
    apply Nat.le_antisymm
    · exact h.longest other hother.mem hother.covers
    · exact hother.longest m h.mem h.covers
  exact hroots other hother.mem m h.mem (h.covers.root_eq hother.covers heq)

end DataModel

namespace ImaginedChain

/-- A directory without the slashes at its end. -/
def bare (directory : String) : String :=
  String.ofList (directory.toList.reverse.dropWhile (· = '/')).reverse

/-- The rest of a directory are slashes. -/
theorem exists_toList_eq_bare_append (directory : String) :
    ∃ count, directory.toList = (bare directory).toList ++ List.replicate count '/' := by
  refine ⟨(directory.toList.reverse.takeWhile (· = '/')).length, ?_⟩
  have hslashes : directory.toList.reverse.takeWhile (· = '/') =
      List.replicate (directory.toList.reverse.takeWhile (· = '/')).length '/' :=
    List.eq_replicate_iff.2 ⟨rfl, fun c hc => by simpa using List.mem_takeWhile_imp hc⟩
  rw [bare, String.toList_ofList, ← List.reverse_replicate, ← hslashes, ← List.reverse_append,
    List.takeWhile_append_dropWhile, List.reverse_reverse]

/-- The address of an unsaved document lies in its directory. -/
theorem unsavedUri_eq (directory token : String) :
    unsavedUri directory token = bare directory ++ "/" ++ (token ++ unsavedSuffix) := by
  rw [← String.append_assoc]
  rfl

/-- The address of an unsaved document is longer than its directory with a slash. -/
theorem length_bare_lt (directory token : String) :
    (bare directory).length + 1 < (unsavedUri directory token).length := by
  have hsuffix : unsavedSuffix.length = 13 := by decide
  simp only [unsavedUri_eq, String.length_append, hsuffix]
  have hslash : "/".length = 1 := by decide
  omega

end ImaginedChain

namespace Registry

open DataModel (Deepest)

variable {r : Registry} {uri : String} {m : DataModel}

section Longest

/-- Data models with shorter roots do not change what was found. -/
theorem foldl_deeper_some {models : List DataModel}
    (h : ∀ other ∈ models, other.root.length < m.root.length) :
    models.foldl deeper (some m) = some m := by
  induction models with
  | nil => rfl
  | cons other models ih =>
    obtain ⟨hother, hmodels⟩ := List.forall_mem_cons.1 h
    have hstep : deeper (some m) other = some m := if_neg (Nat.not_le.2 hother)
    rw [List.foldl_cons, hstep, ih hmodels]

/-- Of any data models the search finds one, whose root is at least as long as those before it and
longer than those behind it. -/
theorem exists_foldl_deeper {models : List DataModel} (h : models ≠ []) :
    ∃ before m after, models = before ++ m :: after ∧ models.foldl deeper none = some m ∧
      (∀ other ∈ before, other.root.length ≤ m.root.length) ∧
      ∀ other ∈ after, other.root.length < m.root.length := by
  induction models using List.reverseRecOn with
  | nil => exact absurd rfl h
  | append_singleton models last ih =>
    rw [List.foldl_append, List.foldl_cons, List.foldl_nil]
    by_cases hmodels : models = []
    · subst hmodels
      exact ⟨[], last, [], rfl, rfl, by simp, by simp⟩
    obtain ⟨before, m, after, rfl, hfold, hbefore, hafter⟩ := ih hmodels
    rw [hfold]
    by_cases hle : m.root.length ≤ last.root.length
    · refine ⟨before ++ m :: after, last, [], rfl, if_pos hle, ?_, by simp⟩
      intro other hother
      rcases List.mem_append.1 hother with hother | hother
      · exact Nat.le_trans (hbefore other hother) hle
      rcases List.mem_cons.1 hother with rfl | hother
      · exact hle
      · exact Nat.le_trans (Nat.le_of_lt (hafter other hother)) hle
    · refine ⟨before, m, after ++ [last], by simp, if_neg hle, hbefore, ?_⟩
      intro other hother
      rcases List.mem_append.1 hother with hother | hother
      · exact hafter other hother
      · rw [List.mem_singleton.1 hother]
        omega

/-- The search finds exactly the data model whose root is at least as long as those before it and
longer than those behind it. -/
theorem foldl_deeper_eq_some_iff {models : List DataModel} :
    models.foldl deeper none = some m ↔
      ∃ before after, models = before ++ m :: after ∧
        (∀ other ∈ before, other.root.length ≤ m.root.length) ∧
        ∀ other ∈ after, other.root.length < m.root.length := by
  constructor
  · intro hfold
    have hne : models ≠ [] := by
      rintro rfl
      cases hfold
    obtain ⟨before, found, after, hsplit, hfound, hlengths⟩ := exists_foldl_deeper hne
    obtain rfl : found = m := Option.some.inj (hfound.symm.trans hfold)
    exact ⟨before, after, hsplit, hlengths⟩
  · rintro ⟨before, after, rfl, hbefore, hafter⟩
    have hstep : deeper (before.foldl deeper none) m = some m := by
      by_cases hne : before = []
      · rw [hne]
        rfl
      obtain ⟨_, b, _, hsplit, hfound, -⟩ := exists_foldl_deeper hne
      rw [hfound]
      exact if_pos (hbefore b (by simp [hsplit]))
    rw [List.foldl_append, List.foldl_cons, hstep, foldl_deeper_some hafter]

/-- A file belongs to the data model that covers it with a root at least as long as those before it
that do, and longer than those behind it. -/
theorem ownerModel?_eq_some_iff :
    r.ownerModel? uri = some m ↔
      ∃ before after, r.models = before ++ m :: after ∧ m.Covers uri ∧
        (∀ other ∈ before, other.Covers uri → other.root.length ≤ m.root.length) ∧
        ∀ other ∈ after, other.Covers uri → other.root.length < m.root.length := by
  simp only [ownerModel?, foldl_deeper_eq_some_iff, ← DataModel.owns_iff]
  constructor
  · rintro ⟨before, after, hfilter, hbefore, hafter⟩
    obtain ⟨front, rest, hmodels, rfl, hrest⟩ := List.filter_eq_append_iff.1 hfilter
    obtain ⟨front', after', rfl, hfront', hm, rfl⟩ := List.filter_eq_cons_iff.1 hrest
    refine ⟨front ++ front', after', by simp [hmodels], hm, fun other hother howns => ?_,
      fun other hother howns => hafter other (List.mem_filter.2 ⟨hother, howns⟩)⟩
    rcases List.mem_append.1 hother with hother | hother
    · exact hbefore other (List.mem_filter.2 ⟨hother, howns⟩)
    · exact absurd howns (hfront' other hother)
  · rintro ⟨before, after, hmodels, hm, hbefore, hafter⟩
    refine ⟨before.filter (·.owns uri), after.filter (·.owns uri), ?_, fun other hother => ?_,
      fun other hother => ?_⟩
    · simp [hmodels, hm]
    · obtain ⟨hmem, howns⟩ := List.mem_filter.1 hother
      exact hbefore other hmem howns
    · obtain ⟨hmem, howns⟩ := List.mem_filter.1 hother
      exact hafter other hmem howns

/-- A file belongs to no data model exactly if none covers it. -/
theorem ownerModel?_eq_none_iff :
    r.ownerModel? uri = none ↔ ∀ m ∈ r.models, ¬ m.Covers uri := by
  simp only [← DataModel.owns_iff]
  rw [← List.filter_eq_nil_iff, ownerModel?]
  constructor
  · intro hfold
    by_contra hne
    obtain ⟨_, m, _, _, hfound, -⟩ := exists_foldl_deeper hne
    rw [hfound] at hfold
    cases hfold
  · intro hnil
    rw [hnil]
    rfl

/-- The data model that a file belongs to is the one with the longest root of those that cover
it. -/
theorem deepest_of_ownerModel? (h : r.ownerModel? uri = some m) :
    Deepest {m | m ∈ r.models} uri m := by
  obtain ⟨before, after, hmodels, hcovers, hbefore, hafter⟩ := ownerModel?_eq_some_iff.1 h
  refine ⟨by simp [hmodels], hcovers, fun other hother hother' => ?_⟩
  have hmem : other ∈ r.models := hother
  rw [hmodels, List.mem_append, List.mem_cons] at hmem
  rcases hmem with hother | rfl | hother
  · exact hbefore other hother hother'
  · exact Nat.le_refl _
  · exact Nat.le_of_lt (hafter other hother hother')

end Longest

section Calls

/-- A change of what is registered. -/
inductive Call where
  /-- Add a data model. -/
  | register (m : DataModel)
  /-- Replace a data model. -/
  | update (m : DataModel)
  /-- Forget a data model. -/
  | remove (id : DataModelId)
  deriving DecidableEq

/-- The registry after a call. One that fails changes nothing. -/
def call (r : Registry) : Call → Registry
  | .register m => (r.register m).toOption.getD r
  | .update m => (r.update m).toOption.getD r
  | .remove id => r.remove id

/-- What a history of calls leads to. -/
def ofCalls (mode : Visibility) (calls : List Call) : Registry := calls.foldl call { mode }

/-- A call keeps identifiers apart. -/
theorem Distinct.call (h : r.Distinct) (c : Call) : (r.call c).Distinct := by
  cases c with
  | register m =>
    rw [Registry.call]
    cases hr : r.register m with
    | ok r' => exact h.register hr
    | error => exact h
  | update m =>
    rw [Registry.call]
    cases hr : r.update m with
    | ok r' => exact h.update hr
    | error => exact h
  | remove id => exact h.remove id

/-- A file has the identifier of a registered data model for its owner exactly if it belongs to
it. -/
theorem Distinct.owner?_eq_some_iff (h : r.Distinct) (hm : m ∈ r.models) :
    r.owner? uri = some m.id ↔ r.ownerModel? uri = some m := by
  rw [owner?, Option.map_eq_some_iff]
  constructor
  · rintro ⟨found, hfound, hid⟩
    have hmem : found ∈ r.models := (deepest_of_ownerModel? hfound).mem
    have hget := h.get?_eq hmem
    rw [hid, h.get?_eq hm, Option.some_inj] at hget
    rw [hfound, hget]
  · intro hfound
    exact ⟨m, hfound, rfl⟩

/-- Every history keeps identifiers apart. -/
theorem distinct_ofCalls (mode : Visibility) (calls : List Call) :
    (ofCalls mode calls).Distinct := by
  induction calls using List.reverseRecOn with
  | nil => exact List.nodup_nil
  | append_singleton calls c ih =>
    rw [ofCalls, List.foldl_append]
    exact ih.call c

/-- Ownership does not depend on the order of registration: if certain data models with different
roots are registered in the end, a file belongs to the one whose root is the longest that covers
it, and to none if none does. -/
theorem owner?_ofCalls {models : Set DataModel}
    (hroots : ∀ m ∈ models, ∀ other ∈ models, m.root = other.root → m = other)
    {mode : Visibility} {calls : List Call}
    (hcalls : ∀ m, m ∈ (ofCalls mode calls).models ↔ m ∈ models) (uri : String) :
    (∀ m ∈ models, ¬ m.Covers uri) ∧ (ofCalls mode calls).owner? uri = none ∨
      ∃ m, Deepest models uri m ∧ (∀ other, Deepest models uri other → other = m) ∧
        (ofCalls mode calls).owner? uri = some m.id := by
  have hmodels : {m | m ∈ (ofCalls mode calls).models} = models := Set.ext hcalls
  cases howner : (ofCalls mode calls).ownerModel? uri with
  | none =>
    left
    constructor
    · intro m hm
      exact ownerModel?_eq_none_iff.1 howner m ((hcalls m).2 hm)
    · rw [owner?, howner, Option.map_none]
  | some m =>
    right
    have hdeepest : Deepest models uri m := hmodels ▸ deepest_of_ownerModel? howner
    refine ⟨m, hdeepest, fun other hother => hdeepest.unique hroots hother, ?_⟩
    rw [owner?, howner, Option.map_some]

/-- A workspace, and a data model in one of its directories. -/
def nested : List DataModel :=
  [{ id := ⟨"ws"⟩, referenceName := "ws", root := "file:///ws" },
    { id := ⟨"lib"⟩, referenceName := "lib", root := "file:///ws/lib/" }]

/-- A history that leads to them in the other order: one of the calls fails, and the inner data
model is moved to its place later. -/
def nestedCalls : List Call :=
  [.register { id := ⟨"lib"⟩, referenceName := "lib", root := "file:///lib" },
    .register { id := ⟨"old"⟩, referenceName := "old", root := "file:///ws/lib/a.cm" },
    .register { id := ⟨"ws"⟩, referenceName := "ws", root := "file:///ws" },
    .update { id := ⟨"lib"⟩, referenceName := "lib", root := "file:///ws/lib/" },
    .register { id := ⟨"ws"⟩, referenceName := "again", root := "file:///ws/lib/a.cm" },
    .remove ⟨"old"⟩]

theorem owner?_ofCalls_nested :
    (∀ m ∈ {m | m ∈ nested}, ∀ other ∈ {m | m ∈ nested}, m.root = other.root → m = other) ∧
      (∀ m, m ∈ (ofCalls .direct nestedCalls).models ↔ m ∈ {m | m ∈ nested}) ∧
      (ofCalls .direct nestedCalls).models ≠ nested ∧
      ∃ m, Deepest {m | m ∈ nested} "file:///ws/lib/a.cm" m ∧ m.id = ⟨"lib"⟩ ∧
        (ofCalls .direct nestedCalls).owner? "file:///ws/lib/a.cm" = some m.id := by
  have hroots : ∀ m ∈ {m | m ∈ nested}, ∀ other ∈ {m | m ∈ nested},
      m.root = other.root → m = other := by
    change ∀ m ∈ nested, ∀ other ∈ nested, m.root = other.root → m = other
    decide
  have hmodels : (ofCalls .direct nestedCalls).models = nested.reverse := by decide
  have hcalls : ∀ m, m ∈ (ofCalls .direct nestedCalls).models ↔ m ∈ {m | m ∈ nested} := by
    intro m
    rw [hmodels, List.mem_reverse]
    rfl
  have howner : (ofCalls .direct nestedCalls).owner? "file:///ws/lib/a.cm" = some ⟨"lib"⟩ := by
    decide
  refine ⟨hroots, hcalls, by decide, ?_⟩
  rcases owner?_ofCalls hroots hcalls "file:///ws/lib/a.cm" with ⟨-, hnone⟩ | ⟨m, hm, -, hsome⟩
  · rw [howner] at hnone
    cases hnone
  · exact ⟨m, hm, Option.some.inj (hsome.symm.trans howner), hsome⟩

end Calls

section Unsaved

open ImaginedChain (unsavedUri unsavedSuffix bare unsavedUri_eq length_bare_lt
  exists_toList_eq_bare_append)

/-- What covers a place in a directory: its own address, the directory with a slash, and what
covers the directory. -/
theorem covers_child_iff {base name : String} (hname : '/' ∉ name.toList) :
    m.Covers (base ++ "/" ++ name) ↔
      m.root = base ++ "/" ++ name ∨ m.root = base ++ "/" ∨ m.Covers base := by
  have huri : (base ++ "/" ++ name).toList = base.toList ++ '/' :: name.toList := by simp
  have hdirectory : (base ++ "/").toList = base.toList ++ ['/'] := by simp
  rw [← DataModel.owns_iff, ← DataModel.owns_iff, DataModel.owns, DataModel.owns,
    DataModel.isUnder_iff, DataModel.isUnder_iff, ← String.toList_inj, ← String.toList_inj, huri,
    hdirectory]
  apply or_congr_right
  constructor
  · rintro ⟨rest, happend, hslash⟩
    rcases List.append_eq_append_iff.1 happend with ⟨inner, hroot, hrest⟩ | ⟨inner, hbase, hrest⟩
    · -- The root goes on behind the directory, so it ends at the slash.
      rcases List.cons_eq_append_iff.1 hrest with ⟨rfl, -⟩ | ⟨last, rfl, hlast⟩
      · rw [List.append_nil] at hroot
        exact Or.inr (Or.inl hroot)
      have hnil : last = [] := by
        by_contra hne
        rcases hslash with hslash | hslash
        · rw [hroot, List.getLast?_append_cons, List.getLast?_cons_of_ne_nil hne] at hslash
          exact hname (hlast ▸ List.mem_append_left _ (List.mem_of_getLast? hslash))
        · exact hname (hlast ▸ List.mem_append_right _ (List.mem_of_head? hslash))
      rw [hnil] at hroot
      exact Or.inl hroot
    · -- The root ends in the directory, where the same slash bounds it.
      right
      cases inner with
      | nil =>
        rw [List.append_nil] at hbase
        exact Or.inl hbase.symm
      | cons c inner =>
        refine Or.inr ⟨c :: inner, hbase, hslash.imp_right fun hslash => ?_⟩
        rw [hrest] at hslash
        exact hslash
  · rintro (hroot | hroot | ⟨rest, hbase, hslash⟩)
    · exact ⟨name.toList, by simp [hroot], Or.inl (by simp [hroot])⟩
    · exact ⟨'/' :: name.toList, by rw [hroot], Or.inr rfl⟩
    · refine ⟨rest ++ '/' :: name.toList, by simp [hbase], hslash.imp_right fun hslash => ?_⟩
      cases rest with
      | nil => rfl
      | cons c rest => exact hslash

/-- What covers a directory: it covers it without the slashes at its end, or is that with some of
them. -/
theorem covers_directory_iff {base directory : String} {count : Nat}
    (h : directory.toList = base.toList ++ List.replicate count '/') :
    m.Covers directory ↔
      m.Covers base ∨ ∃ k, 0 < k ∧ k ≤ count ∧
        m.root.toList = base.toList ++ List.replicate k '/' := by
  induction count generalizing directory with
  | zero =>
    rw [List.replicate_zero, List.append_nil, String.toList_inj] at h
    subst h
    constructor
    · exact Or.inl
    · rintro (hcovers | ⟨k, hpos, hle, -⟩)
      · exact hcovers
      · omega
  | succ count ih =>
    let inner := String.ofList (base.toList ++ List.replicate count '/')
    have hinner : inner.toList = base.toList ++ List.replicate count '/' := String.toList_ofList
    have hlast : (inner ++ "/").toList = base.toList ++ List.replicate (count + 1) '/' := by
      rw [String.toList_append, hinner, List.replicate_succ']
      simp
    have hsplit : directory = inner ++ "/" ++ "" := by
      rw [← String.toList_inj, String.append_empty, h, hlast]
    rw [hsplit, covers_child_iff (by simp), ih hinner, String.append_empty, ← String.toList_inj,
      hlast]
    constructor
    · rintro (hroot | hroot | hcovers | ⟨k, hpos, hle, hroot⟩)
      · exact Or.inr ⟨count + 1, by omega, by omega, hroot⟩
      · exact Or.inr ⟨count + 1, by omega, by omega, hroot⟩
      · exact Or.inl hcovers
      · exact Or.inr ⟨k, hpos, by omega, hroot⟩
    · rintro (hcovers | ⟨k, hpos, hle, hroot⟩)
      · exact Or.inr (Or.inr (Or.inl hcovers))
      · by_cases hk : k = count + 1
        · subst hk
          exact Or.inl hroot
        · exact Or.inr (Or.inr (Or.inr ⟨k, hpos, by omega, hroot⟩))

section

variable {directory token : String} (htoken : '/' ∉ token.toList)
include htoken

/-- What covers the address of an unsaved document. -/
theorem covers_unsavedUri_iff :
    m.Covers (unsavedUri directory token) ↔
      m.root = unsavedUri directory token ∨ m.root = bare directory ++ "/" ∨
        m.Covers (bare directory) := by
  have hname : '/' ∉ (token ++ unsavedSuffix).toList := by
    rw [String.toList_append, List.mem_append, not_or]
    exact ⟨htoken, by decide⟩
  rw [unsavedUri_eq]
  exact covers_child_iff hname

/-- The owner of a directory covers an unsaved document in it exactly if its root goes at most one
slash beyond the directory without the slashes at its end. -/
theorem covers_unsavedUri_iff_of_covers (h : m.Covers directory) :
    m.Covers (unsavedUri directory token) ↔ m.root.length ≤ (bare directory).length + 1 := by
  have hlong := length_bare_lt directory token
  obtain ⟨count, hdirectory⟩ := exists_toList_eq_bare_append directory
  rw [covers_unsavedUri_iff htoken]
  rcases (covers_directory_iff hdirectory).1 h with hbare | ⟨k, hpos, -, hroot⟩
  · have hle := hbare.length_le
    exact iff_of_true (Or.inr (Or.inr hbare)) (by omega)
  have hlength : m.root.length = (bare directory).length + k := by
    rw [← String.length_toList, hroot, List.length_append, List.length_replicate,
      String.length_toList]
  constructor
  · rintro (hsame | hslash | hbare)
    · rw [hsame, unsavedUri_eq] at hroot
      have hslashes : '/' :: (token ++ unsavedSuffix).toList = List.replicate k '/' := by
        simpa using hroot
      have hletter : 'm' ∈ List.replicate k '/' := by
        rw [← hslashes, String.toList_append]
        exact List.mem_cons_of_mem _ (List.mem_append_right _ (by decide))
      exact absurd (List.eq_of_mem_replicate hletter) (by decide)
    · rw [hslash, String.length_append]
      exact Nat.le_refl _
    · have hle := hbare.length_le
      omega
  · intro hle
    obtain rfl : k = 1 := by omega
    right
    left
    rw [← String.toList_inj, hroot]
    simp

/-- What covers an unsaved document covers its directory, but for the document itself and the
directory with a slash where it has none. -/
theorem covers_directory_of_covers_unsavedUri (h : m.Covers (unsavedUri directory token))
    (hself : m.root ≠ unsavedUri directory token)
    (hslash : bare directory = directory → m.root ≠ directory ++ "/") : m.Covers directory := by
  obtain ⟨count, hdirectory⟩ := exists_toList_eq_bare_append directory
  rw [covers_directory_iff hdirectory]
  rcases (covers_unsavedUri_iff htoken).1 h with hroot | hroot | hbare
  · exact absurd hroot hself
  · right
    have hpos : 0 < count := by
      by_contra hzero
      obtain rfl : count = 0 := by omega
      rw [List.replicate_zero, List.append_nil, String.toList_inj] at hdirectory
      exact hslash hdirectory.symm (hdirectory ▸ hroot)
    exact ⟨1, Nat.one_pos, hpos, by simp [hroot]⟩
  · exact Or.inl hbare

end

/-- An unsaved document belongs to the owner of its directory exactly if the root of that owner goes
at most one slash beyond the directory without the slashes at its end, and no other root begins at
the document itself or, where the directory has no slash at its end, at the directory with one. -/
theorem owner?_unsavedUri_iff {mode : Visibility} {calls : List Call} {directory token : String}
    (hm : m ∈ (ofCalls mode calls).models)
    (howner : (ofCalls mode calls).owner? directory = some m.id) (htoken : '/' ∉ token.toList) :
    (ofCalls mode calls).owner? (unsavedUri directory token) = some m.id ↔
      m.root.length ≤ (bare directory).length + 1 ∧
        (∀ other ∈ (ofCalls mode calls).models, other.root ≠ unsavedUri directory token) ∧
        (bare directory = directory →
          ∀ other ∈ (ofCalls mode calls).models, other.root ≠ directory ++ "/") := by
  have hdistinct := distinct_ofCalls mode calls
  have hlong := length_bare_lt directory token
  rw [hdistinct.owner?_eq_some_iff hm] at howner ⊢
  have hcovers : m.Covers directory := (deepest_of_ownerModel? howner).covers
  constructor
  · intro hunsaved
    have hdeepest := deepest_of_ownerModel? hunsaved
    have hle := (covers_unsavedUri_iff_of_covers htoken hcovers).1 hdeepest.covers
    refine ⟨hle, fun other hother hroot => ?_, fun hbare other hother hroot => ?_⟩
    · have hother' : other.Covers (unsavedUri directory token) :=
        (covers_unsavedUri_iff htoken).2 (Or.inl hroot)
      have hlongest := hdeepest.longest other hother hother'
      rw [hroot] at hlongest
      omega
    · have hother' : other.Covers (unsavedUri directory token) :=
        (covers_unsavedUri_iff htoken).2 (Or.inr (Or.inl (by rw [hbare, hroot])))
      have hlongest := hdeepest.longest other hother hother'
      have hshort := hcovers.length_le
      rw [hroot, String.length_append] at hlongest
      have hslash : "/".length = 1 := by decide
      omega
  · rintro ⟨hle, hself, hslash⟩
    obtain ⟨before, after, hmodels, -, hbefore, hafter⟩ := ownerModel?_eq_some_iff.1 howner
    refine ownerModel?_eq_some_iff.2 ⟨before, after, hmodels,
      (covers_unsavedUri_iff_of_covers htoken hcovers).2 hle, fun other hother hother' => ?_,
      fun other hother hother' => ?_⟩
    · have hmem : other ∈ (ofCalls mode calls).models := by simp [hmodels, hother]
      exact hbefore other hother (covers_directory_of_covers_unsavedUri htoken hother'
        (hself other hmem) fun hbare => hslash hbare other hmem)
    · have hmem : other ∈ (ofCalls mode calls).models := by simp [hmodels, hother]
      exact hafter other hother (covers_directory_of_covers_unsavedUri htoken hother'
        (hself other hmem) fun hbare => hslash hbare other hmem)

/-- Behind the slash at the end of its directory an unsaved document is in the inner data model. -/
theorem owner?_unsavedUri_nested :
    (ofCalls .direct nestedCalls).owner? "file:///ws/lib/" = some ⟨"lib"⟩ ∧
      (ofCalls .direct nestedCalls).owner? (unsavedUri "file:///ws/lib/" "7c1d") =
        some ⟨"lib"⟩ := by
  have howner : (ofCalls .direct nestedCalls).owner? "file:///ws/lib/" = some ⟨"lib"⟩ := by decide
  refine ⟨howner, (owner?_unsavedUri_iff
    (m := { id := ⟨"lib"⟩, referenceName := "lib", root := "file:///ws/lib/" }) (by decide)
    howner (by decide)).2 ⟨by decide, by decide, by decide⟩⟩

/-- The root of all files owns its own address, but no unsaved document in it; and an unsaved
document in a directory written without its slash belongs to the data model inside. -/
theorem owner?_unsavedUri_fileRoot :
    ((ofCalls .direct
        [.register { id := ⟨"ws"⟩, referenceName := "ws", root := "file:///" }]).owner? "file:///" =
          some ⟨"ws"⟩ ∧
      (ofCalls .direct
        [.register { id := ⟨"ws"⟩, referenceName := "ws", root := "file:///" }]).owner?
          (unsavedUri "file:///" "7c1d") = none) ∧
      (ofCalls .direct nestedCalls).owner? "file:///ws/lib" = some ⟨"ws"⟩ ∧
      (ofCalls .direct nestedCalls).owner? (unsavedUri "file:///ws/lib" "7c1d") =
        some ⟨"lib"⟩ := by
  decide

end Unsaved

end Registry

end ModelBinding
