import Mathlib.Data.List.Perm.Basic
import Mathlib.Order.Basic
import ServiceManifest.Grouping

/-!
# Ascending lists as sets

An order test that is irreflexive, transitive and connected makes ascending lists canonical: two of
them with the same members are the same list. Insertion keeps a list ascending and adds exactly the
inserted member, so collecting members in any order gives one result. The orders of texts, pairs,
units and contributions are such tests.
-/

namespace ServiceManifest.Ascending

variable {α β : Type} {before : α → α → Bool}

/-- A Boolean test that is a strict total order. -/
structure IsOrder (before : α → α → Bool) : Prop where
  irrefl : ∀ a, before a a = false
  trans : ∀ {a b c}, before a b = true → before b c = true → before a c = true
  connected : ∀ {a b}, before a b = false → before b a = false → a = b

/-- Nothing comes both before and after another member. -/
theorem IsOrder.asymm (order : IsOrder before) {a b : α} (h : before a b = true) :
    before b a = false := by
  by_contra hba
  have haa := order.trans h (by simpa using hba)
  simp [order.irrefl] at haa

/-- An order of the images under an injection is an order. -/
theorem IsOrder.comap (order : IsOrder before) (key : β → α)
    (hkey : ∀ a b, key a = key b → a = b) : IsOrder fun a b => before (key a) (key b) where
  irrefl a := order.irrefl (key a)
  trans hab hbc := order.trans hab hbc
  connected hab hba := hkey _ _ (order.connected hab hba)

/-- Insertion adds the inserted member and keeps every other. -/
theorem mem_insert (order : IsOrder before) {x y : α} {xs : List α} :
    y ∈ insert before x xs ↔ y = x ∨ y ∈ xs := by
  induction xs with
  | nil => simp [insert]
  | cons z rest ih =>
    simp only [insert]
    split
    · simp
    · rename_i hxz
      split
      · rw [List.mem_cons, ih, List.mem_cons]
        tauto
      · rename_i hzx
        have heq : x = z := order.connected (by simpa using hxz) (by simpa using hzx)
        subst heq
        simp

/-- Insertion keeps a list strictly ascending. -/
theorem pairwise_insert (order : IsOrder before) {x : α} {xs : List α}
    (hxs : xs.Pairwise (before · · = true)) :
    (insert before x xs).Pairwise (before · · = true) := by
  induction xs with
  | nil => simp [insert]
  | cons z rest ih =>
    obtain ⟨hz, hrest⟩ := List.pairwise_cons.mp hxs
    simp only [insert]
    split
    · rename_i hxz
      refine List.pairwise_cons.mpr ⟨fun y hy => ?_, hxs⟩
      rcases List.mem_cons.mp hy with rfl | hy
      · exact hxz
      · exact order.trans hxz (hz y hy)
    · split
      · rename_i hzx
        refine List.pairwise_cons.mpr ⟨fun y hy => ?_, ih hrest⟩
        rcases (mem_insert order).mp hy with rfl | hy
        · exact hzx
        · exact hz y hy
      · exact hxs

/-- Collecting into a list adds exactly the collected members. -/
theorem mem_foldl_insert (order : IsOrder before) {y : α} (xs done : List α) :
    y ∈ xs.foldl (fun members x => insert before x members) done ↔ y ∈ done ∨ y ∈ xs := by
  induction xs generalizing done with
  | nil => simp
  | cons x rest ih =>
    rw [List.foldl_cons, ih, mem_insert order, List.mem_cons]
    tauto

/-- Collecting keeps a list strictly ascending. -/
theorem pairwise_foldl_insert (order : IsOrder before) (xs done : List α)
    (hdone : done.Pairwise (before · · = true)) :
    (xs.foldl (fun members x => insert before x members) done).Pairwise (before · · = true) := by
  induction xs generalizing done with
  | nil => exact hdone
  | cons x rest ih => exact ih _ (pairwise_insert order hdone)

/-- The ascending list of a list has the members of that list. -/
theorem mem_ofList (order : IsOrder before) {y : α} {xs : List α} :
    y ∈ ofList before xs ↔ y ∈ xs := by
  simp [ofList, mem_foldl_insert order]

/-- The ascending list of a list is strictly ascending. -/
theorem pairwise_ofList (order : IsOrder before) (xs : List α) :
    (ofList before xs).Pairwise (before · · = true) :=
  pairwise_foldl_insert order xs [] List.Pairwise.nil

/-- A strictly ascending list has no member twice. -/
theorem nodup_of_pairwise (order : IsOrder before) {xs : List α}
    (hxs : xs.Pairwise (before · · = true)) : xs.Nodup := by
  refine hxs.imp fun {a b} hab heq => ?_
  subst heq
  simp [order.irrefl] at hab

/-- Strictly ascending lists with the same members are equal. -/
theorem eq_of_mem_iff (order : IsOrder before) {xs ys : List α}
    (hxs : xs.Pairwise (before · · = true)) (hys : ys.Pairwise (before · · = true))
    (hmem : ∀ a, a ∈ xs ↔ a ∈ ys) : xs = ys := by
  have hperm : xs.Perm ys :=
    (List.perm_ext_iff_of_nodup (nodup_of_pairwise order hxs) (nodup_of_pairwise order hys)).mpr hmem
  refine hperm.eq_of_pairwise (fun a b _ _ hab hba => ?_) hxs hys
  simp [order.asymm hab] at hba

/-- Lists with the same members have the same ascending list. -/
theorem ofList_congr (order : IsOrder before) {xs ys : List α} (hmem : ∀ a, a ∈ xs ↔ a ∈ ys) :
    ofList before xs = ofList before ys :=
  eq_of_mem_iff order (pairwise_ofList order xs) (pairwise_ofList order ys) fun a => by
    rw [mem_ofList order, mem_ofList order, hmem]

/-- Putting a member in its place adds it. -/
theorem place_perm (before : α → α → Bool) (x : α) (xs : List α) :
    (place before x xs).Perm (x :: xs) := by
  induction xs with
  | nil => exact .refl _
  | cons y rest ih =>
    rw [place]
    split
    · exact (ih.cons y).trans (.swap x y rest)
    · exact .refl _

/-- Sorting keeps the members. -/
theorem sort_perm (before : α → α → Bool) (xs : List α) : (sort before xs).Perm xs := by
  induction xs with
  | nil => exact .refl _
  | cons x rest ih => exact (place_perm before x (sort before rest)).trans (ih.cons x)

/-- The members after sorting are the members. -/
@[simp] theorem mem_sort {before : α → α → Bool} {x : α} {xs : List α} :
    x ∈ sort before xs ↔ x ∈ xs := (sort_perm before xs).mem_iff

/-- Sorting sorts: nothing comes before what stands in front of it, if not to come after is
transitive and of two members one does not come after the other. -/
theorem pairwise_sort
    (htrans : ∀ {a b c}, before b a = false → before c b = false → before c a = false)
    (hasymm : ∀ {a b}, before a b = true → before b a = false) (xs : List α) :
    (sort before xs).Pairwise fun a b => before b a = false := by
  have hplace (x : α) (xs : List α) (hxs : xs.Pairwise fun a b => before b a = false) :
      (place before x xs).Pairwise fun a b => before b a = false := by
    induction xs with
    | nil => simp [place]
    | cons y rest ih =>
      obtain ⟨hy, hrest⟩ := List.pairwise_cons.mp hxs
      rw [place]
      split
      · rename_i hyx
        refine List.pairwise_cons.mpr ⟨fun z hz => ?_, ih hrest⟩
        rcases List.mem_cons.mp ((place_perm before x rest).mem_iff.mp hz) with rfl | hz
        · exact hasymm hyx
        · exact hy z hz
      · rename_i hyx
        have hyx : before y x = false := by simpa using hyx
        refine List.pairwise_cons.mpr ⟨fun z hz => ?_, hxs⟩
        rcases List.mem_cons.mp hz with rfl | hz
        · exact hyx
        · exact htrans hyx (hy z hz)
  induction xs with
  | nil => exact .nil
  | cons x rest ih => exact hplace x _ ih

/-- What does not come after another member, does not come after what that one does not come after. -/
theorem IsOrder.not_trans (order : IsOrder before) {a b c : α} (hab : before b a = false)
    (hbc : before c b = false) : before c a = false := by
  by_contra hca
  have hca : before c a = true := by simpa using hca
  cases h : before a b with
  | true => cases hbc.symm.trans (order.trans hca h)
  | false => cases hbc.symm.trans (order.connected h hab ▸ hca)

/-- Sorting by an order sorts. -/
theorem IsOrder.pairwise_sort (order : IsOrder before) (xs : List α) :
    (sort before xs).Pairwise fun a b => before b a = false :=
  @Ascending.pairwise_sort α before order.not_trans order.asymm xs

/-- Members that are different are sorted to their ascending list. -/
theorem sort_eq_ofList (order : IsOrder before) {xs ys : List α} (hnodup : xs.Nodup)
    (hmem : ∀ a, a ∈ xs ↔ a ∈ ys) : sort before xs = ofList before ys := by
  have hdistinct : (sort before xs).Nodup := (sort_perm before xs).nodup_iff.mpr hnodup
  have hsorted : (sort before xs).Pairwise (before · · = true) := by
    refine (List.pairwise_and_iff.mpr ⟨order.pairwise_sort xs, hdistinct⟩).imp ?_
    rintro a b ⟨hba, hne⟩
    by_contra hab
    exact hne (order.connected (by simpa using hab) hba)
  refine eq_of_mem_iff order hsorted (pairwise_ofList order ys) fun a => ?_
  rw [mem_sort, mem_ofList order, hmem]

/-- Sorting comes to the same in whatever order the members were. -/
theorem sort_eq_of_perm (order : IsOrder before) {xs ys : List α} (h : xs.Perm ys) :
    sort before xs = sort before ys := by
  have hperm : (sort before xs).Perm (sort before ys) :=
    (sort_perm before xs).trans (h.trans (sort_perm before ys).symm)
  exact hperm.eq_of_pairwise (fun a b _ _ hab hba => order.connected hba hab)
    (order.pairwise_sort xs) (order.pairwise_sort ys)

/-- A list that is sorted stays as it is. -/
theorem sort_eq_self {xs : List α} (h : xs.Pairwise fun a b => before b a = false) :
    sort before xs = xs := by
  induction xs with
  | nil => rfl
  | cons x rest ih =>
    obtain ⟨hx, hrest⟩ := List.pairwise_cons.mp h
    change place before x (sort before rest) = _
    rw [ih hrest]
    cases rest with
    | nil => rfl
    | cons y rest => rw [place, if_neg (by simp [hx y List.mem_cons_self])]

/-- What the order does not see may be changed before sorting or after. -/
theorem sort_map {beforeImage : β → β → Bool} (image : α → β)
    (h : ∀ a b, beforeImage (image a) (image b) = before a b) (xs : List α) :
    sort beforeImage (xs.map image) = (sort before xs).map image := by
  have hplace (x : α) (xs : List α) :
      place beforeImage (image x) (xs.map image) = (place before x xs).map image := by
    induction xs with
    | nil => rfl
    | cons y rest ih =>
      rw [List.map_cons, place, place, h, ih]
      split <;> rfl
  induction xs with
  | nil => rfl
  | cons x rest ih =>
    change place beforeImage (image x) (sort beforeImage (rest.map image)) = _
    rw [ih, hplace]
    rfl

/-- Texts are ordered by code point. -/
theorem textBefore_isOrder : IsOrder textBefore where
  irrefl a := by simp [textBefore]
  trans hab hbc := by
    simp only [textBefore, decide_eq_true_eq] at *
    exact String.lt_trans hab hbc
  connected hab hba := by
    simp only [textBefore, decide_eq_false_iff_not] at *
    exact String.le_antisymm hba hab

/-- Pairs are ordered by the first part, then by the second. -/
theorem pairBefore_isOrder [DecidableEq α] {first : α → α → Bool} {second : β → β → Bool}
    (hfirst : IsOrder first) (hsecond : IsOrder second) : IsOrder (pairBefore first second) where
  irrefl a := by simp [pairBefore, hfirst.irrefl, hsecond.irrefl]
  trans {a b c} hab hbc := by
    simp only [pairBefore, Bool.or_eq_true, Bool.and_eq_true, decide_eq_true_eq] at *
    rcases hab with hab | ⟨hab, hab'⟩
    · rcases hbc with hbc | ⟨hbc, -⟩
      · exact Or.inl (hfirst.trans hab hbc)
      · exact Or.inl (hbc ▸ hab)
    · rcases hbc with hbc | ⟨hbc, hbc'⟩
      · exact Or.inl (hab ▸ hbc)
      · exact Or.inr ⟨hab.trans hbc, hsecond.trans hab' hbc'⟩
  connected {a b} hab hba := by
    simp only [pairBefore, Bool.or_eq_false_iff, Bool.and_eq_false_iff, decide_eq_false_iff_not]
      at hab hba
    have hfst : a.1 = b.1 := hfirst.connected hab.1 hba.1
    refine Prod.ext hfst (hsecond.connected ?_ ?_)
    · exact hab.2.resolve_left fun hne => hne hfst
    · exact hba.2.resolve_left fun hne => hne hfst.symm

/-- Units are ordered by path, then by module. -/
theorem unitBefore_isOrder : IsOrder SourceUnit.before := by
  have hpair := (pairBefore_isOrder textBefore_isOrder textBefore_isOrder).comap
    fun unit : SourceUnit => (unit.path, unit.module)
  refine hpair fun a b hab => ?_
  cases a
  cases b
  simpa using hab

/-- Lists of texts are ordered by the first text in which they differ. -/
theorem textsBefore_isOrder : IsOrder fun a b : List String => decide (a < b) where
  irrefl a := decide_eq_false (List.lt_irrefl a)
  trans hab hbc := decide_eq_true (List.lt_trans (of_decide_eq_true hab) (of_decide_eq_true hbc))
  connected hab hba := List.le_antisymm
    (List.not_lt.mp (of_decide_eq_false hba)) (List.not_lt.mp (of_decide_eq_false hab))

/-- Names are ordered by package, then by the simple names. -/
theorem nameBefore_isOrder : IsOrder QualifiedName.before := by
  have hpair := (pairBefore_isOrder textBefore_isOrder textsBefore_isOrder).comap
    fun name : QualifiedName => (name.package, name.simpleNames)
  refine hpair fun a b hab => ?_
  cases a
  cases b
  simpa using hab

/-- Contributions are ordered by provider, then by unit. -/
theorem contributionBefore_isOrder : IsOrder Contribution.before :=
  pairBefore_isOrder textBefore_isOrder unitBefore_isOrder

end ServiceManifest.Ascending
