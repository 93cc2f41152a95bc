import ServiceManifest.Proofs.Ascending

/-!
# What a grouping holds

In an ordered grouping the interfaces and the contributions to each of them are strictly ascending,
and no interface is without a contribution. Filing a contribution keeps a grouping ordered and adds
that contribution and nothing else.
-/

namespace ServiceManifest.Grouping

open Ascending

/-- Groups in order: interfaces ascend, and each has contributions, which ascend as well. -/
structure IsOrdered (groups : List (String × List Contribution)) : Prop where
  interfaces : (groups.map (·.1)).Pairwise (textBefore · · = true)
  contributions : ∀ group ∈ groups, group.2.Pairwise (Contribution.before · · = true)
  inhabited : ∀ group ∈ groups, group.2 ≠ []

/-- The groups without any contribution are in order. -/
theorem isOrdered_nil : IsOrdered [] := ⟨List.Pairwise.nil, by simp, by simp⟩

/-- The rest of groups in order is in order. -/
theorem IsOrdered.tail {group : String × List Contribution}
    {rest : List (String × List Contribution)} (h : IsOrdered (group :: rest)) : IsOrdered rest where
  interfaces := (List.pairwise_cons.mp h.interfaces).2
  contributions other hother := h.contributions other (List.mem_cons_of_mem _ hother)
  inhabited other hother := h.inhabited other (List.mem_cons_of_mem _ hother)

/-- The interfaces after filing a contribution. -/
theorem mem_map_putGroup {interface key : String} {entry : Contribution}
    {groups : List (String × List Contribution)}
    (h : key ∈ (putGroup interface entry groups).map (·.1)) :
    key = interface ∨ key ∈ groups.map (·.1) := by
  induction groups with
  | nil => simpa [putGroup] using h
  | cons group rest ih =>
    rw [putGroup] at h
    split at h
    · simpa using h
    · split at h
      · rw [List.map_cons, List.mem_cons] at h
        rcases h with rfl | h
        · simp
        · rcases ih h with rfl | h
          · exact Or.inl rfl
          · exact Or.inr (List.mem_cons_of_mem _ h)
      · exact Or.inr h

/-- Filing a contribution keeps groups in order. -/
theorem IsOrdered.putGroup {groups : List (String × List Contribution)} (h : IsOrdered groups)
    (interface : String) (entry : Contribution) :
    IsOrdered (putGroup interface entry groups) := by
  induction groups with
  | nil => exact ⟨by simp [Grouping.putGroup], by simp [Grouping.putGroup], by simp [Grouping.putGroup]⟩
  | cons group rest ih =>
    have hfirst := List.pairwise_cons.mp h.interfaces
    have hrest := ih h.tail
    rw [Grouping.putGroup]
    split
    · rename_i hlt
      refine ⟨List.pairwise_cons.mpr ⟨fun key hkey => ?_, h.interfaces⟩, ?_, ?_⟩
      · have hbefore : textBefore interface group.1 = true := by simpa [textBefore] using hlt
        rcases List.mem_cons.mp hkey with rfl | hkey
        · exact hbefore
        · exact textBefore_isOrder.trans hbefore (hfirst.1 key hkey)
      · rintro other (_ | ⟨_, hother⟩)
        · simp
        · exact h.contributions other hother
      · rintro other (_ | ⟨_, hother⟩)
        · simp
        · exact h.inhabited other hother
    · split
      · rename_i hgt
        refine ⟨List.pairwise_cons.mpr ⟨fun key hkey => ?_, hrest.interfaces⟩, ?_, ?_⟩
        · rcases mem_map_putGroup hkey with rfl | hkey
          · simpa [textBefore] using hgt
          · exact hfirst.1 key hkey
        · rintro other (_ | ⟨_, hother⟩)
          · exact h.contributions group List.mem_cons_self
          · exact hrest.contributions other hother
        · rintro other (_ | ⟨_, hother⟩)
          · exact h.inhabited group List.mem_cons_self
          · exact hrest.inhabited other hother
      · refine ⟨h.interfaces, ?_, ?_⟩
        · rintro other (_ | ⟨_, hother⟩)
          · exact pairwise_insert contributionBefore_isOrder
              (h.contributions group List.mem_cons_self)
          · exact h.contributions other (List.mem_cons_of_mem _ hother)
        · rintro other (_ | ⟨_, hother⟩)
          · exact List.ne_nil_of_mem ((mem_insert contributionBefore_isOrder).mpr (Or.inl rfl))
          · exact h.inhabited other (List.mem_cons_of_mem _ hother)

/-- The contributions to an interface in groups. -/
def entriesIn (groups : List (String × List Contribution)) (interface : String) :
    List Contribution := (⟨groups⟩ : Grouping).entries interface

/-- The first group holds the contributions to its interface; those to others lie behind it. -/
theorem entriesIn_cons (group : String × List Contribution)
    (rest : List (String × List Contribution)) (interface : String) :
    entriesIn (group :: rest) interface =
      if group.1 = interface then group.2 else entriesIn rest interface := by
  simp only [entriesIn, entries, List.find?_cons]
  split <;> simp_all

/-- An interface that is not grouped has no contributions. -/
theorem entriesIn_of_not_mem {groups : List (String × List Contribution)} {interface : String}
    (h : interface ∉ groups.map (·.1)) : entriesIn groups interface = [] := by
  induction groups with
  | nil => rfl
  | cons group rest ih =>
    rw [List.map_cons, List.mem_cons, not_or] at h
    rw [entriesIn_cons, if_neg fun heq => h.1 heq.symm, ih h.2]

/-- Filing adds the contribution that is filed and no other. -/
theorem mem_entriesIn_putGroup {groups : List (String × List Contribution)}
    (h : IsOrdered groups) (interface key : String) (entry other : Contribution) :
    other ∈ entriesIn (putGroup interface entry groups) key ↔
      (key = interface ∧ other = entry) ∨ other ∈ entriesIn groups key := by
  induction groups with
  | nil =>
    simp only [putGroup, entriesIn_cons]
    split
    · simp_all [entriesIn, entries]
    · rename_i hne
      simp [entriesIn, entries, Ne.symm hne]
  | cons group rest ih =>
    rw [putGroup]
    split
    · rename_i hlt
      rw [entriesIn_cons]
      split
      · rename_i heq
        subst heq
        have hnone : entriesIn (group :: rest) interface = [] := by
          refine entriesIn_of_not_mem fun hmem => ?_
          rcases List.mem_cons.mp hmem with heq | hmem
          · exact String.ne_of_lt hlt heq
          · have hbefore := (List.pairwise_cons.mp h.interfaces).1 interface hmem
            exact String.lt_asymm hlt (by simpa [textBefore] using hbefore)
        simp [hnone]
      · rename_i hne
        simp [Ne.symm hne]
    · split
      · rename_i hgt
        rw [entriesIn_cons, entriesIn_cons]
        split
        · rename_i heq
          have hne : key ≠ interface := heq ▸ String.ne_of_lt hgt
          simp [hne]
        · exact ih h.tail
      · rename_i hnlt hngt
        have heq : group.1 = interface := String.le_antisymm hnlt hngt
        rw [entriesIn_cons, entriesIn_cons]
        split
        · rename_i hkey
          rw [mem_insert contributionBefore_isOrder]
          simp [← hkey, heq]
        · rename_i hkey
          have hne : key ≠ interface := fun hkey' => hkey (heq.trans hkey'.symm)
          simp [hne]

/-- Filing a provider adds its contribution to the interface and no other. -/
theorem mem_entries_put {grouping : Grouping} (h : IsOrdered grouping.groups)
    (interface provider key : String) (unit : SourceUnit) (other : Contribution) :
    other ∈ (grouping.put interface provider unit).entries key ↔
      (key = interface ∧ other = (provider, unit)) ∨ other ∈ grouping.entries key :=
  mem_entriesIn_putGroup h interface key (provider, unit) other

/-- The interfaces of a grouping in order are those with contributions. -/
theorem mem_keys_iff {grouping : Grouping} (h : IsOrdered grouping.groups) (key : String) :
    key ∈ grouping.keys ↔ ∃ entry, entry ∈ grouping.entries key := by
  obtain ⟨groups⟩ := grouping
  change key ∈ groups.map (·.1) ↔ ∃ entry, entry ∈ entriesIn groups key
  induction groups with
  | nil => simp [entriesIn, entries]
  | cons group rest ih =>
    have hgroup := List.exists_mem_of_ne_nil _ (h.inhabited group List.mem_cons_self)
    rw [List.map_cons, List.mem_cons, ih h.tail, entriesIn_cons]
    split
    · simp_all
    · rename_i hne
      simp [Ne.symm hne]

end ServiceManifest.Grouping
