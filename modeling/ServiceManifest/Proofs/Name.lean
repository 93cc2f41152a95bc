import Mathlib.Data.List.Basic
import ServiceManifest.Name

/-!
# The parts of dotted names

A dotted name and its parts determine each other, as long as no part has a dot in it. The binary form
of a qualified name still shows where the package ends, since only the package has dots.
-/

namespace ServiceManifest

/-- A dotted name is what its parts spell. -/
theorem intercalate_nameParts (dotted : String) : ".".intercalate (nameParts '.' dotted) = dotted := by
  rw [← String.toList_inj, String.toList_intercalate, nameParts, List.map_map]
  simp [Function.comp_def]

/-- The parts of two names with a dot between them. -/
theorem nameParts_append (front rest : String) :
    nameParts '.' (front ++ "." ++ rest) = nameParts '.' front ++ nameParts '.' rest := by
  have hlist : (front ++ "." ++ rest).toList = front.toList ++ '.' :: rest.toList := by
    simp [String.toList_append]
  rw [nameParts, hlist, List.splitOn_append_cons_self, List.map_append]
  rfl

/-- A name without a dot is its only part. -/
theorem nameParts_eq_singleton {written : String} (h : '.' ∉ written.toList) :
    nameParts '.' written = [written] := by
  rw [nameParts, List.splitOn_eq_singleton h, List.map_singleton, String.ofList_toList]

/-- A name has at least one part. -/
theorem nameParts_ne_nil (dotted : String) : nameParts '.' dotted ≠ [] := by
  rw [nameParts, Ne, List.map_eq_nil_iff]
  exact List.splitOn_ne_nil _ _

/-- What is split at a separator has it in no piece. -/
theorem not_mem_of_mem_splitOn {α : Type} [BEq α] [LawfulBEq α] {separator : α} {xs piece : List α}
    (h : piece ∈ xs.splitOn separator) : separator ∉ piece := by
  induction xs generalizing piece with
  | nil =>
    obtain rfl := List.mem_singleton.mp (List.splitOn_nil separator ▸ h)
    exact List.not_mem_nil
  | cons x xs ih =>
    rw [List.splitOn_cons_eq_if_modifyHead] at h
    split at h
    · rcases List.mem_cons.mp h with rfl | h
      · exact List.not_mem_nil
      · exact ih h
    · rename_i hx
      obtain ⟨first, pieces, hpieces⟩ := List.exists_cons_of_ne_nil (List.splitOn_ne_nil separator xs)
      rw [hpieces] at h ih
      rcases List.mem_cons.mp h with rfl | h
      · rw [List.mem_cons, not_or]
        exact ⟨fun heq => hx (by simp [heq]), ih List.mem_cons_self⟩
      · exact ih (List.mem_cons_of_mem first h)

/-- No part of a dotted name has a dot in it. -/
theorem not_mem_of_mem_nameParts {dotted part : String} (h : part ∈ nameParts '.' dotted) :
    '.' ∉ part.toList := by
  obtain ⟨piece, hpiece, rfl⟩ := List.mem_map.mp h
  rw [String.toList_ofList]
  exact not_mem_of_mem_splitOn hpiece

/-- Parts without the separator are those of what they spell with it. -/
theorem nameParts_intercalate_singleton {separator : Char} {parts : List String} (hne : parts ≠ [])
    (hparts : ∀ part ∈ parts, separator ∉ part.toList) :
    nameParts separator ((String.singleton separator).intercalate parts) = parts := by
  have hpieces : ∀ piece ∈ parts.map String.toList, separator ∉ piece := by
    simpa using hparts
  rw [nameParts, String.toList_intercalate, String.toList_singleton,
    List.splitOn_intercalate separator hpieces (by simpa using hne)]
  simp

/-- Parts without dots are those of the name that they spell. -/
theorem nameParts_intercalate {parts : List String} (hne : parts ≠ [])
    (hparts : ∀ part ∈ parts, '.' ∉ part.toList) : nameParts '.' (".".intercalate parts) = parts :=
  nameParts_intercalate_singleton hne hparts

section Intercalate

variable {α : Type} {sep : List α} {lists : List (List α)} {a : α}

/-- What is in one of the lists is in them joined. -/
theorem mem_intercalate_of_mem {list : List α} (hlist : list ∈ lists) (ha : a ∈ list) :
    a ∈ sep.intercalate lists := by
  induction lists with
  | nil => cases hlist
  | cons first rest ih =>
    rcases List.mem_cons.mp hlist with rfl | hlist
    · cases rest with
      | nil => simpa using ha
      | cons second rest => simp [ha]
    · have hrest : rest ≠ [] := List.ne_nil_of_mem hlist
      rw [List.intercalate_cons_of_ne_nil hrest]
      exact List.mem_append_right _ (ih hlist)

/-- What is in lists joined is in one of them or between them. -/
theorem mem_or_of_mem_intercalate (ha : a ∈ sep.intercalate lists) :
    a ∈ sep ∨ ∃ list ∈ lists, a ∈ list := by
  induction lists with
  | nil => cases ha
  | cons first rest ih =>
    by_cases hrest : rest = []
    · subst hrest
      rw [List.intercalate_singleton] at ha
      exact Or.inr ⟨first, List.mem_cons_self, ha⟩
    · rw [List.intercalate_cons_of_ne_nil hrest, List.mem_append, List.mem_append] at ha
      rcases ha with (ha | ha) | ha
      · exact Or.inr ⟨first, List.mem_cons_self, ha⟩
      · exact Or.inl ha
      · refine (ih ha).imp_right ?_
        rintro ⟨list, hlist, hmem⟩
        exact ⟨list, List.mem_cons_of_mem first hlist, hmem⟩

end Intercalate

/-- A character that stands neither in a separator nor in a part does not stand in what the parts
spell with the separator. -/
theorem not_mem_intercalate {separator : String} {parts : List String} {c : Char}
    (hseparator : c ∉ separator.toList) (hparts : ∀ part ∈ parts, c ∉ part.toList) :
    c ∉ (separator.intercalate parts).toList := by
  rw [String.toList_intercalate]
  intro hmem
  rcases mem_or_of_mem_intercalate hmem with hmem | ⟨piece, hpiece, hmem⟩
  · exact hseparator hmem
  · obtain ⟨part, hpart, rfl⟩ := List.mem_map.mp hpiece
    exact hparts part hpart hmem

end ServiceManifest
