import Mathlib.Data.List.Induction
import ServiceManifest.Path

/-!
# Absolute paths

An absolute path is anchored and has no part `..`, so where it leads does not hang on the tree.
-/

namespace ServiceManifest.Path

/-- What comes first is collapsed first. -/
theorem collapse_append (parts more : List String) :
    collapse (parts ++ more) = more.foldl (fun done part =>
      if part = ".." then done.dropLast else done ++ [part]) (collapse parts) :=
  List.foldl_append

/-- Parts that are not `..` stay behind what is collapsed. -/
theorem collapse_append_of_not_mem {parts more : List String} (h : ".." ∉ more) :
    collapse (parts ++ more) = collapse parts ++ more := by
  induction more using List.reverseRecOn with
  | nil => simp
  | append_singleton more part ih =>
    rw [List.mem_append, List.mem_singleton, not_or] at h
    rw [← List.append_assoc, collapse_append, ih h.1, List.foldl_cons, List.foldl_nil,
      if_neg (Ne.symm h.2), List.append_assoc]

/-- Collapsing changes nothing where there is no part `..`. -/
theorem collapse_eq_self {parts : List String} (h : ".." ∉ parts) : collapse parts = parts :=
  @collapse_append_of_not_mem [] _ h

/-- Collapsing adds no part. -/
theorem collapse_subset (parts : List String) : ∀ part ∈ collapse parts, part ∈ parts := by
  induction parts using List.reverseRecOn with
  | nil => exact fun _ hmem => hmem
  | append_singleton parts last ih =>
    intro part hpart
    rw [collapse_append, List.foldl_cons, List.foldl_nil] at hpart
    split at hpart
    · exact List.mem_append_left _ (ih part (List.dropLast_subset _ hpart))
    · rcases List.mem_append.mp hpart with hpart | hpart
      · exact List.mem_append_left _ (ih part hpart)
      · exact List.mem_append_right _ hpart

/-- Collapsing leaves no part `..`. -/
theorem not_mem_collapse (parts : List String) : ".." ∉ collapse parts := by
  refine List.foldlRecOn (motive := fun done => ".." ∉ done) parts _ List.not_mem_nil
    fun done hdone part _ => ?_
  split
  · exact fun hmem => hdone (List.dropLast_subset done hmem)
  · rename_i hpart
    simp [hdone, Ne.symm hpart]

/-- An absolute path has no part `..`. -/
theorem not_mem_parts_absolute (path : Path) (here : List String) :
    ".." ∉ (path.absolute here).parts := by
  unfold absolute
  split <;> exact not_mem_collapse _

/-- An absolute path is anchored. -/
theorem anchor_absolute_ne (path : Path) (here : List String) :
    (path.absolute here).anchor ≠ "" := by
  unfold absolute
  split
  · simp
  · assumption

/-- The absolute form of a relative path without `..` has its parts behind those of the folder. -/
theorem absolute_of_relative {path : Path} {here : List String} (hanchor : path.anchor = "")
    (hhere : ".." ∉ here) (hparts : ".." ∉ path.parts) :
    path.absolute here = ⟨"/", here ++ path.parts⟩ := by
  rw [absolute, if_pos hanchor, collapse_eq_self]
  rw [List.mem_append, not_or]
  exact ⟨hhere, hparts⟩

/-- An anchored path without `..` is absolute. -/
theorem absolute_of_anchored {path : Path} {here : List String} (hanchor : path.anchor ≠ "")
    (hparts : ".." ∉ path.parts) : path.absolute here = path := by
  rw [absolute, if_neg hanchor, collapse_eq_self hparts]

/-- An absolute path is its own absolute form. -/
theorem absolute_absolute (path : Path) (here other : List String) :
    (path.absolute here).absolute other = path.absolute here :=
  absolute_of_anchored (anchor_absolute_ne path here) (not_mem_parts_absolute path here)

/-- The absolute form of a path behind another is behind the absolute form of the other. -/
theorem absolute_join {path other : Path} (here : List String) (hanchor : other.anchor = "")
    (hparts : ".." ∉ other.parts) : (path.join other).absolute here = (path.absolute here).join other := by
  unfold join absolute
  simp only [if_pos hanchor]
  split
  · rw [← List.append_assoc, collapse_append_of_not_mem hparts]
  · rw [collapse_append_of_not_mem hparts]

/-- A relative path is written no longer than one that has more parts in front of it. -/
theorem utf8ByteSize_toString_le (front parts : List String) :
    (Path.mk "" parts).toString.utf8ByteSize ≤ (Path.mk "/" (front ++ parts)).toString.utf8ByteSize := by
  have hroot : (Path.mk "/" (front ++ parts)).toString = "/" ++ "/".intercalate (front ++ parts) := by
    simp [Path.toString]
  rw [hroot, String.utf8ByteSize_append]
  by_cases hparts : parts = []
  · subst hparts
    exact Nat.le_add_right_of_le (by decide)
  · have hself : (Path.mk "" parts).toString = "/".intercalate parts := by
      simp [Path.toString, hparts]
    rw [hself]
    by_cases hfront : front = []
    · simp [hfront]
    · rw [String.intercalate_append_of_ne_nil hfront hparts, String.utf8ByteSize_append]
      omega

/-- A name with an ending of four characters is not `..`. -/
theorem append_draftEnding_ne (name : String) : name ++ ".tmp" ≠ ".." := by
  intro h
  have hlength := congrArg (fun text : String => text.toList.length) h
  simp at hlength

/-- The place beside another one, with the ending of drafts behind its name. -/
def draftOf (parts : List String) : List String :=
  parts.dropLast ++ [parts.getLastD "" ++ ".tmp"]

/-- A draft is not what it is the draft of. -/
theorem draftOf_ne (parts : List String) : draftOf parts ≠ parts := by
  rcases List.eq_nil_or_concat parts with rfl | ⟨front, last, rfl⟩ <;> simp [draftOf]

/-- A draft of a path without `..` has none. -/
theorem not_mem_draftOf {parts : List String} (h : ".." ∉ parts) : ".." ∉ draftOf parts := by
  intro hmem
  rcases List.mem_append.mp hmem with hmem | hmem
  · exact h (List.dropLast_subset parts hmem)
  · exact append_draftEnding_ne _ (List.mem_singleton.mp hmem).symm

end ServiceManifest.Path
