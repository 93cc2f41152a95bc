import Mathlib.Data.List.DropRight
import ServiceManifest.Text.Lines

/-!
# Trimmed texts and their lines

Trimming takes elements away at both ends and leaves nothing more to trim. Where there is no carriage
return, reading a text leaves it as it is. Splitting a text into lines takes all line boundaries out,
and what stands before a line feed without another boundary in it is a line.
-/

namespace ServiceManifest.Text

section Trim

variable {α : Type} (drop : α → Bool) (xs : List α)

/-- Trimming takes elements away. -/
theorem trimList_sublist : List.Sublist (trimList drop xs) xs :=
  (List.rdropWhile_prefix drop _).sublist.trans (List.dropWhile_sublist drop)

/-- Trimming takes away nothing but what it is for. -/
theorem mem_trimList {drop : α → Bool} {xs : List α} {x : α} (hx : drop x = false) :
    x ∈ trimList drop xs ↔ x ∈ xs := by
  have hdrop (xs : List α) : x ∈ xs.dropWhile drop ↔ x ∈ xs := by
    refine ⟨fun hmem => (List.dropWhile_sublist drop).subset hmem, fun hmem => ?_⟩
    rw [← List.takeWhile_append_dropWhile (p := drop) (l := xs), List.mem_append] at hmem
    refine hmem.resolve_left fun htaken => ?_
    rw [List.mem_takeWhile_imp htaken] at hx
    cases hx
  rw [trimList, List.mem_reverse, hdrop, List.mem_reverse, hdrop]

/-- A trimmed list has nothing more to drop in front. -/
theorem dropWhile_trimList : (trimList drop xs).dropWhile drop = trimList drop xs := by
  cases htrimmed : trimList drop xs with
  | nil => rfl
  | cons first rest =>
    obtain ⟨dropped, hfront⟩ : trimList drop xs <+: xs.dropWhile drop :=
      List.rdropWhile_prefix drop _
    have hfirst := List.head?_dropWhile_not drop xs
    rw [← hfront, htrimmed, List.cons_append, List.head?_cons] at hfirst
    exact List.dropWhile_cons_of_neg (by simp [hfirst])

/-- A trimmed list has nothing more to drop at either end. -/
theorem trimList_trimList : trimList drop (trimList drop xs) = trimList drop xs := by
  change ((trimList drop xs).dropWhile drop).rdropWhile drop = _
  rw [dropWhile_trimList]
  exact List.rdropWhile_idempotent drop _

/-- Where there is nothing to drop, trimming takes nothing away. -/
theorem trimList_of_forall {drop : α → Bool} {xs : List α} (h : ∀ x ∈ xs, drop x = false) :
    trimList drop xs = xs := by
  have hdrop {xs : List α} (h : ∀ x ∈ xs, drop x = false) : xs.dropWhile drop = xs := by
    cases xs with
    | nil => rfl
    | cons first rest => exact List.dropWhile_cons_of_neg (by simp [h first List.mem_cons_self])
  rw [trimList, hdrop h, hdrop fun x hx => h x (List.mem_reverse.mp hx), List.reverse_reverse]

end Trim

section Lines

variable {text line found word rest : List Char}

/-- Unifying line ends makes no text longer. -/
theorem length_unifyLineEnds (text : List Char) : (unifyLineEnds text).length ≤ text.length := by
  fun_induction unifyLineEnds text <;> grind

/-- A text without carriage returns has only line feeds as line ends. -/
theorem unifyLineEnds_of_not_mem (h : '\r' ∉ text) : unifyLineEnds text = text := by
  induction text with
  | nil => rfl
  | cons c rest ih =>
    rw [List.mem_cons, not_or] at h
    rw [unifyLineEnds, ih h.2, if_neg (Ne.symm h.1)]
    rintro _ rfl
    exact absurd rfl h.1

/-- No line has a line boundary in it. -/
theorem not_isLineBoundary_of_mem_linesFrom (hline : ∀ c ∈ line, isLineBoundary c = false)
    (hfound : found ∈ linesFrom line text) : ∀ c ∈ found, isLineBoundary c = false := by
  have hreverse : ∀ {line : List Char}, (∀ c ∈ line, isLineBoundary c = false) →
      ∀ c ∈ line.reverse, isLineBoundary c = false :=
    fun hline c hc => hline c (List.mem_reverse.mp hc)
  fun_induction linesFrom line text with
  | case1 => cases hfound
  | case2 => exact List.mem_singleton.mp hfound ▸ hreverse hline
  | case3 line rest ih =>
    rcases List.mem_cons.mp hfound with rfl | hfound
    · exact hreverse hline
    · exact ih (by simp) hfound
  | case4 line c rest _ _ ih =>
    rcases List.mem_cons.mp hfound with rfl | hfound
    · exact hreverse hline
    · exact ih (by simp) hfound
  | case5 line c rest _ hc ih =>
    exact ih (List.forall_mem_cons.mpr ⟨by simpa using hc, hline⟩) hfound

/-- What stands before a line feed is a line. -/
theorem linesFrom_append (hword : ∀ c ∈ word, isLineBoundary c = false) :
    linesFrom line (word ++ '\n' :: rest) = (line.reverse ++ word) :: linesFrom [] rest := by
  induction word generalizing line with
  | nil => simp [linesFrom, isLineBoundary]
  | cons c word ih =>
    obtain ⟨hc, hword⟩ := List.forall_mem_cons.mp hword
    have hreturn : c ≠ '\r' := by
      rintro rfl
      exact absurd hc (by decide)
    rw [List.cons_append, linesFrom, if_neg (by simp [hc]), ih hword]
    · simp
    · exact fun _ heq => absurd heq hreturn

end Lines

end ServiceManifest.Text
