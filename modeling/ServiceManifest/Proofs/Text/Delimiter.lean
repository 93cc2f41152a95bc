import Mathlib.Data.List.Perm.Basic
import ServiceManifest.Text.Identifier
import ServiceManifest.Text.Lines
import ServiceManifest.Text.Normal

/-!
# Identifiers have no delimiters

Where names stand in a row, white space, full stops, slashes and number signs tell them apart. No
identifier has such a delimiter in it, and its normal form has none of its own: decompositions take
characters apart, marks change places, and composites take the place of their parts, but no
decomposition of another character holds a delimiter, and no composite is one. The normal form of a
word has characters if the word has.
-/

namespace ServiceManifest.Text

/-- The code points of delimiters in ranges: white space, the number sign, the full stop and the
slash. -/
def delimiters : List (Nat × Nat) :=
  [(9, 13), (0x1C, 0x20), (0x23, 0x23), (0x2E, 0x2F), (0x85, 0x85), (0xA0, 0xA0), (0x1680, 0x1680),
   (0x2000, 0x200A), (0x2028, 0x2029), (0x202F, 0x202F), (0x205F, 0x205F), (0x3000, 0x3000)]

/-- Whether a code point is a delimiter. -/
def isDelimiterCode (code : Nat) : Bool :=
  delimiters.any fun range => range.1 ≤ code && code ≤ range.2

/-- Whether a character is a delimiter. -/
def isDelimiter (c : Char) : Bool := isDelimiterCode c.toNat

/-- White space is a delimiter. -/
theorem isDelimiter_of_isBlank {c : Char} (h : isBlank c = true) : isDelimiter c = true := by
  simp [isBlank, isBlankCode] at h
  simp [isDelimiter, isDelimiterCode, delimiters]
  omega

/-- What ends a line is white space. -/
theorem isBlank_of_isLineBoundary {c : Char} (h : isLineBoundary c = true) : isBlank c = true := by
  simp [isLineBoundary] at h
  simp [isBlank, isBlankCode]
  omega

section Identifier

/-- Whether no range has a delimiter in it. -/
def Ranges.avoidDelimiters (ranges : Ranges) : Bool :=
  ranges.bounds.toList.all fun range =>
    delimiters.all fun delimiter => range.2 < delimiter.1 || delimiter.2 < range.1

variable {ranges : Ranges} {code : Nat}

/-- A code point among ranges lies in one of them. -/
theorem Ranges.exists_of_within {low high : Nat} (h : ranges.within code low high = true) :
    ∃ range ∈ ranges.bounds.toList, range.1 ≤ code ∧ code ≤ range.2 := by
  fun_induction ranges.within code low high with
  | case1 => cases h
  | case2 low high _ first last _ hfound ih => exact ih h
  | case3 low high _ first last _ hfound _ ih => exact ih h
  | case4 low high _ first last hbounds hfirst hlast =>
    exact ⟨_, Array.mem_toList_iff.mpr (Array.mem_of_getElem? hbounds), by simpa using hfirst,
      by simpa using hlast⟩
  | case5 => cases h

/-- A code point among ranges without delimiters is none. -/
theorem Ranges.isDelimiterCode_of_contains (havoid : ranges.avoidDelimiters = true)
    (h : ranges.contains code = true) : isDelimiterCode code = false := by
  obtain ⟨range, hrange, hfirst, hlast⟩ := exists_of_within h
  rw [isDelimiterCode, List.any_eq_false]
  intro delimiter hdelimiter
  have hapart := List.all_eq_true.mp (List.all_eq_true.mp havoid range hrange) delimiter hdelimiter
  simp only [Bool.or_eq_true, decide_eq_true_eq] at hapart
  simp only [Bool.and_eq_true, decide_eq_true_eq]
  omega

/-- From the digits to the small letters of ASCII there is no delimiter. -/
theorem isDelimiter_of_le {c : Char} (h : '0'.toNat ≤ c.toNat ∧ c.toNat ≤ 'z'.toNat) :
    isDelimiter c = false := by
  simp at h
  simp [isDelimiter, isDelimiterCode, delimiters]
  omega

/-- Letters, digits and the underscore are no delimiters. -/
theorem isDelimiter_of_isAlphanum {c : Char} (h : (c.isAlphanum || c = '_') = true) :
    isDelimiter c = false := by
  refine isDelimiter_of_le ?_
  rw [Bool.or_eq_true, decide_eq_true_eq] at h
  rcases h with hc | rfl
  · have hranges : c.isAlphanum = (decide ('A' ≤ c ∧ c ≤ 'Z') ||
        (decide ('a' ≤ c) && decide (c ≤ 'z')) || (decide ('0' ≤ c) && decide (c ≤ '9'))) := rfl
    simp [hranges, Char.le_def, UInt32.le_iff_toNat_le] at hc
    simp
    omega
  · decide

/-- No character with which an identifier goes on is a delimiter. -/
theorem isDelimiter_of_isIdentifierContinue {c : Char} (h : isIdentifierContinue c = true) :
    isDelimiter c = false := by
  unfold isIdentifierContinue at h
  split at h
  · exact isDelimiter_of_isAlphanum h
  · exact Ranges.isDelimiterCode_of_contains (by decide +kernel) h

/-- No character with which an identifier starts is a delimiter. -/
theorem isDelimiter_of_isIdentifierStart {c : Char} (h : isIdentifierStart c = true) :
    isDelimiter c = false := by
  unfold isIdentifierStart at h
  split at h
  · refine isDelimiter_of_isAlphanum ?_
    rw [Bool.or_eq_true] at h ⊢
    exact h.imp_left fun halpha => by simp [Char.isAlphanum, halpha]
  · exact Ranges.isDelimiterCode_of_contains (by decide +kernel) h

/-- No identifier has a delimiter in it. -/
theorem isDelimiter_of_isIdentifier {word : List Char} (h : isIdentifier word = true) :
    ∀ c ∈ word, isDelimiter c = false := by
  cases word with
  | nil => cases h
  | cons first rest =>
    rw [isIdentifier, Bool.and_eq_true, List.all_eq_true] at h
    exact List.forall_mem_cons.mpr ⟨isDelimiter_of_isIdentifierStart h.1,
      fun c hc => isDelimiter_of_isIdentifierContinue (h.2 c hc)⟩

end Identifier

section Normal

/-- Code points without a delimiter among them. -/
def ArePlain (codes : List Nat) : Prop := ∀ code ∈ codes, isDelimiterCode code = false

/-- A value that is looked up in a table stands in it. -/
theorem exists_mem_of_lookupCode? {α : Type} {table : Array (Nat × α)} {code : Nat} {value : α}
    (h : lookupCode? table code = some value) : ∃ entry ∈ table.toList, entry.2 = value := by
  unfold lookupCode? at h
  split at h
  · rename_i found other hentry
    split at h
    · obtain rfl := Option.some.inj h
      exact ⟨_, Array.mem_toList_iff.mpr (Array.mem_of_getElem? hentry), rfl⟩
    · cases h
  · cases h

/-- No character is taken apart into nothing, or into parts with a delimiter. -/
theorem decompositionTable_spec :
    ∀ entry ∈ decompositionTable.toList, entry.2 ≠ [] ∧ ArePlain entry.2 := by
  have hall : (decompositionTable.toList.all fun entry =>
      !entry.2.isEmpty && entry.2.all (!isDelimiterCode ·)) = true := by decide +kernel
  intro entry hentry
  simpa [ArePlain] using List.all_eq_true.mp hall entry hentry

/-- No composite is a delimiter. -/
theorem compositeTable_spec :
    ∀ entry ∈ compositeTable.toList, isDelimiterCode entry.2.2 = false := by
  have hall : (compositeTable.toList.all fun entry => !isDelimiterCode entry.2.2) = true := by
    decide +kernel
  exact fun entry hentry => by simpa using List.all_eq_true.mp hall entry hentry

/-- Hangul letters and syllables are no delimiters. -/
theorem isDelimiterCode_of_hangul {code : Nat} (h : 0x1100 ≤ code ∧ code < 0x1200 ∨ 0xAC00 ≤ code) :
    isDelimiterCode code = false := by
  simp [isDelimiterCode, delimiters]
  omega

/-- What a code point is taken apart into is something, and has no delimiter unless it is one. -/
theorem decompose_spec (code : Nat) :
    decompose code ≠ [] ∧ (isDelimiterCode code = false → ArePlain (decompose code)) := by
  unfold decompose
  split
  · exact ⟨List.cons_ne_nil _ _, fun h => List.forall_mem_singleton.mpr h⟩
  split
  · rename_i hsyllable
    refine ⟨by simp [hangulParts], fun _ part hpart => isDelimiterCode_of_hangul ?_⟩
    unfold hangulParts at hpart
    split at hpart <;> simp at hpart <;> omega
  · cases hfound : lookupCode? decompositionTable code with
    | none => exact ⟨List.cons_ne_nil _ _, fun h => List.forall_mem_singleton.mpr h⟩
    | some parts =>
      obtain ⟨entry, hentry, rfl⟩ := exists_mem_of_lookupCode? hfound
      exact ⟨(decompositionTable_spec entry hentry).1, fun _ => (decompositionTable_spec entry hentry).2⟩

/-- A mark that is put in order is added to the others. -/
theorem insertMark_perm (code : Nat) (codes : List Nat) :
    (insertMark code codes).Perm (code :: codes) := by
  induction codes with
  | nil => exact .refl _
  | cons next rest ih =>
    unfold insertMark
    split
    · exact (ih.cons next).trans (.swap code next rest)
    · exact .refl _

/-- Marks that are put in order stay what they are. -/
theorem orderMarks_perm (codes : List Nat) : (orderMarks codes).Perm codes := by
  induction codes with
  | nil => exact .refl _
  | cons code rest ih => exact (insertMark_perm code _).trans (ih.cons code)

/-- Two code points are not joined to a delimiter. -/
theorem isDelimiterCode_of_composite? {first second joined : Nat}
    (h : composite? first second = some joined) : isDelimiterCode joined = false := by
  unfold composite? at h
  split at h
  · obtain rfl := Option.some.inj h
    exact isDelimiterCode_of_hangul (Or.inr (by omega))
  split at h
  · obtain rfl := Option.some.inj h
    exact isDelimiterCode_of_hangul (Or.inr (by omega))
  · obtain ⟨entry, hentry, rfl⟩ := Option.map_eq_some_iff.mp h
    exact compositeTable_spec entry (Array.mem_toList_iff.mpr (Array.mem_of_find?_eq_some hentry))

/-- Joining what follows a starter leaves something, and no delimiter where there was none. -/
theorem joinFrom_spec (starter : Nat) (kept codes : List Nat) :
    joinFrom starter kept codes ≠ [] ∧
      (isDelimiterCode starter = false → ArePlain kept → ArePlain codes →
        ArePlain (joinFrom starter kept codes)) := by
  have hend {starter : Nat} {kept : List Nat} (hstarter : isDelimiterCode starter = false)
      (hkept : ArePlain kept) : ArePlain (starter :: kept.reverse) :=
    List.forall_mem_cons.mpr ⟨hstarter, fun code hcode => hkept code (List.mem_reverse.mp hcode)⟩
  induction codes generalizing starter kept with
  | nil => exact ⟨List.cons_ne_nil _ _, fun hstarter hkept _ => hend hstarter hkept⟩
  | cons code rest ih =>
    simp only [joinFrom]
    split
    · rename_i joined hjoined
      have hplain := isDelimiterCode_of_composite? (Option.ite_none_right_eq_some.mp hjoined).2
      exact ⟨(ih joined kept).1, fun _ hkept hcodes =>
        (ih joined kept).2 hplain hkept (List.forall_mem_cons.mp hcodes).2⟩
    · split
      · refine ⟨by simp, fun hstarter hkept hcodes => ?_⟩
        obtain ⟨hcode, hrest⟩ := List.forall_mem_cons.mp hcodes
        exact List.forall_mem_append.mpr
          ⟨hend hstarter hkept, (ih code []).2 hcode (List.forall_mem_nil _) hrest⟩
      · refine ⟨(ih _ _).1, fun hstarter hkept hcodes => ?_⟩
        obtain ⟨hcode, hrest⟩ := List.forall_mem_cons.mp hcodes
        exact (ih _ _).2 hstarter (List.forall_mem_cons.mpr ⟨hcode, hkept⟩) hrest

/-- Joining all starters leaves something of what there is, and no delimiter where there was none. -/
theorem joinMarks_spec (codes : List Nat) :
    (codes ≠ [] → joinMarks codes ≠ []) ∧ (ArePlain codes → ArePlain (joinMarks codes)) := by
  induction codes with
  | nil => exact ⟨id, id⟩
  | cons code rest ih =>
    simp only [joinMarks]
    split
    · refine ⟨fun _ => (joinFrom_spec code [] rest).1, fun h => ?_⟩
      obtain ⟨hcode, hrest⟩ := List.forall_mem_cons.mp h
      exact (joinFrom_spec code [] rest).2 hcode (List.forall_mem_nil _) hrest
    · refine ⟨fun _ => List.cons_ne_nil _ _, fun h => ?_⟩
      obtain ⟨hcode, hrest⟩ := List.forall_mem_cons.mp h
      exact List.forall_mem_cons.mpr ⟨hcode, ih.2 hrest⟩

/-- A character is a delimiter only if its code point is one, in writing or not. -/
theorem isDelimiter_ofNat {code : Nat} (h : isDelimiterCode code = false) :
    isDelimiter (Char.ofNat code) = false := by
  by_cases hvalid : code.isValidChar
  · have hchar : Char.ofNat code = Char.ofNatAux code hvalid := dif_pos hvalid
    rw [hchar]
    exact h
  · have hchar : Char.ofNat code = '\x00' := dif_neg hvalid
    rw [hchar]
    decide

/-- The normal form of a word that has characters, none of them a delimiter, has characters, none of
them a delimiter. -/
theorem normalForm_spec {word : List Char} (hword : word ≠ [])
    (hplain : ∀ c ∈ word, isDelimiter c = false) :
    normalForm word ≠ [] ∧ ∀ c ∈ normalForm word, isDelimiter c = false := by
  unfold normalForm
  split
  · exact ⟨hword, hplain⟩
  have hcodes : ArePlain ((word.map Char.toNat).flatMap decompose) := by
    intro part hpart
    obtain ⟨code, hcode, hpart⟩ := List.mem_flatMap.mp hpart
    obtain ⟨c, hc, rfl⟩ := List.mem_map.mp hcode
    exact (decompose_spec c.toNat).2 (hplain c hc) part hpart
  have hordered := orderMarks_perm ((word.map Char.toNat).flatMap decompose)
  obtain ⟨hsome, hnone⟩ := joinMarks_spec (orderMarks ((word.map Char.toNat).flatMap decompose))
  constructor
  · rw [Ne, List.map_eq_nil_iff]
    refine hsome fun hnil => ?_
    obtain ⟨c, rest, rfl⟩ := List.exists_cons_of_ne_nil hword
    have hempty := hnil ▸ hordered
    simp [(decompose_spec c.toNat).1] at hempty
  · intro c hc
    obtain ⟨code, hcode, rfl⟩ := List.mem_map.mp hc
    exact isDelimiter_ofNat
      (hnone (fun part hpart => hcodes part (hordered.mem_iff.mp hpart)) code hcode)

end Normal

end ServiceManifest.Text
