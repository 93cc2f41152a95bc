import ServiceManifest.Json.Order
import ServiceManifest.Proofs.Keyed

/-!
# Equal texts, lists of texts and objects

A value equals a text exactly if it is the same, and so for lists of texts. It may equal a switch
without being one, as numbers do, but never both of them. The set of values
that are texts is sorted to the ascending list of these texts.
-/

namespace ServiceManifest.Json

/-- Texts are equal values exactly if they are the same. -/
@[simp] theorem same_string (s t : String) : (Value.string s).same (.string t) = decide (s = t) := by
  simp [Value.same, Value.sameAtom]

/-- Switches are equal values exactly if they are the same. -/
@[simp] theorem same_bool (a b : Bool) : (Value.bool a).same (.bool b) = decide (a = b) := by
  cases a <;> cases b <;> rfl

/-- A value equals a text exactly if it is that text. -/
theorem same_text_iff {value : Value} {text : String} :
    value.same (.string text) = true ↔ value = .string text := by
  cases value <;> simp [Value.same, Value.sameAtom, Value.integer?]

/-- A value equals a list of texts exactly if it is that list. -/
theorem same_texts_iff {value : Value} {texts : List String} :
    value.same (.array (texts.map .string)) = true ↔ value = .array (texts.map .string) := by
  cases value with
  | array items =>
    rw [Value.same, Value.array.injEq]
    induction items generalizing texts with
    | nil => cases texts <;> simp [sameItems]
    | cons item rest ih =>
      cases texts with
      | nil => simp [sameItems]
      | cons text texts => simp [sameItems, ih, same_text_iff, Value.isNaN]
  | _ => simp [Value.same, Value.sameAtom, Value.integer?]

/-- Lists of texts are equal values exactly if they are the same. -/
theorem same_strings {xs ys : List String} :
    (Value.array (xs.map .string)).same (.array (ys.map .string)) = true ↔ xs = ys := by
  have hstring : Function.Injective Value.string := fun _ _ h => Value.string.inj h
  rw [same_texts_iff, Value.array.injEq, List.map_inj_right hstring]

/-- The denominator of a floating number is positive. -/
theorem fraction?_pos {x : Float} {numerator : Int} {denominator : Nat}
    (h : Decimal.fraction? x = some (numerator, denominator)) : 0 < denominator := by
  unfold Decimal.fraction? at h
  simp only at h
  split at h
  · cases h
  · obtain ⟨-, rfl⟩ := Prod.mk.inj (Option.some.inj h)
    unfold Decimal.scale
    split
    · exact Nat.one_pos
    · exact Nat.pow_pos Nat.two_pos

/-- A floating number has the value of one integer at most. -/
theorem eq_of_integerEqualsFloat {m n : Int} {x : Float} (hm : integerEqualsFloat m x = true)
    (hn : integerEqualsFloat n x = true) : m = n := by
  unfold integerEqualsFloat at hm hn
  split at hm
  · rename_i numerator denominator hfraction
    have hpos : (denominator : Int) ≠ 0 :=
      Int.natCast_ne_zero.mpr (Nat.pos_iff_ne_zero.mp (fraction?_pos hfraction))
    simp only [hfraction, decide_eq_true_eq] at hm hn
    exact Int.eq_of_mul_eq_mul_right hpos (hm.symm.trans hn)
  · cases hm

/-- A value equals one switch at most. -/
theorem eq_of_same_bool {value : Value} {a b : Bool} (ha : value.same (.bool a) = true)
    (hb : value.same (.bool b) = true) : a = b := by
  -- as a number a switch is zero or one
  have hnumber (hone : (if a then 1 else 0 : Int) = if b then 1 else 0) : a = b := by
    revert hone
    cases a <;> cases b <;> decide
  cases value with
  | bool c => exact (by simpa using ha : c = a).symm.trans (by simpa using hb)
  | int n =>
    simp only [Value.same, Value.sameAtom, Value.integer?, decide_eq_true_eq] at ha hb
    exact hnumber (ha.symm.trans hb)
  | float x =>
    simp only [Value.same, Value.sameAtom, Value.integer?] at ha hb
    exact hnumber (eq_of_integerEqualsFloat ha hb)
  | _ => simp [Value.same, Value.sameAtom, Value.integer?] at ha

/-- Values that are texts are the texts that they are. -/
theorem eq_map_string {values : List Value} (h : ∀ value ∈ values, value.text?.isSome = true) :
    values = (values.filterMap Value.text?).map .string := by
  induction values with
  | nil => rfl
  | cons value rest ih =>
    have hrest := ih fun other hother => h other (List.mem_cons_of_mem value hother)
    obtain ⟨text, htext⟩ := Option.isSome_iff_exists.mp (h value List.mem_cons_self)
    have hvalue : value = .string text := by
      cases value <;> cases htext
      rfl
    rw [List.filterMap_cons_some htext, List.map_cons, ← hrest, hvalue]

/-- The members of a list of texts that are texts are all of them. -/
theorem textMembers_strings (texts : List String) :
    (Value.array (texts.map .string)).textMembers = .ok texts := by
  have hmembers : (texts.map Value.string).find? (fun value => !value.isMember) = none := by
    simp [Value.isMember, Value.type]
  rw [Value.textMembers, Value.members, hmembers]
  simp [Except.map, List.filterMap_map, Function.comp_def, Value.text?]

/-- Every entry of an object equals one of another exactly if each has an equal value there. -/
theorem sameEntries_iff {xs ys : List (String × Value)} :
    sameEntries xs ys = true ↔ ∀ entry ∈ xs, ∃ value, Keyed.get? entry.1 ys = some value ∧
      entry.2.sameMember value = true := by
  induction xs with
  | nil => simp [sameEntries]
  | cons entry rest ih =>
    obtain ⟨name, value⟩ := entry
    rw [sameEntries, Bool.and_eq_true, ih, List.forall_mem_cons]
    refine and_congr_left fun _ => ?_
    cases Keyed.get? name ys <;> simp [Value.sameMember]

/-- The first of equal texts are kept: the members are the same texts, each of them once. -/
theorem distinct_strings (texts : List String) :
    ∃ names : List String, distinct (texts.map .string) = names.map .string ∧ names.Nodup ∧
      ∀ text, text ∈ names ↔ text ∈ texts := by
  suffices h : ∀ done : List String, done.Nodup → ∃ names : List String,
      (texts.map Value.string).foldl
        (fun done value => if done.any (·.sameMember value) then done else done ++ [value])
          (done.map .string) = names.map .string ∧ names.Nodup ∧
        ∀ text, text ∈ names ↔ text ∈ done ∨ text ∈ texts by
    obtain ⟨names, hnames, hnodup, hmem⟩ := h [] List.nodup_nil
    exact ⟨names, hnames, hnodup, by simpa using hmem⟩
  induction texts with
  | nil => exact fun done hdone => ⟨done, rfl, hdone, by simp⟩
  | cons first rest ih =>
    intro done hdone
    have hany : ((done.map Value.string).any fun value => value.sameMember (.string first)) =
        decide (first ∈ done) := by
      rw [Bool.eq_iff_iff]
      simp [Value.sameMember, Value.isNaN]
    rw [List.map_cons, List.foldl_cons, hany]
    by_cases hfirst : first ∈ done
    · obtain ⟨names, hnames, hnodup, hmem⟩ := ih done hdone
      refine ⟨names, by simpa [hfirst] using hnames, hnodup, fun text => ?_⟩
      rw [hmem, List.mem_cons]
      constructor
      · exact Or.imp_right Or.inr
      · rintro (h | rfl | h)
        · exact Or.inl h
        · exact Or.inl hfirst
        · exact Or.inr h
    · obtain ⟨names, hnames, hnodup, hmem⟩ := ih (done ++ [first])
        (List.nodup_append_comm.mp (List.nodup_cons.mpr ⟨hfirst, hdone⟩))
      refine ⟨names, by simpa [hfirst] using hnames, hnodup, fun text => ?_⟩
      rw [hmem, List.mem_append, List.mem_singleton, List.mem_cons, or_assoc]

/-- The set of texts is sorted to their ascending list. -/
theorem sortedMembers_strings (texts : List String) :
    sortedMembers (texts.map .string) = .ok ((Ascending.texts texts).map .string) := by
  obtain ⟨names, hnames, hnodup, hmem⟩ := distinct_strings texts
  have hmembers : (texts.map Value.string).find? (fun value => !value.isMember) = none := by
    simp [Value.isMember, Value.type]
  have hsorted : Ascending.sort Ascending.textBefore names = Ascending.texts texts :=
    Ascending.sort_eq_ofList Ascending.textBefore_isOrder hnodup hmem
  unfold sortedMembers
  rw [hmembers, hnames, ← hsorted]
  match names with
  | [] => rfl
  | [name] => rfl
  | first :: second :: rest =>
    have hmap := @Ascending.sort_map _ _ Ascending.textBefore
      (fun a b : Value => decide (a.text?.getD "" < b.text?.getD "")) .string (fun _ _ => rfl)
      (first :: second :: rest)
    rw [← hmap]
    simp [Value.isNumber, Value.type, Value.text?]

end ServiceManifest.Json
