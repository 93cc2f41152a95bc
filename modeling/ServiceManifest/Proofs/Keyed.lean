import Mathlib.Data.List.Nodup
import ServiceManifest.Json.Value
import ServiceManifest.Proofs.Ascending

/-!
# Keyed entries

Putting a name changes the entry of that name and no other. Where no name comes twice, looking up a
name is membership, so sorting entries by name changes no entry.
-/

namespace ServiceManifest.Keyed

variable {α β : Type}

/-- The first entry is found under its name. -/
theorem get?_cons (key : String) (entry : String × α) (rest : Keyed α) :
    get? key (entry :: rest) = if entry.1 = key then some entry.2 else get? key rest := by
  simp only [get?, List.find?_cons]
  split <;> simp_all

/-- A name that was put has the value that was put. -/
@[simp] theorem get?_put_self (key : String) (value : α) (entries : Keyed α) :
    get? key (put key value entries) = some value := by
  induction entries with
  | nil => simp [put, get?]
  | cons entry rest ih =>
    simp only [put]
    split
    · simp [get?]
    · rename_i hne
      simpa [get?, hne] using ih

/-- Putting a name changes no other name. -/
theorem get?_put_of_ne {key other : String} (hne : other ≠ key) (value : α) (entries : Keyed α) :
    get? other (put key value entries) = get? other entries := by
  induction entries with
  | nil => simp [put, get?, hne.symm]
  | cons entry rest ih =>
    simp only [put]
    split
    · rename_i heq
      simp [get?, heq, hne.symm]
    · rw [get?_cons, get?_cons, ih]

/-- What is found under a name after another was put. -/
theorem get?_put (key other : String) (value : α) (entries : Keyed α) :
    get? other (put key value entries) = if other = key then some value else get? other entries := by
  split
  · rename_i heq
    rw [heq, get?_put_self]
  · rename_i hne
    exact get?_put_of_ne hne value entries

/-- An entry that is found is one of the entries. -/
theorem mem_of_get?_eq_some {key : String} {value : α} {entries : Keyed α}
    (hget : get? key entries = some value) : (key, value) ∈ entries := by
  obtain ⟨entry, hfind, hvalue⟩ := Option.map_eq_some_iff.mp hget
  have hkey : entry.1 = key := by simpa using List.find?_some hfind
  have hmem := List.mem_of_find?_eq_some hfind
  rw [← hkey, ← hvalue]
  exact hmem

/-- Where no two members have one key, looking up a key is membership. -/
theorem find?_eq_some_iff_of_nodup [DecidableEq β] {keyOf : α → β} {members : List α}
    (hnodup : (members.map keyOf).Nodup) {key : β} {found : α} :
    members.find? (fun member => keyOf member = key) = some found ↔
      found ∈ members ∧ keyOf found = key := by
  refine ⟨fun hfind => ⟨List.mem_of_find?_eq_some hfind, by simpa using List.find?_some hfind⟩, ?_⟩
  rintro ⟨hfound, rfl⟩
  cases hfind : members.find? (fun member => keyOf member = keyOf found) with
  | none => simpa using List.find?_eq_none.mp hfind found hfound
  | some first =>
    have hkey : keyOf first = keyOf found := by simpa using List.find?_some hfind
    exact congrArg some
      (List.inj_on_of_nodup_map hnodup (List.mem_of_find?_eq_some hfind) hfound hkey)

/-- Where no name comes twice, looking up a name is membership. -/
theorem get?_eq_some_iff {key : String} {value : α} {entries : Keyed α}
    (hnodup : (keys entries).Nodup) : get? key entries = some value ↔ (key, value) ∈ entries := by
  refine ⟨mem_of_get?_eq_some, fun hmem => ?_⟩
  rw [get?, (find?_eq_some_iff_of_nodup hnodup).mpr ⟨hmem, rfl⟩]
  rfl

/-- A name is found exactly if it is one of the names. -/
theorem get?_isSome_iff {key : String} {entries : Keyed α} :
    (get? key entries).isSome ↔ key ∈ keys entries := by
  simp [get?, keys]

/-- A name that is none of the names is not found. -/
theorem get?_eq_none_iff {key : String} {entries : Keyed α} :
    get? key entries = none ↔ key ∉ keys entries := by
  rw [← get?_isSome_iff]
  simp

/-- Having a name is being one of the names. -/
theorem has_iff {key : String} {entries : Keyed α} : has key entries = true ↔ key ∈ keys entries := by
  simp [has, keys]

/-- Putting a name that is new adds it at the end. -/
theorem put_of_not_mem {key : String} {entries : Keyed α} (value : α)
    (hnew : key ∉ keys entries) : put key value entries = entries ++ [(key, value)] := by
  induction entries with
  | nil => rfl
  | cons entry rest ih =>
    rw [keys, List.map_cons, List.mem_cons, not_or] at hnew
    rw [put, if_neg fun heq => hnew.1 heq.symm, ih hnew.2, List.cons_append]

/-- The names after a name was put. -/
theorem mem_keys_put {key other : String} {value : α} {entries : Keyed α} :
    other ∈ keys (put key value entries) ↔ other = key ∨ other ∈ keys entries := by
  rw [← get?_isSome_iff, ← get?_isSome_iff, get?_put]
  split <;> simp_all

/-- Putting a name makes no name come twice. -/
theorem nodup_keys_put (key : String) (value : α) {entries : Keyed α}
    (hnodup : (keys entries).Nodup) : (keys (put key value entries)).Nodup := by
  induction entries with
  | nil => simp [put, keys]
  | cons entry rest ih =>
    have hsplit := List.nodup_cons.mp hnodup
    rw [put]
    split
    · rename_i heq
      subst heq
      exact hnodup
    · rename_i hne
      refine List.nodup_cons.mpr ⟨fun hmem => ?_, ih hsplit.2⟩
      rcases mem_keys_put.mp hmem with heq | hmem
      · exact hne heq
      · exact hsplit.1 hmem

/-- Sorting by name keeps the entries. -/
theorem ascending_perm (entries : Keyed α) : (ascending entries).Perm entries :=
  Ascending.sort_perm _ _

/-- After sorting no name comes twice if none did before. -/
theorem nodup_keys_ascending {entries : Keyed α} (hnodup : (keys entries).Nodup) :
    (keys (ascending entries)).Nodup :=
  ((ascending_perm entries).map Prod.fst).nodup_iff.mpr hnodup

/-- Sorting by name changes no entry. -/
theorem get?_ascending (key : String) {entries : Keyed α} (hnodup : (keys entries).Nodup) :
    get? key (ascending entries) = get? key entries := by
  refine Option.ext fun value => ?_
  rw [get?_eq_some_iff (nodup_keys_ascending hnodup), get?_eq_some_iff hnodup,
    (ascending_perm entries).mem_iff]

/-- An entry that is put in its place stands in front of those with its name. -/
theorem get?_place (key : String) (entry : String × α) (entries : Keyed α) :
    get? key (Ascending.place (fun a b => decide (a.1 < b.1)) entry entries) =
      get? key (entry :: entries) := by
  induction entries with
  | nil => rfl
  | cons first rest ih =>
    rw [Ascending.place]
    split
    · rename_i hbefore
      have hne : first.1 ≠ entry.1 := by
        intro heq
        simp [heq] at hbefore
      rw [get?_cons, ih, get?_cons, get?_cons, get?_cons]
      split
      · rename_i hkey
        rw [if_neg (hkey ▸ hne.symm)]
      · rfl
    · rfl

/-- Sorting by name changes no value that is found, whether or not a name comes twice. -/
theorem get?_ascending_eq (key : String) (entries : Keyed α) :
    get? key (ascending entries) = get? key entries := by
  induction entries with
  | nil => rfl
  | cons entry rest ih =>
    change get? key (Ascending.place _ entry (ascending rest)) = _
    rw [get?_place, get?_cons, get?_cons, ih]

/-- The names after sorting are the names. -/
theorem mem_keys_ascending {key : String} {entries : Keyed α} :
    key ∈ keys (ascending entries) ↔ key ∈ keys entries :=
  ((ascending_perm entries).map Prod.fst).mem_iff

/-- Entries that are sorted by name stay as they are. -/
@[simp] theorem ascending_ascending (entries : Keyed α) :
    ascending (ascending entries) = ascending entries := by
  refine Ascending.sort_eq_self (Ascending.pairwise_sort ?_ ?_ entries)
  · simp only [decide_eq_false_iff_not, String.not_lt]
    exact fun hab hbc => String.le_trans hab hbc
  · simp only [decide_eq_true_eq, decide_eq_false_iff_not]
    exact fun hab => String.lt_asymm hab

/-- Values may be changed before sorting or after. -/
theorem ascending_map (change : α → β) (entries : Keyed α) :
    ascending (entries.map fun entry => (entry.1, change entry.2)) =
      (ascending entries).map fun entry => (entry.1, change entry.2) :=
  Ascending.sort_map (fun entry : String × α => (entry.1, change entry.2)) (fun _ _ => rfl) entries

/-- Looking up a name after changing all values changes the value found. -/
theorem get?_map (change : α → β) (key : String) (entries : Keyed α) :
    get? key (entries.map fun entry => (entry.1, change entry.2)) = (get? key entries).map change := by
  induction entries with
  | nil => rfl
  | cons entry rest ih =>
    rw [List.map_cons, get?_cons, get?_cons, ih]
    split <;> rfl

/-- Put entries one after the other. -/
def putAll (more : List (String × α)) (entries : Keyed α) : Keyed α :=
  more.foldl (fun entries entry => put entry.1 entry.2 entries) entries

/-- Putting entries makes no name come twice. -/
theorem nodup_keys_putAll (more : List (String × α)) {entries : Keyed α}
    (hnodup : (keys entries).Nodup) : (keys (putAll more entries)).Nodup := by
  induction more generalizing entries with
  | nil => exact hnodup
  | cons entry rest ih => exact ih (nodup_keys_put entry.1 entry.2 hnodup)

/-- Of entries with one name that are put, the last counts. -/
theorem get?_putAll (key : String) (more : List (String × α)) (entries : Keyed α) :
    get? key (putAll more entries) = (get? key more.reverse).or (get? key entries) := by
  induction more generalizing entries with
  | nil => rfl
  | cons entry rest ih =>
    have hsnoc : get? key (rest.reverse ++ [entry]) =
        (get? key rest.reverse).or (if entry.1 = key then some entry.2 else none) := by
      simp only [get?, List.find?_append, List.find?_cons, List.find?_nil]
      cases rest.reverse.find? fun found => found.1 = key <;> by_cases hkey : entry.1 = key <;>
        simp [hkey]
    rw [List.reverse_cons, hsnoc, Option.or_assoc]
    refine (ih (put entry.1 entry.2 entries)).trans (congrArg _ ?_)
    rw [get?_put]
    by_cases hkey : entry.1 = key
    · simp [hkey]
    · simp [hkey, Ne.symm hkey]

/-- An entry stays among those that are put if none with its name is put after it. -/
theorem mem_putAll_nil {key : String} {value : α} {more : List (String × α)} :
    (key, value) ∈ putAll more [] ↔
      ∃ before after, more = before ++ (key, value) :: after ∧ key ∉ keys after := by
  have hnodup : (keys (putAll more [])).Nodup := nodup_keys_putAll more List.nodup_nil
  rw [← get?_eq_some_iff hnodup, get?_putAll]
  simp only [get?, List.find?_nil, Option.map_none, Option.or_none, Option.map_eq_some_iff,
    List.find?_eq_some_iff_append]
  constructor
  · rintro ⟨⟨_, _⟩, ⟨hkey, after, before, heq, hafter⟩, rfl⟩
    obtain rfl : _ = key := by simpa using hkey
    refine ⟨before.reverse, after.reverse, ?_, fun hmem => ?_⟩
    · simpa using congrArg List.reverse heq
    · obtain ⟨entry, hentry, hname⟩ := List.mem_map.mp hmem
      simpa [hname] using hafter entry (List.mem_reverse.mp hentry)
  · rintro ⟨before, after, rfl, hafter⟩
    refine ⟨(key, value), ⟨by simp, after.reverse, before.reverse, by simp, fun entry hentry => ?_⟩,
      rfl⟩
    have hne : entry.1 ≠ key := by
      rintro rfl
      exact hafter (List.mem_map_of_mem (List.mem_reverse.mp hentry))
    simpa using hne

/-- Entries without a common name are all kept as they are put. -/
theorem putAll_of_nodup {more : List (String × α)} {entries : Keyed α}
    (hnodup : (keys (entries ++ more)).Nodup) : putAll more entries = entries ++ more := by
  induction more generalizing entries with
  | nil => exact (List.append_nil entries).symm
  | cons entry rest ih =>
    have hnew : entry.1 ∉ keys entries := by
      intro hmem
      rw [keys, List.map_append, List.nodup_append] at hnodup
      exact hnodup.2.2 entry.1 hmem entry.1 (by simp) rfl
    have hput : put entry.1 entry.2 entries = entries ++ [entry] := put_of_not_mem entry.2 hnew
    rw [List.append_cons] at hnodup ⊢
    exact (congrArg (putAll rest) hput).trans (ih hnodup)

end ServiceManifest.Keyed
