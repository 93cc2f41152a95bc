import ServiceManifest.Proofs.Json.Strings
import ServiceManifest.Proofs.Keyed

/-!
# Documents that are written and read again

A document without numbers, whose objects have no name twice and which is not nested too deep, is
read from its indented layout to the same document, with the entries of every object by ascending
name. Whatever is read, no object in it has a name twice.
-/

namespace ServiceManifest.Json

mutual

/-- A value with the entries of every object by ascending name. -/
def Value.ordered : Value → Value
  | .array items => .array (orderedItems items)
  | .object entries => .object (Keyed.ascending (orderedEntries entries))
  | atom => atom

/-- Items, each of them ordered. -/
def orderedItems : List Value → List Value
  | [] => []
  | item :: rest => item.ordered :: orderedItems rest

/-- Entries, each of them with an ordered value. -/
def orderedEntries : List (String × Value) → List (String × Value)
  | [] => []
  | (name, value) :: rest => (name, value.ordered) :: orderedEntries rest

end

/-- Ordering items orders each. -/
theorem orderedItems_eq_map (items : List Value) : orderedItems items = items.map Value.ordered := by
  induction items with
  | nil => rfl
  | cons item rest ih => rw [orderedItems, ih, List.map_cons]

/-- Ordering entries orders the value of each. -/
theorem orderedEntries_eq_map (entries : List (String × Value)) :
    orderedEntries entries = entries.map fun entry => (entry.1, entry.2.ordered) := by
  induction entries with
  | nil => rfl
  | cons entry rest ih => rw [orderedEntries, ih, List.map_cons]

/-- Items are laid out one by one. -/
theorem renderBlockItems_eq_map (level : Nat) (items : List Value) :
    renderBlockItems level items = items.map (renderBlock level) := by
  induction items with
  | nil => rfl
  | cons item rest ih => rw [renderBlockItems, ih, List.map_cons]

/-- The values of entries are laid out one by one. -/
theorem renderBlockEntries_eq_map (level : Nat) (entries : List (String × Value)) :
    renderBlockEntries level entries =
      entries.map fun entry => (entry.1, renderBlock level entry.2) := by
  induction entries with
  | nil => rfl
  | cons entry rest ih => rw [renderBlockEntries, ih, List.map_cons]

mutual

/-- A value is written like its ordered form, since names are written in ascending order. -/
theorem renderBlock_ordered (level : Nat) : ∀ value : Value,
    renderBlock level value.ordered = renderBlock level value
  | .array items => by
    rw [Value.ordered, renderBlock, renderBlock, renderBlockItems_ordered (level + 1) items]
  | .object entries => by
    rw [Value.ordered, renderBlock, renderBlock, renderBlockEntries_eq_map, ← Keyed.ascending_map,
      ← renderBlockEntries_eq_map, renderBlockEntries_ordered (level + 1) entries,
      Keyed.ascending_ascending]
  | .null | .bool _ | .int _ | .float _ | .string _ => rfl

/-- Items are written like their ordered forms. -/
theorem renderBlockItems_ordered (level : Nat) : ∀ items : List Value,
    renderBlockItems level (orderedItems items) = renderBlockItems level items
  | [] => rfl
  | item :: rest => by
    rw [orderedItems, renderBlockItems, renderBlockItems, renderBlock_ordered level item,
      renderBlockItems_ordered level rest]

/-- Entries are written like those with ordered values. -/
theorem renderBlockEntries_ordered (level : Nat) : ∀ entries : List (String × Value),
    renderBlockEntries level (orderedEntries entries) = renderBlockEntries level entries
  | [] => rfl
  | (name, value) :: rest => by
    rw [orderedEntries, renderBlockEntries, renderBlockEntries, renderBlock_ordered level value,
      renderBlockEntries_ordered level rest]

end

/-- A value that is read as it was written: it has no numbers, no object in it has a name twice, and
at most so many collections are nested in it. -/
inductive Value.Readable : Nat → Value → Prop
  | null (depth : Nat) : Readable depth .null
  | bool (depth : Nat) (value : Bool) : Readable depth (.bool value)
  | string (depth : Nat) (value : String) : Readable depth (.string value)
  | array {depth : Nat} {items : List Value} (hitems : ∀ item ∈ items, Readable depth item) :
      Readable (depth + 1) (.array items)
  | object {depth : Nat} {entries : List (String × Value)} (hnodup : (Keyed.keys entries).Nodup)
      (hentries : ∀ entry ∈ entries, Readable depth entry.2) :
      Readable (depth + 1) (.object entries)

/-- A text that is read as a value, whatever follows it: it starts with something that is neither a
space nor the end of an array nor a byte order mark. -/
structure ReadsAs (depth : Nat) (text : List Char) (value : Value) : Prop where
  head : ∃ c more, text = c :: more ∧ isSpace c = false ∧ c ≠ ']' ∧ c ≠ '\uFEFF'
  read : ∀ fuel rest, text.length < fuel →
    readValue fuel depth (text ++ rest) = .ok (value, rest)

section Space

/-- Spaces in front of anything are skipped. -/
theorem skipSpace_append {gap : List Char} (hgap : ∀ c ∈ gap, isSpace c = true) (text : List Char) :
    skipSpace (gap ++ text) = skipSpace text := by
  induction gap with
  | nil => rfl
  | cons c gap ih =>
    have hrest : ∀ d ∈ gap, isSpace d = true := fun d hd => hgap d (List.mem_cons_of_mem c hd)
    rw [List.cons_append, skipSpace, List.dropWhile_cons, if_pos (hgap c List.mem_cons_self)]
    exact ih hrest

/-- Nothing is skipped in front of something that is no space. -/
theorem skipSpace_cons {c : Char} (hc : isSpace c = false) (text : List Char) :
    skipSpace (c :: text) = c :: text := by
  rw [skipSpace, List.dropWhile_cons, if_neg (by simp [hc])]

/-- Nothing is skipped in front of a text that is read as a value. -/
theorem ReadsAs.skipSpace_append {depth : Nat} {text : List Char} {value : Value}
    (h : ReadsAs depth text value) (rest : List Char) : skipSpace (text ++ rest) = text ++ rest := by
  obtain ⟨c, more, rfl, hc, -, -⟩ := h.head
  exact skipSpace_cons hc _

/-- The indentation of a line is space. -/
theorem isSpace_of_mem_breakLine {level : Nat} {c : Char} (h : c ∈ (breakLine level).toList) :
    isSpace c = true := by
  simp only [breakLine, String.toList_ofList, List.mem_cons, List.mem_replicate] at h
  rcases h with rfl | ⟨-, rfl⟩ <;> rfl

end Space

section Pieces

variable {depth : Nat} {gap close : List Char}

/-- The further pieces of a collection: each stands behind a comma and a gap. -/
def further (gap : List Char) (pieces : List (List Char)) : List Char :=
  pieces.flatMap fun piece => ',' :: (gap ++ piece)

/-- Texts that are read as values are read as the items of an array. -/
theorem readItems_pieces (hgap : ∀ c ∈ gap, isSpace c = true)
    (hclose : ∀ c ∈ close, isSpace c = true) (pairs : List (List Char × Value))
    (first : List Char × Value) (hpairs : ∀ pair ∈ first :: pairs, ReadsAs depth pair.1 pair.2)
    (fuel : Nat) (done : List Value) (rest : List Char)
    (hfuel : first.1.length + (further gap (pairs.map (·.1))).length + 1 < fuel) :
    readItems fuel depth done
        (first.1 ++ (further gap (pairs.map (·.1)) ++ (close ++ ']' :: rest))) =
      .ok (.array (done.reverse ++ (first :: pairs).map (·.2)), rest) := by
  induction pairs generalizing first fuel done with
  | nil =>
    obtain ⟨less, rfl⟩ : ∃ less, fuel = less + 1 := ⟨fuel - 1, by omega⟩
    rw [readItems, (hpairs first List.mem_cons_self).read less _ (by omega)]
    simp only [further, List.map_nil, List.flatMap_nil, List.nil_append, skipSpace_append hclose,
      skipSpace_cons (show isSpace ']' = false from rfl)]
    simp
  | cons second pairs ih =>
    obtain ⟨less, rfl⟩ : ∃ less, fuel = less + 1 := ⟨fuel - 1, by omega⟩
    have hmore : ∀ pair ∈ second :: pairs, ReadsAs depth pair.1 pair.2 :=
      fun pair hpair => hpairs pair (List.mem_cons_of_mem first hpair)
    have hlength : (further gap ((second :: pairs).map (·.1))).length =
        1 + gap.length + second.1.length + (further gap (pairs.map (·.1))).length := by
      simp [further]
      omega
    have hsplit : further gap ((second :: pairs).map (·.1)) ++ (close ++ ']' :: rest) =
        ',' :: (gap ++ (second.1 ++ (further gap (pairs.map (·.1)) ++ (close ++ ']' :: rest)))) := by
      simp [further]
    rw [readItems, (hpairs first List.mem_cons_self).read less _ (by omega), hsplit]
    simp only [skipSpace_cons (show isSpace ',' = false from rfl), skipSpace_append hgap,
      (hmore second List.mem_cons_self).skipSpace_append]
    rw [ih second hmore less (first.2 :: done) (by omega)]
    simp

/-- A name and a text as they stand in an object. -/
def member (name : String) (text : List Char) : List Char :=
  (renderString name).toList ++ ':' :: ' ' :: text

/-- A member starts with a quote. -/
theorem member_eq_cons (name : String) (text : List Char) :
    ∃ more, member name text = '\x22' :: more := by
  simp [member, renderString]

/-- The text of a member is longer than that of its value. -/
theorem length_lt_member (name : String) (text : List Char) :
    text.length < (member name text).length := by
  simp only [member, List.length_append, List.length_cons]
  omega

/-- A name and a text that is read as a value are read as the next entry of an object. -/
theorem readEntries_member {text : List Char} {value : Value} (h : ReadsAs depth text value)
    (name : String) {fuel : Nat} (hfuel : text.length < fuel) (done : Keyed Value)
    (tail : List Char) :
    readEntries (fuel + 1) depth done (member name text ++ tail) =
      match skipSpace tail with
      | '}' :: after => .ok (.object (Keyed.put name value done), after)
      | ',' :: after => readEntries fuel depth (Keyed.put name value done) (skipSpace after)
      | other => .error (.defect .expectingComma other) := by
  have hread : readString (member name text ++ tail) = .ok (name, ':' :: ' ' :: (text ++ tail)) := by
    rw [member, List.append_assoc]
    exact readString_renderString name _
  obtain ⟨more, hmore⟩ := member_eq_cons name text
  rw [hmore, List.cons_append] at hread ⊢
  rw [readEntries, hread]
  have hvalue : readValue fuel depth (skipSpace (' ' :: (text ++ tail))) = .ok (value, tail) := by
    rw [show skipSpace (' ' :: (text ++ tail)) = skipSpace (text ++ tail) from rfl,
      h.skipSpace_append, h.read fuel tail hfuel]
  simp only [skipSpace_cons (show isSpace ':' = false from rfl)]
  exact hvalue ▸ rfl

/-- Names with texts that are read as values are read as the entries of an object. -/
theorem readEntries_pieces (hgap : ∀ c ∈ gap, isSpace c = true)
    (hclose : ∀ c ∈ close, isSpace c = true) (entries : List (String × List Char × Value))
    (first : String × List Char × Value)
    (hentries : ∀ entry ∈ first :: entries, ReadsAs depth entry.2.1 entry.2.2)
    (fuel : Nat) (done : Keyed Value) (rest : List Char)
    (hnodup : (Keyed.keys done ++ (first :: entries).map (·.1)).Nodup)
    (hfuel : (member first.1 first.2.1).length +
      (further gap (entries.map fun entry => member entry.1 entry.2.1)).length < fuel) :
    readEntries fuel depth done (member first.1 first.2.1 ++
        (further gap (entries.map fun entry => member entry.1 entry.2.1) ++
          (close ++ '}' :: rest))) =
      .ok (.object (done ++ (first :: entries).map fun entry => (entry.1, entry.2.2)), rest) := by
  induction entries generalizing first fuel done with
  | nil =>
    have hnew : first.1 ∉ Keyed.keys done := fun hmem =>
      List.disjoint_of_nodup_append hnodup hmem List.mem_cons_self
    have htext := length_lt_member first.1 first.2.1
    obtain ⟨less, rfl⟩ : ∃ less, fuel = less + 1 := ⟨fuel - 1, by omega⟩
    rw [readEntries_member (hentries first List.mem_cons_self) first.1 (by omega)]
    simp only [further, List.map_nil, List.flatMap_nil, List.nil_append, skipSpace_append hclose,
      skipSpace_cons (show isSpace '}' = false from rfl), Keyed.put_of_not_mem _ hnew]
    simp
  | cons second entries ih =>
    have hnew : first.1 ∉ Keyed.keys done := fun hmem =>
      List.disjoint_of_nodup_append hnodup hmem List.mem_cons_self
    have htext := length_lt_member first.1 first.2.1
    obtain ⟨less, rfl⟩ : ∃ less, fuel = less + 1 := ⟨fuel - 1, by omega⟩
    have hmore : ∀ entry ∈ second :: entries, ReadsAs depth entry.2.1 entry.2.2 :=
      fun entry hentry => hentries entry (List.mem_cons_of_mem first hentry)
    have hlength : (further gap ((second :: entries).map fun entry =>
        member entry.1 entry.2.1)).length = 1 + gap.length + (member second.1 second.2.1).length +
          (further gap (entries.map fun entry => member entry.1 entry.2.1)).length := by
      simp [further]
      omega
    have hsplit : further gap ((second :: entries).map fun entry => member entry.1 entry.2.1) ++
        (close ++ '}' :: rest) = ',' :: (gap ++ (member second.1 second.2.1 ++
          (further gap (entries.map fun entry => member entry.1 entry.2.1) ++
            (close ++ '}' :: rest)))) := by
      simp [further]
    have hquote (tail : List Char) : skipSpace (member second.1 second.2.1 ++ tail) =
        member second.1 second.2.1 ++ tail := by
      obtain ⟨more, hmore⟩ := member_eq_cons second.1 second.2.1
      rw [hmore, List.cons_append, skipSpace_cons rfl]
    have hdone : Keyed.keys (done ++ [(first.1, first.2.2)]) ++ (second :: entries).map (·.1) =
        Keyed.keys done ++ (first :: second :: entries).map (·.1) := by
      simp [Keyed.keys]
    rw [readEntries_member (hentries first List.mem_cons_self) first.1 (by omega), hsplit]
    simp only [skipSpace_cons (show isSpace ',' = false from rfl), skipSpace_append hgap, hquote,
      Keyed.put_of_not_mem _ hnew]
    rw [← hdone] at hnodup
    rw [ih second hmore less (done ++ [(first.1, first.2.2)]) hnodup (by omega)]
    simp

end Pieces

section Block

/-- Pieces in the indented layout: the first, and the others behind commas. -/
theorem toList_block {first last : String} {level : Nat} (piece : String) (pieces : List String) :
    (block first last level (piece :: pieces)).toList =
      first.toList ++ ((breakLine (level + 1)).toList ++ (piece.toList ++
        (further (breakLine (level + 1)).toList (pieces.map String.toList) ++
          ((breakLine level).toList ++ last.toList)))) := by
  have hpieces : (("," ++ breakLine (level + 1)).intercalate (piece :: pieces)).toList =
      piece.toList ++ further (breakLine (level + 1)).toList (pieces.map String.toList) := by
    induction pieces generalizing piece with
    | nil => simp [further]
    | cons second pieces ih =>
      rw [String.intercalate_cons_cons, String.toList_append, ih]
      simp [further]
  simp only [block, List.isEmpty_cons, Bool.false_eq_true, if_false, String.toList_append, hpieces,
    List.append_assoc]

/-- A word that stands for a value is read as the value. -/
theorem readsAs_word (depth : Nat) {text : List Char} {c : Char} {value : Value}
    (htext : text.head? = some c) (hspace : isSpace c = false)
    (hc : c ∉ ['\x22', '{', '[', ']', '\uFEFF'])
    (hword : ∀ rest, readWord (text ++ rest) = .ok (value, rest)) : ReadsAs depth text value := by
  obtain ⟨more, rfl⟩ := List.head?_eq_some_iff.mp htext
  simp only [List.mem_cons, List.not_mem_nil, or_false, not_or] at hc
  refine ⟨⟨c, more, rfl, hspace, hc.2.2.2⟩, fun fuel rest hfuel => ?_⟩
  obtain ⟨less, rfl⟩ : ∃ less, fuel = less + 1 := ⟨fuel - 1, by simp at hfuel; omega⟩
  rw [← hword rest, List.cons_append, readValue]
  · nofun
  · rintro _ ⟨⟩
    exact hc.1 rfl
  · rintro _ ⟨⟩
    exact hc.2.1 rfl
  · rintro _ ⟨⟩
    exact hc.2.2.1 rfl

/-- The word for nothing. -/
theorem readsAs_null (depth : Nat) : ReadsAs depth "null".toList .null := by
  have hchars : "null".toList = ['n', 'u', 'l', 'l'] := by simp
  rw [hchars]
  refine readsAs_word depth rfl (by decide) (by decide) fun rest => ?_
  have hnull : "null".toList.isPrefixOf (['n', 'u', 'l', 'l'] ++ rest) = true := by simp
  have hdrop : (['n', 'u', 'l', 'l'] ++ rest).drop "null".length = rest := rfl
  simp only [readWord, hnull, hdrop, if_true, HOrElse.hOrElse, OrElse.orElse, Option.orElse]

/-- The word for what is true. -/
theorem readsAs_true (depth : Nat) : ReadsAs depth "true".toList (.bool true) := by
  have hchars : "true".toList = ['t', 'r', 'u', 'e'] := by simp
  rw [hchars]
  refine readsAs_word depth rfl (by decide) (by decide) fun rest => ?_
  have hnull : "null".toList.isPrefixOf (['t', 'r', 'u', 'e'] ++ rest) = false := by
    simp [List.isPrefixOf]
  have htrue : "true".toList.isPrefixOf (['t', 'r', 'u', 'e'] ++ rest) = true := by simp
  have hdrop : (['t', 'r', 'u', 'e'] ++ rest).drop "true".length = rest := rfl
  simp only [readWord, hnull, htrue, hdrop, if_true, Bool.false_eq_true, if_false,
    HOrElse.hOrElse, OrElse.orElse, Option.orElse]

/-- The word for what is false. -/
theorem readsAs_false (depth : Nat) : ReadsAs depth "false".toList (.bool false) := by
  have hchars : "false".toList = ['f', 'a', 'l', 's', 'e'] := by simp
  rw [hchars]
  refine readsAs_word depth rfl (by decide) (by decide) fun rest => ?_
  have hnull : "null".toList.isPrefixOf (['f', 'a', 'l', 's', 'e'] ++ rest) = false := by
    simp [List.isPrefixOf]
  have htrue : "true".toList.isPrefixOf (['f', 'a', 'l', 's', 'e'] ++ rest) = false := by
    simp [List.isPrefixOf]
  have hfalse : "false".toList.isPrefixOf (['f', 'a', 'l', 's', 'e'] ++ rest) = true := by simp
  have hdrop : (['f', 'a', 'l', 's', 'e'] ++ rest).drop "false".length = rest := rfl
  simp only [readWord, hnull, htrue, hfalse, hdrop, if_true, Bool.false_eq_true, if_false,
    HOrElse.hOrElse, OrElse.orElse, Option.orElse]

/-- A string that was written is read as the string. -/
theorem readsAs_renderString (depth : Nat) (s : String) :
    ReadsAs depth (renderString s).toList (.string s) := by
  have htext : ∃ more, (renderString s).toList = '\x22' :: more := by simp [renderString]
  obtain ⟨more, htext⟩ := htext
  refine ⟨⟨'\x22', more, htext, by decide, by decide, by decide⟩, fun fuel rest hfuel => ?_⟩
  obtain ⟨less, rfl⟩ : ∃ less, fuel = less + 1 := ⟨fuel - 1, by omega⟩
  have hread := readString_renderString s rest
  rw [htext, List.cons_append] at hread ⊢
  rw [readValue, hread]
  rfl

/-- An array with something in it is read by its items. -/
theorem readValue_array {fuel depth : Nat} {gap text : List Char} {c : Char}
    (hgap : ∀ c ∈ gap, isSpace c = true) (hc : isSpace c = false) (hclose : c ≠ ']') :
    readValue (fuel + 1) (depth + 1) ('[' :: (gap ++ c :: text)) =
      readItems fuel depth [] (c :: text) := by
  rw [readValue]
  simp only [skipSpace_append hgap, skipSpace_cons hc]
  split
  · rename_i heq
    exact absurd (List.cons.inj heq).1 hclose
  · rfl

/-- Texts that are read as values are read as an array. -/
theorem readsAs_array {depth level : Nat} {texts : List String} {pairs : List (List Char × Value)}
    (htexts : texts.map String.toList = pairs.map (·.1))
    (h : ∀ pair ∈ pairs, ReadsAs depth pair.1 pair.2) :
    ReadsAs (depth + 1) (block "[" "]" level texts).toList (.array (pairs.map (·.2))) := by
  cases pairs with
  | nil =>
    obtain rfl : texts = [] := List.map_eq_nil_iff.mp htexts
    have htext : (block "[" "]" level []).toList = ['[', ']'] := by simp [block]
    rw [htext]
    refine ⟨⟨'[', [']'], rfl, by decide, by decide, by decide⟩, fun fuel rest hfuel => ?_⟩
    obtain ⟨less, rfl⟩ : ∃ less, fuel = less + 1 := ⟨fuel - 1, by omega⟩
    rfl
  | cons first pairs =>
    obtain ⟨text, texts, rfl, hfirst, hrest⟩ := List.map_eq_cons_iff.mp htexts
    have hopen : "[".toList = ['['] := by simp
    have hclose : "]".toList = [']'] := by simp
    rw [toList_block, hopen, hclose, hfirst, hrest, List.singleton_append]
    refine ⟨⟨'[', _, rfl, by decide, by decide, by decide⟩, fun fuel rest hfuel => ?_⟩
    obtain ⟨less, rfl⟩ : ∃ less, fuel = less + 1 := ⟨fuel - 1, by omega⟩
    simp only [List.length_cons, List.length_append] at hfuel
    have hitems := readItems_pieces (fun c => @isSpace_of_mem_breakLine (level + 1) c)
      (fun c => @isSpace_of_mem_breakLine level c) pairs first h less [] rest (by omega)
    obtain ⟨c, more, htext, hspace, hend, -⟩ := (h first List.mem_cons_self).head
    simp only [htext, List.cons_append, List.append_assoc, List.nil_append] at hitems ⊢
    rw [readValue_array (fun c => isSpace_of_mem_breakLine) hspace hend, hitems]
    rfl

/-- An object with something in it is read by its entries. -/
theorem readValue_object {fuel depth : Nat} {gap text : List Char} {name : String}
    {value : List Char} (hgap : ∀ c ∈ gap, isSpace c = true) :
    readValue (fuel + 1) (depth + 1) ('{' :: (gap ++ (member name value ++ text))) =
      readEntries fuel depth [] (member name value ++ text) := by
  obtain ⟨more, hmember⟩ := member_eq_cons name value
  rw [readValue, hmember, List.cons_append]
  simp only [skipSpace_append hgap, skipSpace_cons (show isSpace '\x22' = false from rfl)]
  rfl

/-- Names with texts that are read as values are read as an object. -/
theorem readsAs_object {depth level : Nat} {texts : List String}
    {entries : List (String × List Char × Value)}
    (htexts : texts.map String.toList = entries.map fun entry => member entry.1 entry.2.1)
    (hnodup : (entries.map (·.1)).Nodup)
    (h : ∀ entry ∈ entries, ReadsAs depth entry.2.1 entry.2.2) :
    ReadsAs (depth + 1) (block "\x7b" "\x7d" level texts).toList
      (.object (entries.map fun entry => (entry.1, entry.2.2))) := by
  have hopen : "\x7b".toList = ['{'] := by simp
  have hclose : "\x7d".toList = ['}'] := by simp
  cases entries with
  | nil =>
    obtain rfl : texts = [] := List.map_eq_nil_iff.mp htexts
    have htext : (block "\x7b" "\x7d" level []).toList = ['{', '}'] := by simp [block]
    rw [htext]
    refine ⟨⟨'{', ['}'], rfl, by decide, by decide, by decide⟩, fun fuel rest hfuel => ?_⟩
    obtain ⟨less, rfl⟩ : ∃ less, fuel = less + 1 := ⟨fuel - 1, by omega⟩
    rfl
  | cons first entries =>
    obtain ⟨text, texts, rfl, hfirst, hrest⟩ := List.map_eq_cons_iff.mp htexts
    rw [toList_block, hopen, hclose, hfirst, hrest, List.singleton_append]
    refine ⟨⟨'{', _, rfl, by decide, by decide, by decide⟩, fun fuel rest hfuel => ?_⟩
    obtain ⟨less, rfl⟩ : ∃ less, fuel = less + 1 := ⟨fuel - 1, by omega⟩
    simp only [List.length_cons, List.length_append] at hfuel
    have hentries := readEntries_pieces (fun c => @isSpace_of_mem_breakLine (level + 1) c)
      (fun c => @isSpace_of_mem_breakLine level c) entries first h less [] rest
      (by simpa [Keyed.keys] using hnodup) (by omega)
    simp only [List.cons_append, List.append_assoc, List.nil_append] at hentries ⊢
    rw [readValue_object (fun c => isSpace_of_mem_breakLine), hentries]

/-- A value without numbers is read as it was written. -/
theorem readsAs_renderBlock {depth : Nat} {value : Value} (h : value.Readable depth) (level : Nat) :
    ReadsAs depth (renderBlock level value).toList value.ordered := by
  induction h generalizing level with
  | null depth => exact readsAs_null depth
  | bool depth value =>
    cases value with
    | true => exact readsAs_true depth
    | false => exact readsAs_false depth
  | string depth value => exact readsAs_renderString depth value
  | @array depth items hitems ih =>
    have hread := @readsAs_array depth level (items.map (renderBlock (level + 1)))
      (items.map fun item => ((renderBlock (level + 1) item).toList, item.ordered)) (by simp)
      (by
        intro pair hpair
        obtain ⟨item, hitem, rfl⟩ := List.mem_map.mp hpair
        exact ih item hitem (level + 1))
    rw [renderBlock, renderBlockItems_eq_map, Value.ordered, orderedItems_eq_map]
    rwa [List.map_map] at hread
  | @object depth entries hnodup hentries ih =>
    have hread := @readsAs_object depth level
      ((Keyed.ascending entries).map fun entry =>
        renderString entry.1 ++ ": " ++ renderBlock (level + 1) entry.2)
      ((Keyed.ascending entries).map fun entry =>
        (entry.1, (renderBlock (level + 1) entry.2).toList, entry.2.ordered))
      (by simp [member])
      (by
        rw [List.map_map]
        exact Keyed.nodup_keys_ascending hnodup)
      (by
        intro triple htriple
        obtain ⟨entry, hentry, rfl⟩ := List.mem_map.mp htriple
        exact ih entry ((Keyed.ascending_perm entries).mem_iff.mp hentry) (level + 1))
    rw [renderBlock, renderBlockEntries_eq_map, Keyed.ascending_map, List.map_map, Value.ordered,
      orderedEntries_eq_map, Keyed.ascending_map]
    rwa [List.map_map] at hread

end Block

/-- A document without numbers that is not nested too deep is read as it was written, with the
entries of every object by ascending name. -/
theorem read_renderBlock {value : Value} (h : value.Readable depthLimit) :
    read (renderBlock 0 value ++ "\n") = .ok value.ordered := by
  have hreads := readsAs_renderBlock h 0
  have hend : skipSpace "\n".toList = [] := by simp [skipSpace, isSpace]
  have hlength : (renderBlock 0 value).toList.length <
      (renderBlock 0 value ++ "\n").toList.length + 1 := by
    rw [String.toList_append, List.length_append]
    omega
  have hvalue := hreads.read _ "\n".toList hlength
  have hskip := hreads.skipSpace_append "\n".toList
  rw [← String.toList_append] at hvalue hskip
  have htext : readText (renderBlock 0 value ++ "\n").toList = .ok value.ordered := by
    obtain ⟨c, more, hc, -, -, hmark⟩ := hreads.head
    unfold readText
    split
    · rename_i heq
      rw [String.toList_append, hc] at heq
      exact absurd (List.cons.inj heq).1 hmark
    · rw [hskip, hvalue]
      simp only [hend]
  rw [read, htext]

section Distinct

/-!
## Names in what is read

The last entry of a repeated name wins, so no object that is read has a name twice, whatever the text
was written by.
-/

/-- A value in which no object has a name twice. -/
inductive Value.HasDistinctNames : Value → Prop
  | null : HasDistinctNames .null
  | bool (value : Bool) : HasDistinctNames (.bool value)
  | int (value : Int) : HasDistinctNames (.int value)
  | float (value : Float) : HasDistinctNames (.float value)
  | string (value : String) : HasDistinctNames (.string value)
  | array {items : List Value} (hitems : ∀ item ∈ items, HasDistinctNames item) :
      HasDistinctNames (.array items)
  | object {entries : List (String × Value)} (hnodup : (Keyed.keys entries).Nodup)
      (hentries : ∀ entry ∈ entries, HasDistinctNames entry.2) : HasDistinctNames (.object entries)

variable {fuel depth : Nat} {text rest : List Char} {value : Value} {done : List Value}
  {entries : Keyed Value}

/-- Putting a value into an object keeps the names distinct. -/
theorem Value.HasDistinctNames.put (h : (Value.object entries).HasDistinctNames)
    (hvalue : value.HasDistinctNames) (name : String) :
    (Value.object (Keyed.put name value entries)).HasDistinctNames := by
  cases h with
  | object hnodup hentries =>
    refine .object (Keyed.nodup_keys_put name value hnodup) ?_
    clear hnodup
    induction entries with
    | nil => simpa [Keyed.put] using hvalue
    | cons entry more ih =>
      obtain ⟨hentry, hmore⟩ := List.forall_mem_cons.mp hentries
      rw [Keyed.put]
      split
      · exact List.forall_mem_cons.mpr ⟨hvalue, hmore⟩
      · exact List.forall_mem_cons.mpr ⟨hentry, ih hmore⟩

/-- An object in an object has distinct names, too. -/
theorem Value.HasDistinctNames.nodup_of_get? {name : String} {fields : Keyed Value}
    (h : (Value.object entries).HasDistinctNames)
    (hget : Keyed.get? name entries = some (.object fields)) : (Keyed.keys fields).Nodup := by
  cases h with
  | object _ hentries =>
    have hfields := hentries _ (Keyed.mem_of_get?_eq_some hget)
    cases hfields with
    | object hnodup _ => exact hnodup

/-- A number has no names in it. -/
theorem hasDistinctNames_of_readNumber (h : readNumber text = .ok (value, rest)) :
    value.HasDistinctNames := by
  unfold readNumber at h
  simp only at h
  generalize wholeDigits _ = whole at h
  split at h
  · cases h
  · split at h
    · split at h
      · cases h
      · cases h
        exact .int _
    · cases h
      exact .float _

/-- A word has no names in it. -/
theorem hasDistinctNames_of_readWord (h : readWord text = .ok (value, rest)) :
    value.HasDistinctNames := by
  unfold readWord at h
  simp only at h
  split at h
  · rename_i found hfound
    cases h
    simp only [Option.orElse_eq_orElse, Option.orElse_eq_or, Option.or_eq_some_iff,
      Option.ite_none_right_eq_some, Option.some.injEq, Prod.mk.injEq] at hfound
    rcases hfound with ⟨-, rfl, -⟩ | ⟨-, ⟨-, rfl, -⟩ | ⟨-, ⟨-, rfl, -⟩ | ⟨-, ⟨-, rfl, -⟩ |
      ⟨-, ⟨-, rfl, -⟩ | ⟨-, -, rfl, -⟩⟩⟩⟩⟩
    · exact .null
    · exact .bool true
    · exact .bool false
    all_goals exact .float _
  · exact hasDistinctNames_of_readNumber h

/-- With so many steps, what is read has distinct names, if what was read before has. -/
structure ReadsDistinct (fuel : Nat) : Prop where
  value : ∀ {depth text value rest}, readValue fuel depth text = .ok (value, rest) →
    value.HasDistinctNames
  items : ∀ {depth done text value rest}, (∀ item ∈ done, item.HasDistinctNames) →
    readItems fuel depth done text = .ok (value, rest) → value.HasDistinctNames
  entries : ∀ {depth done text value rest}, (Value.object done).HasDistinctNames →
    readEntries fuel depth done text = .ok (value, rest) → value.HasDistinctNames

/-- A value that is read with one step more has distinct names. -/
theorem ReadsDistinct.value_succ (hfuel : ReadsDistinct fuel)
    (h : readValue (fuel + 1) depth text = .ok (value, rest)) : value.HasDistinctNames := by
  unfold readValue at h
  split at h
  · cases h
  · rename_i tail
    cases hread : readString ('\x22' :: tail) with
    | error stop =>
      rw [hread] at h
      cases h
    | ok found =>
      rw [hread] at h
      cases h
      exact .string _
  · split at h
    · cases h
    · have hempty : (Value.object []).HasDistinctNames := .object List.nodup_nil (by simp)
      split at h
      · cases h
        exact hempty
      · exact hfuel.entries hempty h
  · split at h
    · cases h
    · split at h
      · cases h
        exact .array (by simp)
      · exact hfuel.items (by simp) h
  · exact hasDistinctNames_of_readWord h

/-- Items that are read with one step more have distinct names. -/
theorem ReadsDistinct.items_succ (hfuel : ReadsDistinct fuel)
    (hdone : ∀ item ∈ done, item.HasDistinctNames)
    (h : readItems (fuel + 1) depth done text = .ok (value, rest)) : value.HasDistinctNames := by
  unfold readItems at h
  split at h
  · cases h
  · rename_i item after hitem
    have hmore : ∀ other ∈ item :: done, other.HasDistinctNames :=
      List.forall_mem_cons.mpr ⟨hfuel.value hitem, hdone⟩
    split at h
    · cases h
      exact .array fun other hother => hmore other (List.mem_reverse.mp hother)
    · exact hfuel.items hmore h
    · cases h

/-- Entries that are read with one step more have distinct names. -/
theorem ReadsDistinct.entries_succ (hfuel : ReadsDistinct fuel)
    (hdone : (Value.object entries).HasDistinctNames)
    (h : readEntries (fuel + 1) depth entries text = .ok (value, rest)) :
    value.HasDistinctNames := by
  unfold readEntries at h
  split at h
  · split at h
    · cases h
    · rename_i name after hname
      split at h
      · split at h
        · cases h
        · rename_i item behind hitem
          have hmore := hdone.put (hfuel.value hitem) name
          split at h
          · cases h
            exact hmore
          · exact hfuel.entries hmore h
          · cases h
      · cases h
  · cases h

/-- With any number of steps, what is read has distinct names. -/
theorem readsDistinct (fuel : Nat) : ReadsDistinct fuel := by
  induction fuel with
  | zero => exact ⟨nofun, nofun, nofun⟩
  | succ fuel ih => exact ⟨ih.value_succ, ih.items_succ, ih.entries_succ⟩

/-- No object in a document that is read has a name twice. -/
theorem hasDistinctNames_of_read {document : String} (h : read document = .ok value) :
    value.HasDistinctNames := by
  unfold read at h
  split at h
  · rename_i found hread
    cases h
    unfold readText at hread
    split at hread
    · cases hread
    · split at hread
      · cases hread
      · rename_i hvalue
        split at hread
        · cases hread
          exact (readsDistinct _).value hvalue
        · cases hread
  all_goals cases h

end Distinct

end ServiceManifest.Json
