import Mathlib.Data.List.Basic
import ServiceManifest.Json.Reader
import ServiceManifest.Json.Writer

/-!
# Strings that are written and read again

Each character is written as itself, as an escape of one letter, or as the escapes of its one or two
units. Reading an escape takes back exactly the character, so a string that was written is read to
the same string, whatever follows it.
-/

namespace ServiceManifest.Json

/-- Of more than one digit the last is that of the remainder, those before it those of the
quotient. -/
theorem hexDigits_succ {width : Nat} (hwidth : 0 < width) (n : Nat) :
    Text.hexDigits (width + 1) n = Text.hexDigits width (n / 16) ++ [Nat.digitChar (n % 16)] := by
  obtain ⟨more, rfl⟩ : ∃ more, width = more + 1 := ⟨width - 1, by omega⟩
  unfold Text.hexDigits
  by_cases hn : 16 ≤ n
  · rw [Nat.toDigits_of_base_le (by decide) hn]
    simp only [List.length_append, List.length_singleton, Nat.add_sub_add_right,
      List.append_assoc]
  · have hzero : n / 16 = 0 := by omega
    rw [Nat.toDigits_of_lt_base (by omega), hzero, Nat.toDigits_zero, Nat.mod_eq_of_lt (by omega)]
    simp [List.replicate_succ']

/-- Four digits are those of the four parts of a number. -/
theorem hexDigits_four {n : Nat} (hn : n < 0x10000) :
    Text.hexDigits 4 n = [Nat.digitChar (n / 16 / 16 / 16), Nat.digitChar (n / 16 / 16 % 16),
      Nat.digitChar (n / 16 % 16), Nat.digitChar (n % 16)] := by
  rw [hexDigits_succ (by decide), hexDigits_succ (by decide), hexDigits_succ (by decide)]
  have hfirst : Text.hexDigits 1 (n / 16 / 16 / 16) = [Nat.digitChar (n / 16 / 16 / 16)] := by
    unfold Text.hexDigits
    rw [Nat.toDigits_of_lt_base (by omega)]
    rfl
  rw [hfirst]
  rfl

/-- A digit that was written is read to its value. -/
theorem hexDigit?_digitChar : ∀ d, d < 16 → Text.hexDigit? (Nat.digitChar d) = some d := by
  decide

/-- Four digits that were written are read to the number. -/
theorem fourDigits?_hexDigits {n : Nat} (hn : n < 0x10000) (e : Char) (rest : List Char) :
    fourDigits? (Text.hexDigits 4 n ++ e :: rest) = some (n, e :: rest) := by
  rw [hexDigits_four hn]
  simp only [List.cons_append, List.nil_append, fourDigits?,
    hexDigit?_digitChar _ (show n / 16 / 16 / 16 < 16 by omega),
    hexDigit?_digitChar _ (Nat.mod_lt _ (by decide : 0 < 16))]
  congr 2
  omega

/-- Code points of characters are no halves of surrogate pairs. -/
theorem not_surrogate (c : Char) : ¬(0xD800 ≤ c.toNat ∧ c.toNat < 0xE000) := by
  have hvalid : c.toNat.isValidChar := c.valid
  rcases hvalid with h | ⟨h, -⟩ <;> omega

/-- The escape of a character in one unit is read to the character. -/
theorem unicodeEscape_unit {c : Char} (hc : c.toNat < 0x10000) (e : Char) (rest : List Char) :
    unicodeEscape ('u' :: Text.hexDigits 4 c.toNat ++ e :: rest) = .ok (c, e :: rest) := by
  have hnot := not_surrogate c
  unfold unicodeEscape
  rw [List.cons_append, List.drop_one, List.tail_cons, fourDigits?_hexDigits hc]
  simp only
  rw [if_neg (by omega), if_neg (by omega), Char.ofNat_toNat]

/-- Two escapes for the halves of a surrogate pair are read to one character. -/
theorem unicodeEscape_halves {high low : Nat} (hhigh : 0xD800 ≤ high ∧ high < 0xDC00)
    (hlow : 0xDC00 ≤ low ∧ low < 0xE000) (e : Char) (rest : List Char) :
    unicodeEscape ('u' :: Text.hexDigits 4 high ++ (unitEscape low ++ e :: rest)) =
      .ok (Char.ofNat (0x10000 + (high - 0xD800) * 0x400 + (low - 0xDC00)), e :: rest) := by
  have hlength : ¬(Text.hexDigits 4 low ++ e :: rest).length ≤ 4 := by
    simp [hexDigits_four (show low < 0x10000 by omega)]
  have hhalf : lowHalf? (unitEscape low ++ e :: rest) = .ok (some (low, e :: rest)) := by
    simp only [unitEscape, List.cons_append, lowHalf?, if_neg hlength,
      fourDigits?_hexDigits (show low < 0x10000 by omega), if_pos hlow]
  have hmore : ∃ f more, unitEscape low ++ e :: rest = f :: more := ⟨_, _, rfl⟩
  obtain ⟨f, more, hsplit⟩ := hmore
  rw [hsplit] at hhalf ⊢
  unfold unicodeEscape
  rw [List.cons_append, List.drop_one, List.tail_cons,
    fourDigits?_hexDigits (show high < 0x10000 by omega)]
  simp only [if_pos hhigh, hhalf]

/-- The escapes of a character in two units are read to the character. -/
theorem unicodeEscape_pair {c : Char} (hc : 0x10000 ≤ c.toNat) (e : Char) (rest : List Char) :
    unicodeEscape ('u' :: Text.hexDigits 4 (0xD800 + (c.toNat - 0x10000) / 0x400) ++
      (unitEscape (0xDC00 + (c.toNat - 0x10000) % 0x400) ++ e :: rest)) = .ok (c, e :: rest) := by
  have hmax : c.toNat < 0x110000 := by
    have hvalid : c.toNat.isValidChar := c.valid
    rcases hvalid with h | ⟨-, h⟩ <;> omega
  have hcode : 0x10000 + (0xD800 + (c.toNat - 0x10000) / 0x400 - 0xD800) * 0x400 +
      (0xDC00 + (c.toNat - 0x10000) % 0x400 - 0xDC00) = c.toNat := by omega
  rw [unicodeEscape_halves (by omega) (by omega), hcode, Char.ofNat_toNat]

/-- An escape of four digits is read as one character. -/
theorem stringBody_unitEscape {start text rest : List Char} {fuel unit : Nat} {done : List Char}
    {c : Char} (h : unicodeEscape ('u' :: Text.hexDigits 4 unit ++ text) = .ok (c, rest)) :
    stringBody start (fuel + 1) done (unitEscape unit ++ text) =
      stringBody start fuel (c :: done) rest := by
  rw [List.cons_append] at h
  rw [unitEscape, List.cons_append, List.cons_append, stringBody, if_neg (by decide), if_pos rfl]
  simp only [h]

/-- An escape of one letter is read as one character. -/
theorem stringBody_simpleEscape {start rest : List Char} {fuel : Nat} {done : List Char}
    {letter c : Char} (hletter : letter ≠ 'u') (h : simpleEscape? letter = some c) :
    stringBody start (fuel + 1) done ('\\' :: letter :: rest) =
      stringBody start fuel (c :: done) rest := by
  rw [stringBody, if_neg (by decide), if_pos rfl]
  · simp only [h]
  · exact hletter

/-- A character that needs no escape is read as itself. -/
theorem stringBody_plain {start rest : List Char} {fuel : Nat} {done : List Char} {c : Char}
    (hquote : c ≠ '\x22') (hescape : c ≠ '\\') (hcontrol : ¬c.toNat < 0x20) :
    stringBody start (fuel + 1) done (c :: rest) = stringBody start fuel (c :: done) rest := by
  conv_lhs => unfold stringBody
  simp only [if_neg hquote, if_neg hescape, if_neg hcontrol]

/-- A character that was written is read to the character. -/
theorem stringBody_escapeChar (start : List Char) (fuel : Nat) (done : List Char) (c e : Char)
    (rest : List Char) :
    stringBody start (fuel + 1) done (escapeChar c ++ e :: rest) =
      stringBody start fuel (c :: done) (e :: rest) := by
  unfold escapeChar
  split
  · rename_i hc
    rcases hc with rfl | rfl
    · exact stringBody_simpleEscape (by decide) rfl
    · exact stringBody_simpleEscape (by decide) rfl
  split
  · subst_vars
    exact stringBody_simpleEscape (by decide) rfl
  split
  · subst_vars
    exact stringBody_simpleEscape (by decide) rfl
  split
  · subst_vars
    exact stringBody_simpleEscape (by decide) rfl
  split
  · subst_vars
    exact stringBody_simpleEscape (by decide) rfl
  split
  · subst_vars
    exact stringBody_simpleEscape (by decide) rfl
  split
  · rename_i hquote _ _ _ _ _ hplain
    rw [not_or] at hquote
    exact stringBody_plain hquote.1 hquote.2 (Nat.not_lt.mpr hplain.1)
  split
  · rename_i hunit
    exact stringBody_unitEscape (unicodeEscape_unit hunit e rest)
  · rename_i hpair
    rw [List.append_assoc]
    exact stringBody_unitEscape (unicodeEscape_pair (Nat.le_of_not_lt hpair) e rest)

/-- Every character takes up some text. -/
theorem length_escapeChar_pos (c : Char) : 0 < (escapeChar c).length := by
  unfold escapeChar
  split_ifs <;> exact Nat.succ_pos _

/-- Characters that were written are read up to the closing quote. -/
theorem stringBody_flatMap (start : List Char) {fuel : Nat} (done cs rest : List Char)
    (hfuel : (cs.flatMap escapeChar).length < fuel) :
    stringBody start fuel done (cs.flatMap escapeChar ++ '\x22' :: rest) =
      .ok (String.ofList (done.reverse ++ cs), rest) := by
  induction cs generalizing fuel done with
  | nil =>
    obtain ⟨less, rfl⟩ : ∃ less, fuel = less + 1 := ⟨fuel - 1, by omega⟩
    simp [stringBody]
  | cons c cs ih =>
    obtain ⟨less, rfl⟩ : ∃ less, fuel = less + 1 := ⟨fuel - 1, by omega⟩
    have hpos := length_escapeChar_pos c
    rw [List.flatMap_cons, List.length_append] at hfuel
    have hmore : ∃ e more, cs.flatMap escapeChar ++ '\x22' :: rest = e :: more := by
      cases cs.flatMap escapeChar with
      | nil => exact ⟨_, _, rfl⟩
      | cons e more => exact ⟨_, _, rfl⟩
    obtain ⟨e, more, hsplit⟩ := hmore
    rw [List.flatMap_cons, List.append_assoc, hsplit, stringBody_escapeChar, ← hsplit,
      ih (c :: done) (by omega)]
    simp

/-- A string that was written is read to the same string. -/
theorem readString_renderString (s : String) (rest : List Char) :
    readString ((renderString s).toList ++ rest) = .ok (s, rest) := by
  have hlist : (renderString s).toList ++ rest =
      '\x22' :: (s.toList.flatMap escapeChar ++ '\x22' :: rest) := by
    simp [renderString]
  have hfuel : (s.toList.flatMap escapeChar).length <
      ('\x22' :: (s.toList.flatMap escapeChar ++ '\x22' :: rest)).length := by
    rw [List.length_cons, List.length_append]
    omega
  rw [hlist, readString, List.drop_one, List.tail_cons, stringBody_flatMap _ [] s.toList rest hfuel]
  simp

end ServiceManifest.Json
