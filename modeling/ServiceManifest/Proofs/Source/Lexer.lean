import Mathlib.Data.List.TakeDrop
import Mathlib.Data.List.TakeWhile
import ServiceManifest.Proofs.Result
import ServiceManifest.Proofs.Text.Delimiter
import ServiceManifest.Source.Lexer

/-!
# What tokens are made of

A word starts where no mark does, and a name among words is made of letters, digits and underscores or
is an identifier: no name among the tokens of a text has a delimiter in it. Each token but those of the
layout takes a character of its own, and a text literal takes its quotes and a character for each code
point, since no escape is shorter than what it stands for. So the tokens of a text cost no more than its
length. They are cut from its front, so their lines never decrease.
-/

namespace ServiceManifest

namespace Text

section Escape

variable {text rest : List Char} {escape : Escape}

/-- The name of a character is followed by no more than there was. -/
theorem length_readName (h : readName text = .ok (escape, rest)) : rest.length ≤ text.length := by
  have hrest := List.length_dropWhile_le (fun c => decide (c ≠ '}')) text
  unfold readName at h
  simp only [List.span_eq_takeWhile_dropWhile] at h
  grind

/-- An escape is followed by no more than there was. -/
theorem length_readEscape {c : Char} (h : readEscape c text = .ok (escape, rest)) :
    rest.length ≤ text.length := by
  unfold readEscape at h
  grind [hexPrefixed?, → length_readName]

/-- A text stands for no more code points than it has characters. -/
theorem length_textCodesFrom {raw : Bool} {fuel : Nat} {codes : List Nat}
    (h : textCodesFrom raw fuel text = .ok codes) : codes.length ≤ text.length := by
  induction fuel generalizing text codes with
  | zero =>
    cases h
    exact Nat.zero_le _
  | succ fuel ih =>
    unfold textCodesFrom at h
    split at h
    · cases h
      exact Nat.zero_le _
    · cases h
      exact Nat.zero_le _
    rename_i bound c rest hbound
    cases hbound
    split at h
    · split at h
      · cases h
        simp
      · split at h
        · cases h
        · rename_i hescape
          have hafter := length_readEscape hescape
          grind
        · rename_i hescape
          have hafter := length_readEscape hescape
          obtain ⟨more, hmore, rfl⟩ := map_eq_ok_iff.mp h
          grind
        · rename_i hescape
          have hafter := length_readEscape hescape
          obtain ⟨more, hmore, rfl⟩ := map_eq_ok_iff.mp h
          grind
    · obtain ⟨more, hmore, rfl⟩ := map_eq_ok_iff.mp h
      grind

end Escape

end Text

namespace Source

/-- A name without delimiters that is not empty. -/
def IsSimple (name : String) : Prop := name ≠ "" ∧ ∀ c ∈ name.toList, Text.isDelimiter c = false

instance (name : String) : Decidable (IsSimple name) :=
  decidable_of_iff (name ≠ "" ∧ name.toList.all (!Text.isDelimiter ·) = true) (by simp [IsSimple])

/-- Characters without delimiters spell a simple name. -/
theorem isSimple_ofList {word : List Char} (hword : word ≠ [])
    (hplain : ∀ c ∈ word, Text.isDelimiter c = false) : IsSimple (String.ofList word) :=
  ⟨by simpa using hword, by rwa [String.toList_ofList]⟩

/-- A simple name has no delimiter in it. -/
theorem IsSimple.not_mem_of_isDelimiter {name : String} (h : IsSimple name) {c : Char}
    (hdelimiter : Text.isDelimiter c = true) : c ∉ name.toList := by
  intro hmem
  rw [h.2 c hmem] at hdelimiter
  cases hdelimiter

/-- A simple name has no full stop. -/
theorem IsSimple.not_mem {name : String} (h : IsSimple name) : '.' ∉ name.toList :=
  h.not_mem_of_isDelimiter (by decide)

/-- All names among tokens are simple. -/
def NamesAreSimple (tokens : List Token) : Prop :=
  ∀ token ∈ tokens, ∀ id, token.lexeme = .name id → IsSimple id

/-- The characters that a lexeme takes at least. -/
def Lexeme.cost : Lexeme → Nat
  | .string (.text codes) => codes.length + 2
  | .lineEnd | .indent | .dedent | .textEnd => 0
  | _ => 1

/-- The characters that tokens take at least. -/
def cost : List Token → Nat
  | [] => 0
  | token :: tokens => token.lexeme.cost + cost tokens

section Tokens

variable {tokens more : List Token} {token : Token}

@[simp] theorem cost_nil : cost [] = 0 := rfl

@[simp] theorem cost_cons : cost (token :: tokens) = token.lexeme.cost + cost tokens := rfl

@[simp] theorem cost_append : cost (tokens ++ more) = cost tokens + cost more := by
  induction tokens with
  | nil => simp
  | cons token tokens ih => simp [ih, Nat.add_assoc]

@[simp] theorem cost_reverse : cost tokens.reverse = cost tokens := by
  induction tokens with
  | nil => rfl
  | cons token tokens ih => simp [ih, Nat.add_comm]

/-- Tokens that take no characters take none together. -/
theorem cost_eq_zero (h : ∀ token ∈ tokens, token.lexeme.cost = 0) : cost tokens = 0 := by
  induction tokens with
  | nil => rfl
  | cons token tokens ih =>
    obtain ⟨htoken, hrest⟩ := List.forall_mem_cons.mp h
    rw [cost_cons, htoken, ih hrest]

@[simp] theorem namesAreSimple_nil : NamesAreSimple [] :=
  fun _ hmem => absurd hmem List.not_mem_nil

@[simp] theorem namesAreSimple_cons : NamesAreSimple (token :: tokens) ↔
    (∀ id, token.lexeme = .name id → IsSimple id) ∧ NamesAreSimple tokens :=
  List.forall_mem_cons

@[simp] theorem namesAreSimple_append :
    NamesAreSimple (tokens ++ more) ↔ NamesAreSimple tokens ∧ NamesAreSimple more :=
  List.forall_mem_append

@[simp] theorem namesAreSimple_reverse : NamesAreSimple tokens.reverse ↔ NamesAreSimple tokens := by
  simp [NamesAreSimple]

/-- Lines do not decrease from one line over those of tokens to another. -/
def Proceeds (line : Nat) (tokens : List Token) (next : Nat) : Prop :=
  (line :: tokens.map (·.line) ++ [next]).Pairwise (· ≤ ·)

variable {line next last : Nat}

/-- Tokens on one line lie between it and any later one. -/
theorem proceeds_of_forall (htokens : ∀ token ∈ tokens, token.line = line) (h : line ≤ next) :
    Proceeds line tokens next := by
  have hlines : tokens.map (·.line) = List.replicate tokens.length line :=
    List.map_eq_replicate_iff.mpr htokens
  rw [Proceeds, hlines, List.pairwise_append]
  simp [List.pairwise_replicate, h]

/-- A start before the tokens may be earlier. -/
theorem Proceeds.mono (h : Proceeds line tokens next) (hlast : last ≤ line) :
    Proceeds last tokens next := by
  simp only [Proceeds, List.cons_append, List.pairwise_cons] at h ⊢
  exact ⟨fun other hother => hlast.trans (h.1 other hother), h.2⟩

/-- Tokens that lead on from a line come behind those that lead to it. -/
theorem Proceeds.trans (h : Proceeds last tokens line) (hnext : Proceeds line more next) :
    Proceeds last (tokens ++ more) next := by
  simp only [Proceeds, List.cons_append, List.pairwise_cons, List.pairwise_append,
    List.mem_append, List.mem_singleton, List.map_append] at *
  grind

end Tokens

namespace Numeral

variable {text rest : List Char} {kind : NumeralKind} {found : Bool × List Char} {c : Char}

/-- Digits are followed by no more than there was. -/
theorem length_afterDigits {digit : Char → Bool} (h : afterDigits kind digit text = .ok rest) :
    rest.length ≤ text.length := by
  fun_induction afterDigits kind digit text <;> grind

/-- Digits are followed by less than there was, if there is one. -/
theorem length_afterDigits_cons (hc : isDigit c = true)
    (h : afterDigits kind isDigit (c :: text) = .ok rest) : rest.length ≤ text.length := by
  have hne : c ≠ '_' := by
    rintro rfl
    exact absurd hc (by decide)
  rw [afterDigits, if_pos hc] at h
  · exact length_afterDigits h
  · exact hne

theorem length_ending (h : ending kind text = .ok rest) : rest.length ≤ text.length := by
  unfold ending at h
  grind

theorem length_suffix (h : suffix text = .ok found) : found.2.length ≤ text.length := by
  unfold suffix at h
  grind [map_eq_ok_iff, → length_ending]

theorem length_digitsAndSuffix (h : digitsAndSuffix text = .ok found) :
    found.2.length ≤ text.length := by
  obtain ⟨rest, hrest, h⟩ := bind_eq_ok_iff.mp h
  exact (length_suffix h).trans (length_afterDigits hrest)

theorem length_exponent (h : exponent text = .ok found) : found.2.length ≤ text.length := by
  unfold exponent at h
  grind [map_eq_ok_iff, → length_ending, → length_suffix, → length_digitsAndSuffix]

theorem length_fraction (h : fraction text = .ok found) : found.2.length ≤ text.length := by
  unfold fraction at h
  split at h
  · obtain ⟨rest, hrest, h⟩ := bind_eq_ok_iff.mp h
    exact (length_exponent h).trans (length_afterDigits hrest)
  · exact length_exponent h

theorem length_afterWhole (h : afterWhole text = .ok found) : found.2.length ≤ text.length := by
  unfold afterWhole at h
  grind [→ length_fraction, → length_exponent]

theorem length_based {digit : Char → Bool} (h : based kind digit text = .ok found) :
    found.2.length ≤ text.length := by
  have hdigits {digits : List Char}
      (h : (if (digits.head?.map digit).getD false then do
          let rest ← afterDigits kind digit digits
          if (rest.head?.map isDigit).getD false then .error (kind.fault rest)
          else (ending kind rest).map fun rest => (false, rest)
        else .error (kind.fault digits)) = Except.ok found) : found.2.length ≤ digits.length := by
    split at h
    · obtain ⟨rest, hrest, h⟩ := bind_eq_ok_iff.mp h
      grind [map_eq_ok_iff, → length_afterDigits, → length_ending]
    · cases h
  unfold based at h
  split at h
  · exact (hdigits h).trans (Nat.le_succ _)
  · exact hdigits h

theorem length_afterZero (hc : isDigit c = true) (h : afterZero (c :: text) = .ok found) :
    found.2.length ≤ text.length := by
  obtain ⟨rest, hrest, h⟩ := bind_eq_ok_iff.mp h
  have hdigits := length_afterDigits_cons hc hrest
  grind [map_eq_ok_iff, → length_afterWhole, → length_exponent, → length_suffix, → length_ending]

theorem length_decimal (hc : isDigit c = true) (h : decimal (c :: text) = .ok found) :
    found.2.length ≤ text.length := by
  obtain ⟨rest, hrest, h⟩ := bind_eq_ok_iff.mp h
  obtain ⟨⟨imaginary, after⟩, hafter, h⟩ := bind_eq_ok_iff.mp h
  dsimp only at h
  split at h
  · cases h
  · obtain rfl := Except.ok.inj h
    exact (length_afterWhole hafter).trans (length_afterDigits_cons hc hrest)

/-- A numeral takes its first digit. -/
theorem length_read (hc : isDigit c = true) (h : read (c :: text) = .ok found) :
    found.2.length ≤ text.length := by
  unfold read at h
  grind [→ length_based, → length_afterZero, → length_decimal]

end Numeral

section Body

variable {quote : Char} {done text body rest : List Char}

theorem length_singleBody (h : singleBody quote done text = .ok (body, rest)) :
    body.length + rest.length + 1 ≤ done.length + text.length := by
  fun_induction singleBody quote done text <;> grind

theorem length_tripleBody (h : tripleBody quote done text = .ok (body, rest)) :
    body.length + rest.length + 1 ≤ done.length + text.length := by
  fun_induction tripleBody quote done text <;> grind

/-- The body of a literal stands between two quotes at least. -/
theorem length_literalBody {line : Nat} (h : literalBody line (quote :: text) = .ok (body, rest)) :
    body.length + rest.length + 2 ≤ (quote :: text).length := by
  have hnoted {triple : Bool} {read : Except (List Char) (List Char × List Char)}
      (h : (read.mapError fun done =>
        LexicalFault.openLiteral triple (line + lineEnds (done.drop 1))) = .ok (body, rest)) :
      read = .ok (body, rest) := by
    cases read <;> simp_all [Except.mapError]
  unfold literalBody at h
  dsimp only at h
  split at h
  · rename_i heq
    cases heq
    split at h
    · split at h
      · split at h
        · have hbody := length_tripleBody (hnoted h)
          grind
        · grind
      · grind
    · have hbody := length_singleBody (hnoted h)
      grind
  · rename_i heq
    cases heq
    have hbody := length_singleBody (hnoted h)
    grind
  · rename_i heq
    cases heq

/-- A literal takes its quotes and no fewer characters than its value has code points. -/
theorem cost_literalValue (kind : LiteralKind) (body : List Char) :
    (Lexeme.string (literalValue kind body)).cost ≤ body.length + 2 := by
  unfold literalValue octetsValue Formatted.value
  split
  · split
    · simp [Lexeme.cost]
    · split <;> simp [Lexeme.cost]
  · split
    · simp [Lexeme.cost]
    · split
      · rename_i codes hcodes
        unfold Text.textCodes at hcodes
        cases hfrom : Text.textCodesFrom kind.raw (body.length + 1) body with
        | error fault =>
          rw [hfrom] at hcodes
          cases hcodes
        | ok found =>
          rw [hfrom] at hcodes
          obtain rfl := Except.ok.inj hcodes
          exact Nat.add_le_add_right (Text.length_textCodesFrom hfrom) 2
      · simp [Lexeme.cost]

end Body

/-- A letter, a digit or an underscore with which a word goes on is no delimiter. -/
theorem isDelimiter_of_continuesWord {c : Char} (h : continuesWord c = true)
    (hc : (decide (c.toNat < 128) && decide (c ≠ strayMark)) = true) : Text.isDelimiter c = false := by
  simp only [Bool.and_eq_true, decide_eq_true_eq] at hc
  rcases eq_or_ne c '_' with rfl | hunderscore
  · decide
  · simp [continuesWord, startsWord, isDigit, hc.2, hunderscore, Char.le_def,
      UInt32.le_iff_toNat_le] at h
    refine Text.isDelimiter_of_le ?_
    simp
    omega

/-- A word that is a name is a simple name. -/
theorem isSimple_of_wordLexeme {word : List Char} {id : String} (hword : word ≠ [])
    (hcontinues : ∀ c ∈ word, continuesWord c = true) (h : wordLexeme word = .ok (.name id)) :
    IsSimple id := by
  unfold wordLexeme at h
  split at h
  · cases h
  split at h
  · rename_i hascii
    cases h
    exact isSimple_ofList hword fun c hc =>
      isDelimiter_of_continuesWord (hcontinues c hc) (List.all_eq_true.mp hascii c hc)
  split at h
  · rename_i hidentifier
    cases h
    obtain ⟨hsome, hplain⟩ :=
      Text.normalForm_spec hword (Text.isDelimiter_of_isIdentifier hidentifier)
    exact isSimple_ofList hsome hplain
  · cases h

/-- A word costs a character. -/
theorem cost_wordLexeme {word : List Char} {lexeme : Lexeme} (h : wordLexeme word = .ok lexeme) :
    lexeme.cost = 1 := by
  unfold wordLexeme at h
  grind [Lexeme.cost]

/-- Tokens that a step makes from a text on a line, and where the cutting then stands: the names are
simple, the characters that were taken pay for the tokens, and the lines go on from that of the text. -/
structure Makes (text : List Char) (line : Nat) (tokens : List Token) (next : Cut) : Prop where
  names : NamesAreSimple tokens
  paid : cost tokens + next.rest.length ≤ text.length
  lines : Proceeds line tokens next.line

section Step

variable {tokens : List Token} {next cut : Cut} {line : Nat}

/-- No tokens need not be paid for. -/
theorem makes_nil {text : List Char} (h : next.rest.length ≤ text.length) (hline : line ≤ next.line) :
    Makes text line [] next where
  names := namesAreSimple_nil
  paid := by simpa using h
  lines := proceeds_of_forall (List.forall_mem_nil _) hline

/-- A single token that is no name and is paid for may be made on a line. -/
theorem makes_singleton {text : List Char} {token : Token} (hname : ∀ id, token.lexeme ≠ .name id)
    (hpaid : token.lexeme.cost + next.rest.length ≤ text.length) (htoken : token.line = line)
    (hline : line ≤ next.line) : Makes text line [token] next where
  names := namesAreSimple_cons.mpr ⟨fun id hid => absurd hid (hname id), namesAreSimple_nil⟩
  paid := by simpa using hpaid
  lines := proceeds_of_forall (List.forall_mem_singleton.mpr htoken) hline

/-- A mark takes a character. -/
theorem length_readMark {text : List Char} {mark : String × List Char}
    (h : readMark text = .ok mark) : mark.2.length + 1 ≤ text.length := by
  unfold readMark at h
  cases text with
  | nil => cases h
  | cons c rest => grind

/-- The token of a word, of a number or of a mark is paid for. -/
theorem makes_plainToken {word after : List Char} (hcontinues : ∀ c ∈ word, continuesWord c = true)
    (h : plainToken cut word after = .ok (tokens, next)) :
    Makes (word ++ after) cut.line tokens next := by
  have hnumber {rest : List Char} {result : Numeral.Result}
      (hlength : ∀ found, result = .ok found → found.2.length ≤ rest.length) {c : Char}
      (h : (result.map fun found => ([⟨.number found.1, cut.line, true⟩],
        { cut with rest := found.2 })) = .ok (tokens, next)) :
      Makes (c :: rest) cut.line tokens next := by
    obtain ⟨found, hfound, h⟩ := map_eq_ok_iff.mp h
    obtain ⟨rfl, rfl⟩ := Prod.mk.inj h
    have hrest := hlength found hfound
    exact makes_singleton nofun (by simp only [Lexeme.cost, List.length_cons]; omega) rfl
      (Nat.le_refl _)
  have hmark (h : ((readMark after).bind fun found =>
      (settleBrackets cut.brackets cut.line found.1).bind fun brackets => Except.ok
        ([⟨.mark found.1, cut.line, true⟩], { cut with rest := found.2, brackets := brackets })) =
          .ok (tokens, next)) : Makes after cut.line tokens next := by
    obtain ⟨mark, hmark, h⟩ := bind_eq_ok_iff.mp h
    obtain ⟨brackets, -, h⟩ := bind_eq_ok_iff.mp h
    obtain ⟨rfl, rfl⟩ := Prod.mk.inj (Except.ok.inj h)
    have hrest := length_readMark hmark
    exact makes_singleton nofun (by simp only [Lexeme.cost]; omega) rfl (Nat.le_refl _)
  unfold plainToken at h
  split at h
  · rename_i hword
    have hword : word ≠ [] := by simpa using hword
    obtain ⟨lexeme, hlexeme, h⟩ := map_eq_ok_iff.mp h
    obtain ⟨rfl, rfl⟩ := Prod.mk.inj h
    refine ⟨namesAreSimple_cons.mpr ⟨?_, namesAreSimple_nil⟩, ?_,
      proceeds_of_forall (List.forall_mem_singleton.mpr rfl) (Nat.le_refl _)⟩
    · rintro id rfl
      exact isSimple_of_wordLexeme hword hcontinues hlexeme
    · have hpos := List.length_pos_of_ne_nil hword
      simp only [cost_cons, cost_nil, cost_wordLexeme hlexeme, List.length_append]
      omega
  · rename_i hword
    obtain rfl : word = [] := by simpa using hword
    rw [List.nil_append]
    dsimp only at h
    split at h <;> split at h
    · exact hnumber (fun _ => Numeral.length_fraction) h
    · exact hmark h
    · rename_i hdigit
      split at h
      · rename_i hpoint
        cases hpoint
        exact absurd hdigit (by decide)
      · exact hnumber (fun _ => Numeral.length_read hdigit) h
    · exact hmark h
    · rename_i hdigit
      exact absurd hdigit Bool.false_ne_true
    · exact hmark h

/-- The token of a literal is paid for. It may end on a later line. -/
theorem makes_literalToken {kind : LiteralKind} {quote : Char} {text : List Char}
    (h : literalToken cut kind (quote :: text) = .ok (tokens, next)) :
    Makes (quote :: text) cut.line tokens next := by
  obtain ⟨⟨body, rest⟩, hbody, h⟩ := bind_eq_ok_iff.mp h
  dsimp only at h
  split at h
  · cases h
  · obtain ⟨rfl, rfl⟩ := Prod.mk.inj (Except.ok.inj h)
    have hcost := cost_literalValue kind body
    have hlength := length_literalBody hbody
    exact makes_singleton nofun (by dsimp only; omega) rfl (Nat.le_add_right _ _)

/-- What a text pays for, a longer one does, too, and it may start on an earlier line. -/
theorem Makes.mono {text longer : List Char} {last : Nat} (h : Makes text line tokens next)
    (hlength : text.length ≤ longer.length) (hlast : last ≤ line) : Makes longer last tokens next :=
  ⟨h.names, h.paid.trans hlength, h.lines.mono hlast⟩

/-- The word in front of a text is made of characters of words and stands in front of what is left. -/
theorem word_spec (c : Char) (rest : List Char) :
    let word := if startsWord c then (c :: rest).takeWhile continuesWord else []
    (∀ d ∈ word, continuesWord d = true) ∧ word ++ (c :: rest).drop word.length = c :: rest := by
  dsimp only
  split
  · exact ⟨fun _ hmem => List.mem_takeWhile_imp hmem,
      List.prefix_iff_eq_append.mp (List.takeWhile_prefix _)⟩
  · exact ⟨List.forall_mem_nil _, rfl⟩

/-- What a step inside a line makes is paid for. -/
theorem makes_cutToken (h : cutToken cut = .ok (tokens, next)) :
    Makes cut.rest cut.line tokens next := by
  unfold cutToken at h
  split at h
  · cases h
  · rename_i hrest
    rw [hrest]
    split at h <;> cases h
    · exact makes_singleton nofun (by simp [Lexeme.cost]) rfl (Nat.le_succ _)
    · exact makes_nil (by simp) (Nat.le_succ _)
  · rename_i hrest
    rw [hrest]
    split at h <;> cases h
    exact makes_nil (by simp) (Nat.le_succ _)
  · rename_i c rest _ _ hrest
    rw [hrest]
    obtain ⟨hcontinues, hsplit⟩ := word_spec c rest
    dsimp only at h
    generalize (if startsWord c then (c :: rest).takeWhile continuesWord else []) = word
      at h hcontinues hsplit
    have hplain (h : plainToken cut word ((c :: rest).drop word.length) = .ok (tokens, next)) :
        Makes (c :: rest) cut.line tokens next := by
      have hmakes := makes_plainToken hcontinues h
      rwa [hsplit] at hmakes
    split at h
    · split at h
      · rename_i quote _ hquote _
        obtain ⟨text, htext⟩ := List.head?_eq_some_iff.mp hquote
        rw [htext] at h hsplit
        refine (makes_literalToken h).mono ?_ (Nat.le_refl _)
        simp [← hsplit]
      · exact hplain h
    · exact hplain h

/-- An indentation makes only layout. -/
theorem settleMargin_spec {levels left : List (Nat × Nat)} {wide narrow : Nat}
    {lexemes : List Lexeme} (h : settleMargin levels wide narrow = .ok (left, lexemes)) :
    ∀ lexeme ∈ lexemes, lexeme = .indent ∨ lexeme = .dedent := by
  unfold settleMargin at h
  grind

/-- A margin is followed by no more than there was. -/
theorem length_margin {wide narrow first joined : Nat} {text : List Char} {found : Margin}
    (h : margin wide narrow first joined text = .ok found) : found.rest.length ≤ text.length := by
  fun_induction margin wide narrow first joined text <;> grind

/-- Spaces and a comment are followed by no more than there was. -/
theorem length_skipToToken (text : List Char) : (skipToToken text).length ≤ text.length := by
  have hspaces := List.length_dropWhile_le (fun c => c = ' ' || c = '\t' || c = '\x0c') text
  unfold skipToToken
  split
  · rename_i rest hrest
    have hcomment := List.length_dropWhile_le (· ≠ '\n') rest
    rw [hrest, List.length_cons] at hspaces
    omega
  · exact hspaces

/-- What the margin of a line with tokens makes is paid for. -/
theorem makes_settle {found : Margin} (h : settle cut found line = .ok (tokens, next)) :
    Makes found.rest line tokens next := by
  unfold settle at h
  split at h
  · obtain ⟨⟨levels, lexemes⟩, hmargin, h⟩ := map_eq_ok_iff.mp h
    obtain ⟨rfl, rfl⟩ := Prod.mk.inj h
    have hlayout := settleMargin_spec hmargin
    have hcost : cost (lexemes.map fun lexeme => ⟨lexeme, line, true⟩) = 0 := by
      refine cost_eq_zero fun token htoken => ?_
      obtain ⟨lexeme, hlexeme, rfl⟩ := List.mem_map.mp htoken
      rcases hlayout lexeme hlexeme with rfl | rfl <;> rfl
    refine ⟨fun token htoken id hid => ?_, by simp [hcost],
      proceeds_of_forall (by simp) (Nat.le_refl _)⟩
    obtain ⟨lexeme, hlexeme, rfl⟩ := List.mem_map.mp htoken
    rcases hlayout lexeme hlexeme with rfl | rfl <;> cases hid
  · cases h
    exact makes_nil (Nat.le_refl _) (Nat.le_refl _)

/-- What a step at the start of a line makes is paid for. -/
theorem makes_cutMargin (h : cutMargin cut = .ok (tokens, next)) :
    Makes cut.rest cut.line tokens next := by
  obtain ⟨found, hfound, h⟩ := bind_eq_ok_iff.mp h
  have hmargin : found.rest.length ≤ cut.rest.length := by
    cases hread : margin 0 0 0 0 cut.rest with
    | error fault =>
      rw [hread] at hfound
      cases hfound
    | ok read =>
      rw [hread] at hfound
      obtain rfl := Except.ok.inj hfound
      exact length_margin hread
  have hsettle (h : settle cut found (cut.line + found.joined) = .ok (tokens, next)) :
      Makes cut.rest cut.line tokens next := (makes_settle h).mono hmargin (Nat.le_add_right _ _)
  have hskip := length_skipToToken found.rest
  dsimp only at h
  split at h
  · rename_i hrest
    rw [hrest] at hskip
    split at h
    · cases h
      exact makes_nil (by grind) (by dsimp only; omega)
    · exact hsettle h
  · split at h
    · cases h
      exact makes_nil (Nat.zero_le _) (Nat.le_add_right _ _)
    · exact hsettle h
  · exact hsettle h

end Step

/-- Tokens of a text of some size: the names among them are simple, the text pays for them, and their
lines never decrease. -/
structure AreTokensOf (size : Nat) (tokens : List Token) : Prop where
  names : NamesAreSimple tokens
  paid : cost tokens ≤ size
  lines : (tokens.map (·.line)).Pairwise (· ≤ ·)

/-- Tokens that are paid for and lead from one line to another are those of a text. -/
theorem Proceeds.areTokensOf {tokens : List Token} {line next size : Nat}
    (hlines : Proceeds line tokens next) (hnames : NamesAreSimple tokens) (hpaid : cost tokens ≤ size) :
    AreTokensOf size tokens where
  names := hnames
  paid := hpaid
  lines := hlines.sublist ((List.sublist_cons_self _ _).trans (List.sublist_append_left _ _))

/-- Cutting on from some place gives the tokens of a text, if the names among those before it are simple
and their lines lead to it. -/
theorem cutFrom_spec (fuel : Nat) {done : List Token} (cut : Cut) {line : Nat}
    (hdone : NamesAreSimple done) (hlines : Proceeds line done.reverse cut.line) :
    AreTokensOf (cost done + cut.rest.length) (cutFrom fuel done cut).tokens := by
  induction fuel generalizing done cut with
  | zero => exact hlines.areTokensOf (namesAreSimple_reverse.mpr hdone) (by simp)
  | succ fuel ih =>
    have hstop : AreTokensOf (cost done + cut.rest.length) done.reverse :=
      hlines.areTokensOf (namesAreSimple_reverse.mpr hdone) (by simp)
    unfold cutFrom
    dsimp only
    -- What is skipped in front of a token pays for nothing and ends no line.
    have hhere : (if cut.atLineStart = true then cut
          else { cut with rest := skipToToken cut.rest }).rest.length ≤ cut.rest.length ∧
        (if cut.atLineStart = true then cut
          else { cut with rest := skipToToken cut.rest }).line = cut.line := by
      split
      · exact ⟨Nat.le_refl _, rfl⟩
      · exact ⟨length_skipToToken _, rfl⟩
    generalize (if cut.atLineStart = true then cut else _) = here at hhere ⊢
    obtain ⟨hrest, hline⟩ := hhere
    rw [← hline] at hlines
    split
    · split
      · rw [List.reverse_cons]
        have hend : Proceeds here.line [⟨.textEnd, here.line, true⟩] here.line :=
          proceeds_of_forall (List.forall_mem_singleton.mpr rfl) (Nat.le_refl _)
        exact (hlines.trans hend).areTokensOf (by simp [hdone]) (by simp [Lexeme.cost])
      · exact hstop
    · split
      · exact hstop
      · rename_i tokens next hstep
        have hmakes : Makes here.rest here.line tokens next := by
          split at hstep
          · exact makes_cutMargin hstep
          · exact makes_cutToken hstep
        have hnext := @ih (tokens.reverse ++ done) next (by simp [hmakes.names, hdone])
          (by simpa using hlines.trans hmakes.lines)
        have hpaid := hmakes.paid
        have hcost := hnext.paid
        rw [cost_append, cost_reverse] at hcost
        exact { hnext with paid := by omega }

/-- A text is cut into tokens of a text of its length. -/
theorem tokens_spec {text : List Char} {found : List Token} (h : tokens text = some found) :
    AreTokensOf text.length found := by
  unfold tokens at h
  dsimp only at h
  split at h
  · cases h
  · obtain rfl := Option.some.inj h
    have hstart : Proceeds 1 [] 1 := proceeds_of_forall (List.forall_mem_nil _) (Nat.le_refl _)
    simpa [cutting] using
      cutFrom_spec (2 * text.length + 3) ⟨text, 1, [], [], true⟩ namesAreSimple_nil hstart

end Source

end ServiceManifest
