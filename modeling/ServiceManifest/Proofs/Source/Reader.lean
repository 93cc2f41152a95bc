import Mathlib
import ServiceManifest.Proofs.Source.Lexer
import ServiceManifest.Source.Grammar.Basic

/-!
# What readers take from tokens

A reader takes tokens from the front and gives a result for them. What is counted of a result never
costs more than the tokens that were taken, and where all names among the tokens are simple, those of
the result are. Readers that are made of others keep both, since what is left is handed on from one
to the next.
-/

set_option mvcgen.warning false

namespace ServiceManifest.Source

open Std.Do

/-- The lexeme at the front of tokens; behind the last is the end of the text. -/
def frontOf : List Token → Lexeme
  | token :: _ => token.lexeme
  | [] => .textEnd

/-- The line of the token at the front. -/
def frontLine : List Token → Nat
  | token :: _ => token.line
  | [] => 0

/-- Names behind the front are names. -/
@[simp] theorem namesAreSimple_tail {tokens : List Token} (h : NamesAreSimple tokens) :
    NamesAreSimple tokens.tail :=
  fun token htoken => h token (List.mem_of_mem_tail htoken)

/-- Taking the token at the front leaves the cost of the others. -/
theorem cost_tail (tokens : List Token) :
    cost tokens = (frontOf tokens).cost + cost tokens.tail := by
  cases tokens <;> simp [frontOf, Lexeme.cost]

/-- A name at the front is simple. -/
theorem isSimple_of_frontOf {tokens : List Token} (h : NamesAreSimple tokens) {id : String}
    (hid : frontOf tokens = .name id) : IsSimple id := by
  cases tokens with
  | nil => cases hid
  | cons token rest => exact h token List.mem_cons_self id hid

namespace Reader

variable {α : Type}

/-- What a reader does that began at some tokens and left others: those that it took stood in front of
the others and cost no less than what is counted of its result, and where names are simple, the result
is as it should be. -/
structure Leaves (start rest : List Token) (size : Nat) (result : Prop) : Prop where
  suffix : rest <:+ start
  paid : cost rest + size ≤ cost start
  names : NamesAreSimple start → NamesAreSimple rest ∧ result

/-- A reader that takes nothing. -/
abbrev Looks (start : List Token) (reader : Reader α) : Prop :=
  ⦃fun tokens => ⌜tokens = start⌝⦄ reader ⦃⇓? _ => fun rest => ⌜rest = start⌝⦄

/-- A reader that takes tokens for all that is counted of its result, which is as it should be where
names are simple. -/
abbrev Takes (start : List Token) (reader : Reader α) (size : α → Nat) (result : α → Prop) : Prop :=
  ⦃fun tokens => ⌜tokens = start⌝⦄ reader
    ⦃⇓? found => fun rest => ⌜Leaves start rest (size found) (result found)⌝⦄

/-- A reader of whose result nothing is counted. -/
abbrev Passes (start : List Token) (reader : Reader α) : Prop :=
  Takes start reader (fun _ => 0) fun _ => True

/-- What is left is known by what stood in front of it, what was paid and its names. -/
@[grind =] theorem leaves_iff {start rest : List Token} {size : Nat} {result : Prop} :
    Leaves start rest size result ↔ rest <:+ start ∧
      cost rest + size ≤ cost start ∧ (NamesAreSimple start → NamesAreSimple rest ∧ result) :=
  ⟨fun h => ⟨h.suffix, h.paid, h.names⟩, fun h => ⟨h.1, h.2.1, h.2.2⟩⟩

/-- A reader takes what it pays for, if it keeps names simple. -/
theorem takes_of {start : List Token} {reader : Reader α} {size : α → Nat} {result : α → Prop}
    (h : ⦃fun tokens => ⌜tokens = start⌝⦄ reader ⦃⇓? found => fun rest =>
      ⌜rest <:+ start ∧ cost rest + size found ≤ cost start ∧
        (NamesAreSimple start → NamesAreSimple rest ∧ result found)⌝⦄) :
    Takes start reader size result := by
  simpa only [Takes, leaves_iff] using h

/-- What holds after a reader is what holds after every run of it. -/
theorem reads_iff {start : List Token} {reader : Reader α} {post : α → List Token → Prop} :
    ⦃fun tokens => ⌜tokens = start⌝⦄ reader ⦃⇓? found => fun rest => ⌜post found rest⌝⦄ ↔
      ∀ found rest, reader start = some (found, rest) → post found rest := by
  constructor
  · intro h found rest hrun
    have hgiven := h start rfl
    simp only [wp, StateT.run, PredTrans.apply_pushArg, hrun] at hgiven
    exact hgiven
  · intro h tokens htokens
    obtain rfl : tokens = start := htokens
    cases hrun : reader tokens with
    | none =>
      simp only [wp, StateT.run, PredTrans.apply_pushArg, hrun]
      trivial
    | some found =>
      simp only [wp, StateT.run, PredTrans.apply_pushArg, hrun]
      exact h found.1 found.2 hrun

/-- A reader takes tokens for its result if every run of it does. -/
theorem takes_iff {start : List Token} {reader : Reader α} {size : α → Nat} {result : α → Prop} :
    Takes start reader size result ↔ ∀ found rest, reader start = some (found, rest) →
      Leaves start rest (size found) (result found) :=
  reads_iff

/-- After a reader that is tried where another one gives up holds what holds after both. -/
theorem orElse_reads {start : List Token} {first second : Reader α} {post : α → List Token → Prop}
    (hfirst : ⦃fun tokens => ⌜tokens = start⌝⦄ first ⦃⇓? found => fun rest => ⌜post found rest⌝⦄)
    (hsecond : ⦃fun tokens => ⌜tokens = start⌝⦄ second ⦃⇓? found => fun rest => ⌜post found rest⌝⦄) :
    ⦃fun tokens => ⌜tokens = start⌝⦄ (first <|> second)
      ⦃⇓? found => fun rest => ⌜post found rest⌝⦄ := by
  rw [reads_iff] at *
  intro found rest hrun
  have hcases : first start = some (found, rest) ∨ second start = some (found, rest) := by
    change (first start).orElse (fun _ => second start) = _ at hrun
    cases hone : first start with
    | none => exact .inr (by simpa [hone] using hrun)
    | some _ => exact .inl (by simpa [hone] using hrun)
  exact hcases.elim (hfirst found rest) (hsecond found rest)

/-- A reader that rejects gives no result. -/
@[spec] theorem reject_spec : ⦃⌜True⌝⦄ (reject : Reader α) ⦃⇓? _ => ⌜False⌝⦄ := by
  intro tokens _
  trivial

@[spec] theorem peek_spec (start : List Token) :
    ⦃fun tokens => ⌜tokens = start⌝⦄ peek
      ⦃⇓? found => fun rest => ⌜rest = start ∧ found = frontOf start⌝⦄ := by
  mvcgen [peek] with (subst_vars; exact ⟨rfl, rfl⟩)

@[spec] theorem peekSecond_spec (start : List Token) : Looks start peekSecond := by
  mvcgen [peekSecond] with simp_all

@[spec] theorem line_spec (start : List Token) :
    ⦃fun tokens => ⌜tokens = start⌝⦄ line
      ⦃⇓? found => fun rest => ⌜rest = start ∧ found = frontLine start⌝⦄ := by
  mvcgen [line] with (subst_vars; exact ⟨rfl, rfl⟩)

@[spec] theorem advance_spec (start : List Token) :
    ⦃fun tokens => ⌜tokens = start⌝⦄ advance ⦃⇓? _ => fun rest => ⌜rest = start.tail⌝⦄ := by
  mvcgen [advance] with (subst_vars; exact List.drop_one)

/-- Taking the token at the front leaves the others. -/
theorem leaves_tail (start : List Token) : Leaves start start.tail (frontOf start).cost True := by
  rw [leaves_iff, cost_tail start]
  exact ⟨List.tail_suffix start, by omega, fun h => ⟨namesAreSimple_tail h, trivial⟩⟩

@[spec] theorem take?_spec (start : List Token) (lexeme : Lexeme) :
    Takes start (take? lexeme) (fun found => if found then lexeme.cost else 0) fun _ => True := by
  mvcgen [take?] with grind [leaves_tail]

@[spec] theorem expect_spec (start : List Token) (lexeme : Lexeme) :
    Takes start (expect lexeme) (fun _ => lexeme.cost) fun _ => True := by
  mvcgen [expect] with simp_all

@[spec] theorem atMark_spec (start : List Token) (text : String) :
    Looks start (atMark text) := by
  mvcgen [atMark] with simp_all

@[spec] theorem atKeyword_spec (start : List Token) (word : String) :
    Looks start (atKeyword word) := by
  mvcgen [atKeyword] with simp_all

@[spec] theorem atWord_spec (start : List Token) (word : String) :
    Looks start (atWord word) := by
  mvcgen [atWord] with simp_all

@[spec] theorem word_spec (start : List Token) (text : String) :
    Takes start (word text) (fun _ => 0) fun _ => True := by
  mvcgen [word] with grind [leaves_tail]

@[spec] theorem mark?_spec (start : List Token) (text : String) :
    Takes start (mark? text) (fun found => if found then 1 else 0) fun _ => True :=
  take?_spec start (.mark text)

@[spec] theorem keyword?_spec (start : List Token) (word : String) :
    Takes start (keyword? word) (fun found => if found then 1 else 0) fun _ => True :=
  take?_spec start (.keyword word)

@[spec] theorem mark_spec (start : List Token) (text : String) :
    Takes start (mark text) (fun _ => 1) fun _ => True :=
  expect_spec start (.mark text)

@[spec] theorem keyword_spec (start : List Token) (word : String) :
    Takes start (keyword word) (fun _ => 1) fun _ => True :=
  expect_spec start (.keyword word)

@[spec] theorem name_spec (start : List Token) : Takes start name (fun _ => 1) IsSimple := by
  mvcgen [name] with grind [leaves_tail, isSimple_of_frontOf, Lexeme.cost]

@[spec] theorem oneOf?_spec (start : List Token) (marks : List String) :
    Takes start (oneOf? marks) (fun found => if found then 1 else 0) fun _ => True := by
  mvcgen [oneOf?] with grind [leaves_tail, Lexeme.cost]

section Repeated

variable {item : Reader (Option α)}

/-- Items that are repeated take as much as all of them together. -/
theorem repeated_takes {size : α → Nat} {result : α → Prop}
    (hitem : ∀ start, Takes start item (fun found => (found.map size).getD 0) fun found =>
      ∀ a ∈ found, result a) (bound : Nat) (start : List Token) :
    Takes start (repeated item bound) (fun found => (found.map size).sum) fun found =>
      ∀ a ∈ found, result a := by
  induction bound generalizing start with
  | zero =>
    mvcgen [repeated]
    simp_all
  | succ bound ih =>
    apply takes_of
    mvcgen [repeated, hitem, ih] with grind

@[spec] theorem repeated_spec (hitem : ∀ start, Takes start item (fun _ => 0) fun _ => True)
    (bound : Nat) (start : List Token) :
    Takes start (repeated item bound) (fun _ => 0) fun _ => True := by
  induction bound generalizing start with
  | zero =>
    mvcgen [repeated]
    simp_all
  | succ bound ih =>
    apply takes_of
    mvcgen [repeated, hitem, ih] with grind

end Repeated

/-- Items with commas between them take as much as all of them and the commas together. -/
theorem separated_takes {item : Reader α} {ends : Reader Bool} {size : α → Nat}
    {result : α → Prop} (hsize : ∀ a, 0 < size a) (hitem : ∀ start, Takes start item size result)
    (hends : ∀ start, Looks start ends) (bound : Nat) (start : List Token) :
    Takes start (separated item ends bound)
      (fun found => max 1 ((found.1.map (size · + 1)).sum - if found.2 then 0 else 1))
      fun found => ∀ a ∈ found.1, result a := by
  induction bound generalizing start with
  | zero =>
    mvcgen [separated]
    simp_all
  | succ bound ih =>
    apply takes_of
    mvcgen [separated, hitem, hends, ih] with grind

@[spec] theorem separated_spec {item : Reader α} {ends : Reader Bool}
    (hitem : ∀ start, Passes start item) (hends : ∀ start, Looks start ends) (bound : Nat)
    (start : List Token) : Passes start (separated item ends bound) := by
  induction bound generalizing start with
  | zero =>
    mvcgen [separated]
    simp_all
  | succ bound ih =>
    apply takes_of
    mvcgen [separated, hitem, hends, ih] with grind

end Reader

end ServiceManifest.Source
