import Mathlib
import ServiceManifest.Project.Resolve
import ServiceManifest.Proofs.Source.Reader
import ServiceManifest.Source.Grammar.Pattern

/-!
# What the grammar makes of tokens

An expression is read from tokens that cost at least as much as resolution can go through in it, and
its names are names among the tokens. Each reader of the grammar is shown to keep both by what the
readers in it do; where one repeats others, a bound on its depth is what the induction is on.
-/

set_option mvcgen.warning false

namespace ServiceManifest.Source

open Project Reader Std.Do

namespace Expr

/-- All names in an expression are simple. -/
inductive NamesAreSimple : Expr → Prop
  | name {id : String} (hid : IsSimple id) : NamesAreSimple (.name id)
  | attribute {value : Expr} {member : String} (hvalue : NamesAreSimple value)
      (hmember : IsSimple member) : NamesAreSimple (.attribute value member)
  | subscript {value : Expr} {elements : List Expr} (hvalue : NamesAreSimple value)
      (helements : ∀ element ∈ elements, NamesAreSimple element) :
      NamesAreSimple (.subscript value elements)
  | call {function : Expr} {arguments : List Expr} {keywords : List (Option String × Expr)}
      (hfunction : NamesAreSimple function)
      (harguments : ∀ argument ∈ arguments, NamesAreSimple argument)
      (hkeywords : ∀ keyword ∈ keywords, NamesAreSimple keyword.2) :
      NamesAreSimple (.call function arguments keywords)
  | text {codes : List Nat} : NamesAreSimple (.text codes)
  | sequence {form : SequenceForm} {items : List Expr}
      (hitems : ∀ item ∈ items, NamesAreSimple item) : NamesAreSimple (.sequence form items)
  | starred {value : Expr} (hvalue : NamesAreSimple value) : NamesAreSimple (.starred value)
  | other {form : ExpressionForm} : NamesAreSimple (.other form)

@[simp, grind =] theorem namesAreSimple_name {id : String} :
    NamesAreSimple (.name id) ↔ IsSimple id :=
  ⟨fun h => by cases h; assumption, .name⟩

@[simp, grind =] theorem namesAreSimple_attribute {value : Expr} {member : String} :
    NamesAreSimple (.attribute value member) ↔ NamesAreSimple value ∧ IsSimple member :=
  ⟨fun h => by cases h; exact ⟨‹_›, ‹_›⟩, fun h => .attribute h.1 h.2⟩

@[simp, grind =] theorem namesAreSimple_subscript {value : Expr} {elements : List Expr} :
    NamesAreSimple (.subscript value elements) ↔
      NamesAreSimple value ∧ ∀ element ∈ elements, NamesAreSimple element :=
  ⟨fun h => by cases h; exact ⟨‹_›, ‹_›⟩, fun h => .subscript h.1 h.2⟩

@[simp, grind =] theorem namesAreSimple_call {function : Expr} {arguments : List Expr}
    {keywords : List (Option String × Expr)} :
    NamesAreSimple (.call function arguments keywords) ↔ NamesAreSimple function ∧
      (∀ argument ∈ arguments, NamesAreSimple argument) ∧
        ∀ keyword ∈ keywords, NamesAreSimple keyword.2 :=
  ⟨fun h => by cases h; exact ⟨‹_›, ‹_›, ‹_›⟩, fun h => .call h.1 h.2.1 h.2.2⟩

@[simp, grind .] theorem namesAreSimple_text {codes : List Nat} :
    NamesAreSimple (.text codes) := .text

@[simp, grind =] theorem namesAreSimple_sequence {form : SequenceForm} {items : List Expr} :
    NamesAreSimple (.sequence form items) ↔ ∀ item ∈ items, NamesAreSimple item :=
  ⟨fun h => by cases h; assumption, .sequence⟩

@[simp, grind =] theorem namesAreSimple_starred {value : Expr} :
    NamesAreSimple (.starred value) ↔ NamesAreSimple value :=
  ⟨fun h => by cases h; assumption, .starred⟩

@[simp, grind .] theorem namesAreSimple_other {form : ExpressionForm} :
    NamesAreSimple (.other form) :=
  .other

/-- What an expression counts among tokens. A sequence weighs little, but the subscript around it may
take its items for elements, so it counts for them. -/
def span : Expr → Nat
  | .sequence _ items => max 1 (weightAll items - 1)
  | expr => weight expr

/-- Every expression counts something. -/
theorem span_pos (expr : Expr) : 0 < expr.span := by
  unfold span
  split
  · omega
  · exact weight_pos expr

grind_pattern span_pos => Expr.span expr

/-- An expression counts what resolution can go through in it. -/
theorem weight_le_span (expr : Expr) : weight expr ≤ expr.span := by
  unfold span
  split
  · simp [weight]
  · exact Nat.le_refl _

grind_pattern weight_le_span => weight expr

@[simp, grind =] theorem span_name {id : String} : (Expr.name id).span = 1 := rfl

@[simp, grind =] theorem span_attribute {value : Expr} {member : String} :
    (Expr.attribute value member).span = 1 := rfl

@[simp, grind =] theorem span_call {function : Expr} {arguments : List Expr}
    {keywords : List (Option String × Expr)} : (Expr.call function arguments keywords).span = 1 := rfl

@[simp, grind =] theorem span_starred {value : Expr} : (Expr.starred value).span = 1 := rfl

@[simp, grind =] theorem span_other {form : ExpressionForm} : (Expr.other form).span = 1 := rfl

@[simp, grind =] theorem span_text {codes : List Nat} :
    (Expr.text codes).span = codes.length + 1 := by
  simp [span, weight]

@[simp, grind =] theorem span_subscript {value : Expr} {elements : List Expr} :
    (Expr.subscript value elements).span = weight value + weightAll elements + 1 := by
  simp [span, weight]

@[simp, grind =] theorem span_sequence {form : SequenceForm} {items : List Expr} :
    (Expr.sequence form items).span = max 1 (weightAll items - 1) := by
  simp [span]

@[simp, grind =] theorem weightAll_nil : weightAll [] = 0 := by simp [weightAll]

@[simp, grind =] theorem weightAll_cons {item : Expr} {rest : List Expr} :
    weightAll (item :: rest) = weight item + 1 + weightAll rest := by
  simp [weightAll]

/-- Elements weigh no more than what they and the commas between them count. -/
theorem weightAll_le (items : List Expr) : weightAll items ≤ (items.map (·.span + 1)).sum := by
  induction items with
  | nil => simp [weightAll]
  | cons item rest ih =>
    have := weight_le_span item
    simp only [weightAll, List.map_cons, List.sum_cons]
    omega

grind_pattern weightAll_le => weightAll items

end Expr

namespace Grammar

@[spec] theorem atEndOfExpressions_spec (start : List Token) : Looks start atEndOfExpressions := by
  mvcgen [atEndOfExpressions] with simp_all

@[spec] theorem atBinding_spec (start : List Token) : Looks start atBinding := by
  mvcgen [atBinding] with simp_all

@[spec] theorem atComprehension_spec (start : List Token) : Looks start atComprehension := by
  mvcgen [atComprehension] with simp_all

/-- A reader of an expression: it takes tokens for what the expression counts, and the names in it are
among theirs. -/
abbrev Gives (start : List Token) (reader : Reader Expr) : Prop :=
  Takes start reader Expr.span Expr.NamesAreSimple

@[spec] theorem hint_spec {reader : Reader Expr} (hreader : ∀ start, Gives start reader)
    (style : ParameterStyle) (start : List Token) : Passes start (hint style reader) := by
  apply takes_of
  mvcgen [hint, hreader] with grind

@[spec] theorem parametersEnd_spec (style : ParameterStyle) (start : List Token) :
    Passes start (parametersEnd style) := by
  apply takes_of
  mvcgen [parametersEnd] with grind

@[spec] theorem chain_spec {operand : Reader Expr} {operator : Reader Bool}
    (hoperand : ∀ start, Gives start operand) (hoperator : ∀ start, Passes start operator)
    (bound : Nat) (form : ExpressionForm) (start : List Token) :
    Gives start (chain bound operand operator form) := by
  apply takes_of
  mvcgen [chain, hoperand, hoperator] with grind

@[spec] theorem comparisonOperator_spec (start : List Token) : Passes start comparisonOperator := by
  apply takes_of
  mvcgen [comparisonOperator] with grind [leaves_tail]

/-- Items with commas between them count what the tuple of them does. -/
theorem tupleOf_spec (items : List Expr) (comma : Bool) :
    (tupleOf items comma).span ≤ max 1 ((items.map (·.span + 1)).sum - if comma then 0 else 1) ∧
      ((∀ item ∈ items, item.NamesAreSimple) → (tupleOf items comma).NamesAreSimple) := by
  have hweight := Expr.weightAll_le items
  fun_cases tupleOf items comma
  · simp
  · rw [Expr.span_sequence]
    exact ⟨by split <;> omega, by simp⟩

/-- The code points of a text literal. -/
def literalCodes (value : StringValue) : List Nat :=
  match value with
  | .text codes => codes
  | _ => []

/-- A literal costs its code points and one more. -/
theorem length_flatMap_literalCodes (values : List StringValue) :
    (values.flatMap literalCodes).length + values.length ≤
      (values.map fun value => (Lexeme.string value).cost).sum := by
  induction values with
  | nil => simp
  | cons value rest ih =>
    have hvalue : (literalCodes value).length + 1 ≤ (Lexeme.string value).cost := by
      cases value <;> simp [literalCodes, Lexeme.cost]
    simp only [List.flatMap_cons, List.length_append, List.length_cons, List.map_cons, List.sum_cons]
    omega

/-- Literals beside each other cost what the text that they are joined to counts. -/
theorem joinLiterals_spec {values : List StringValue} {joined : Expr} (hvalues : values ≠ [])
    (h : joinLiterals values = some joined) :
    joined.span ≤ (values.map fun value => (Lexeme.string value).cost).sum ∧
      joined.NamesAreSimple := by
  have hcost := length_flatMap_literalCodes values
  have hlength := List.length_pos_of_ne_nil hvalues
  unfold joinLiterals at h
  change (if _ then _ else if _ then _ else if _ then _ else if _ then _ else
    some (.text (values.flatMap literalCodes))) = some joined at h
  grind

/-- Literals are taken at their cost, at least one of them where a literal is at the front. -/
theorem literals_takes {item : Reader (Option StringValue)}
    (hitem : ∀ start, ⦃fun tokens => ⌜tokens = start⌝⦄ item ⦃⇓? found => fun rest =>
      ⌜Leaves start rest ((found.map fun value => (Lexeme.string value).cost).getD 0) True ∧
        ∀ value, frontOf start = .string value → found ≠ none⌝⦄)
    (bound : Nat) (start : List Token) (hfront : ∃ value, frontOf start = .string value) :
    ⦃fun tokens => ⌜tokens = start⌝⦄ repeated item bound ⦃⇓? values => fun rest =>
      ⌜Leaves start rest (values.map fun value => (Lexeme.string value).cost).sum True ∧
        values ≠ []⌝⦄ := by
  have hmore := @repeated_takes _ item (fun value => (Lexeme.string value).cost) (fun _ => True)
    fun start => by
      apply takes_of
      mvcgen [hitem] with grind
  cases bound with
  | zero =>
    mvcgen [repeated, -repeated_spec]
    simp_all
  | succ bound =>
    have hrest := hmore bound
    mvcgen [repeated, hitem, hrest, -repeated_spec] with grind

@[spec] theorem strings_spec (bound : Nat) (start : List Token)
    (hfront : ∃ value, frontOf start = .string value) :
    Gives start (strings bound) := by
  apply takes_of
  mvcgen [strings, literals_takes, -repeated_spec] with grind [leaves_tail, → joinLiterals_spec]

section Expression

variable {next : Production → Reader Expr}
  (hnext : ∀ production start, Gives start (next production))

include hnext

@[spec] theorem starOr_spec (plain : Production) (start : List Token) :
    Gives start (starOr next plain) := by
  apply takes_of
  mvcgen [starOr, hnext] with grind

@[spec] theorem starExpressions_spec (bound : Nat) (start : List Token) :
    Gives start (starExpressions bound next) := by
  have hitems := separated_takes Expr.span_pos (starOr_spec hnext .expression)
    atEndOfExpressions_spec bound
  apply takes_of
  mvcgen [starExpressions, hitems, -separated_spec] with grind [tupleOf_spec]

@[spec] theorem named_spec (start : List Token) : Gives start (named next) := by
  apply takes_of
  mvcgen [named, hnext] with grind [leaves_tail]

@[spec] theorem yieldExpression_spec (start : List Token) : Gives start (yieldExpression next) := by
  apply takes_of
  mvcgen [yieldExpression, hnext] with grind

@[spec] theorem parametersFrom_spec (style : ParameterStyle) (bound : Nat)
    (state : ParameterState) (start : List Token) :
    Passes start (parametersFrom style next bound state) := by
  induction bound generalizing state start with
  | zero =>
    apply takes_of
    mvcgen [parametersFrom]
    simp_all
  | succ bound ih =>
    apply takes_of
    mvcgen [parametersFrom, hnext, ih] with grind

@[spec] theorem parameters_spec (style : ParameterStyle) (bound : Nat) (start : List Token) :
    Passes start (parameters style bound next) := by
  apply takes_of
  mvcgen [parameters, hnext] with grind

@[spec] theorem plainExpression_spec (bound : Nat) (start : List Token) :
    Gives start (plainExpression bound next) := by
  apply takes_of
  mvcgen [plainExpression, hnext] with grind

@[spec] theorem binary_spec (bound level : Nat) (start : List Token) :
    Gives start (binary bound level next) := by
  apply takes_of
  mvcgen [binary, hnext] with grind

@[spec] theorem factor_spec (start : List Token) : Gives start (factor next) := by
  apply takes_of
  mvcgen [factor, hnext] with grind

@[spec] theorem inversion_spec (start : List Token) : Gives start (inversion next) := by
  apply takes_of
  mvcgen [inversion, hnext] with grind

@[spec] theorem power_spec (start : List Token) : Gives start (power next) := by
  apply takes_of
  mvcgen [power, hnext] with grind

@[spec] theorem target_spec (start : List Token) : Gives start (target next) := by
  apply takes_of
  mvcgen [target, hnext] with grind

@[spec] theorem loopTargets_spec (bound : Nat) (start : List Token) :
    Passes start (loopTargets bound next) := by
  have hitems := separated_takes Expr.span_pos (target_spec hnext)
    (fun start => atKeyword_spec start "in") bound
  apply takes_of
  mvcgen [loopTargets, hitems, -separated_spec] with grind

@[spec] theorem comprehension_spec (bound : Nat) (start : List Token) :
    Passes start (comprehension bound next) := by
  apply takes_of
  mvcgen [comprehension, hnext] with grind

/-- All names in arguments are simple. -/
def Arguments.NamesAreSimple (found : Arguments) : Prop :=
  (∀ argument ∈ found.positional, argument.NamesAreSimple) ∧
    ∀ keyword ∈ found.keywords, keyword.2.NamesAreSimple

@[spec] theorem argumentsFrom_spec (generator : Bool) (bound : Nat) (done : Arguments)
    (start : List Token) : Takes start (argumentsFrom generator next bound done) (fun _ => 0)
      fun found => done.NamesAreSimple → found.NamesAreSimple := by
  induction bound generalizing done start with
  | zero =>
    mvcgen [argumentsFrom]
    simp_all
  | succ bound ih =>
    apply takes_of
    mvcgen [argumentsFrom, hnext, ih] with grind [leaves_tail, Arguments.NamesAreSimple]

@[spec] theorem arguments_spec (generator : Bool) (bound : Nat) (start : List Token) :
    Takes start (arguments generator bound next) (fun _ => 0) Arguments.NamesAreSimple := by
  apply takes_of
  mvcgen [arguments, hnext] with grind [Arguments.NamesAreSimple]

@[spec] theorem sliceBound_spec (start : List Token) : Passes start (sliceBound next) := by
  apply takes_of
  mvcgen [sliceBound, hnext] with grind

@[spec] theorem sliceRest_spec (start : List Token) :
    Takes start (sliceRest next) (·.span - 1) Expr.NamesAreSimple := by
  apply takes_of
  mvcgen [sliceRest, hnext] with grind

@[spec] theorem subscriptItem_spec (start : List Token) : Gives start (subscriptItem next) := by
  apply takes_of
  mvcgen [subscriptItem, hnext] with grind [leaves_tail]

@[spec] theorem subscriptItems_spec (bound : Nat) (start : List Token) :
    Takes start (subscriptItems bound next) weightAll
      fun found => ∀ element ∈ found, element.NamesAreSimple := by
  have hitems := separated_takes Expr.span_pos (subscriptItem_spec hnext)
    (fun start => atMark_spec start "]") bound
  apply takes_of
  mvcgen [subscriptItems, hitems, -separated_spec]
  · rename_i found _ _ _ elements _ htuple _ _
    have hall : (∀ item ∈ found.1, item.NamesAreSimple) ↔
        ∀ element ∈ elements, element.NamesAreSimple := by
      rw [htuple, List.forall_mem_singleton, Expr.namesAreSimple_sequence]
    grind
  · grind

@[spec] theorem trailer_spec (bound : Nat) (base : Expr) (start : List Token) :
    Takes start (trailer bound next base)
      (fun found => (found.map Expr.span).getD base.span - base.span)
      fun found => base.NamesAreSimple → ∀ longer ∈ found, longer.NamesAreSimple := by
  apply takes_of
  mvcgen [trailer, hnext] with grind [Arguments.NamesAreSimple]

@[spec] theorem withTrailers_spec (bound : Nat) (base : Expr) (start : List Token) :
    Takes start (withTrailers next bound base) (·.span - base.span)
      fun found => base.NamesAreSimple → found.NamesAreSimple := by
  induction bound generalizing base start with
  | zero =>
    mvcgen [withTrailers]
    simp_all
  | succ bound ih =>
    apply takes_of
    mvcgen [withTrailers, hnext, ih] with grind

@[spec] theorem moreItems_spec (closer : String) (bound : Nat) (start : List Token) :
    Takes start (moreItems closer bound next) weightAll
      fun found => ∀ item ∈ found, item.NamesAreSimple := by
  have hitems := separated_takes Expr.span_pos (hnext .starNamed)
    (fun start => atMark_spec start closer) bound
  apply takes_of
  mvcgen [moreItems, hitems, -separated_spec] with grind

@[spec] theorem parenthesised_spec (bound : Nat) (start : List Token) :
    Takes start (parenthesised bound next) (·.span - 1) Expr.NamesAreSimple := by
  apply takes_of
  mvcgen [parenthesised, hnext] with grind

@[spec] theorem bracketed_spec (bound : Nat) (start : List Token) :
    Takes start (bracketed bound next) (·.span - 1) Expr.NamesAreSimple := by
  apply takes_of
  mvcgen [bracketed, hnext] with grind

@[spec] theorem pair_spec (start : List Token) :
    Takes start (pair next) (fun _ => 1) fun _ => True := by
  apply takes_of
  mvcgen [pair, hnext] with grind

@[spec] theorem morePairs_spec (bound : Nat) (start : List Token) :
    Gives start (morePairs bound next) := by
  have hpairs := separated_takes (fun _ => Nat.one_pos) (pair_spec hnext)
    (fun start => atMark_spec start "\x7d") bound
  apply takes_of
  mvcgen [morePairs, hpairs, -separated_spec] with grind

@[spec] theorem braced_spec (bound : Nat) (start : List Token) :
    Takes start (braced bound next) (·.span - 1) Expr.NamesAreSimple := by
  apply takes_of
  mvcgen [braced, hnext] with grind

@[spec] theorem atom_spec (bound : Nat) (start : List Token) : Gives start (atom bound next) := by
  apply takes_of
  mvcgen [atom, hnext] with grind [leaves_tail, isSimple_of_frontOf, Lexeme.cost]

@[spec] theorem primary_spec (bound : Nat) (start : List Token) :
    Gives start (primary bound next) := by
  apply takes_of
  mvcgen [primary, hnext] with grind

/-- Every production gives an expression if those that it is made of do. -/
@[spec] theorem produce_spec (bound : Nat) (production : Production) (start : List Token) :
    Gives start (produce bound next production) := by
  cases production <;> apply takes_of <;> mvcgen [produce, hnext] with grind

end Expression

/-- Every production gives an expression, however deep it is nested. -/
@[spec] theorem expression_spec (bound : Nat) (production : Production) (start : List Token) :
    Gives start (expression bound production) := by
  -- Below the bound nothing is read; above it a production has only readers of one level less.
  induction bound generalizing production start with
  | zero =>
    mvcgen [expression]
    simp_all
  | succ bound ih => exact produce_spec ih bound production start

@[spec] theorem continuesName_spec (start : List Token) : Looks start continuesName := by
  mvcgen [continuesName] with simp_all

@[spec] theorem captureTarget_spec (start : List Token) : Passes start captureTarget := by
  apply takes_of
  mvcgen [captureTarget] with grind [leaves_tail]

@[spec] theorem signedNumber_spec (start : List Token) : Passes start signedNumber := by
  apply takes_of
  mvcgen [signedNumber] with grind [leaves_tail]

@[spec] theorem numberPattern_spec (start : List Token) : Passes start numberPattern := by
  apply takes_of
  mvcgen [numberPattern] with grind [leaves_tail]

@[spec] theorem members_spec (bound : Nat) (start : List Token) : Passes start (members bound) := by
  induction bound generalizing start with
  | zero =>
    mvcgen [members]
    simp_all
  | succ bound ih =>
    apply takes_of
    mvcgen [members, ih] with grind

@[spec] theorem enclosed_spec {item : Reader Unit} (hitem : ∀ start, Passes start item)
    (closer : String) (bound : Nat) (start : List Token) :
    Passes start (enclosed closer bound item) := by
  apply takes_of
  mvcgen [enclosed, hitem] with grind

section Pattern

variable {pattern : Reader Unit} (hpattern : ∀ start, Passes start pattern)

include hpattern

@[spec] theorem sequenceItem_spec (start : List Token) : Passes start (sequenceItem pattern) := by
  apply takes_of
  mvcgen [sequenceItem, hpattern] with grind

@[spec] theorem parenthesisedPattern_spec (bound : Nat) (start : List Token) :
    Passes start (parenthesisedPattern bound pattern) := by
  apply takes_of
  mvcgen [parenthesisedPattern, hpattern] with grind

@[spec] theorem mappingItem_spec (bound : Nat) (start : List Token) :
    Passes start (mappingItem bound pattern) := by
  apply takes_of
  mvcgen [mappingItem, hpattern] with grind [leaves_tail]

@[spec] theorem mappingFrom_spec (bound : Nat) (start : List Token) :
    Passes start (mappingFrom pattern bound) := by
  induction bound generalizing start with
  | zero =>
    mvcgen [mappingFrom]
    simp_all
  | succ bound ih =>
    apply takes_of
    mvcgen [mappingFrom, hpattern, ih] with grind

@[spec] theorem classArguments_spec (bound : Nat) (keyed : Bool) (start : List Token) :
    Passes start (classArguments pattern bound keyed) := by
  induction bound generalizing keyed start with
  | zero =>
    mvcgen [classArguments]
    simp_all
  | succ bound ih =>
    apply takes_of
    mvcgen [classArguments, hpattern, ih] with grind [leaves_tail]

@[spec] theorem closedPattern_spec (bound : Nat) (start : List Token) :
    Passes start (closedPattern bound pattern) := by
  apply takes_of
  mvcgen [closedPattern, hpattern] with grind [leaves_tail]

@[spec] theorem alternatives_spec (bound : Nat) (start : List Token) :
    Passes start (alternatives bound pattern) := by
  apply takes_of
  mvcgen [alternatives, hpattern] with grind

end Pattern

/-- Patterns are passed, however deep they are nested. -/
@[spec] theorem pattern_spec (bound : Nat) (start : List Token) :
    Passes start (Grammar.pattern bound) := by
  induction bound generalizing start with
  | zero =>
    mvcgen [Grammar.pattern]
    simp_all
  | succ bound ih => exact alternatives_spec ih bound start

@[spec] theorem casePatterns_spec (bound : Nat) (start : List Token) :
    Passes start (casePatterns bound) := by
  apply takes_of
  mvcgen [casePatterns] with grind

end Grammar

end ServiceManifest.Source
