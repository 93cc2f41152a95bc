import Mathlib
import ServiceManifest.Project.Index
import ServiceManifest.Proofs.Name
import ServiceManifest.Proofs.Source.Grammar
import ServiceManifest.Proofs.Source.Lines
import ServiceManifest.Proofs.Text.Lines
import ServiceManifest.Source.Parse

/-!
# Names and lines in statements

All names in the statements of a module are simple: what is declared, bound, imported or listed in them
has no delimiter and is not empty, and dotted names are made of such parts. The declarations in them come
in the order of their lines. An expression that is read from a text has no more for resolution to go
through than the text has characters.
-/

set_option mvcgen.warning false

namespace ServiceManifest.Source

open Reader Std.Do

/-- A dotted name with simple parts. -/
def IsDotted (dotted : String) : Prop := ∀ part ∈ nameParts '.' dotted, IsSimple part

/-- A simple name has itself for its only part. -/
theorem IsSimple.isDotted {name : String} (h : IsSimple name) : IsDotted name := by
  unfold IsDotted
  rw [nameParts_eq_singleton h.not_mem]
  exact List.forall_mem_singleton.mpr h

/-- Dotted names behind each other have the parts of both. -/
theorem IsDotted.append {front rest : String} (hfront : IsDotted front) (hrest : IsDotted rest) :
    IsDotted (front ++ "." ++ rest) := by
  unfold IsDotted
  rw [nameParts_append]
  exact List.forall_mem_append.mpr ⟨hfront, hrest⟩

namespace Statement

/-- All names in a statement are simple, and the modules that it imports have dotted names. -/
inductive NamesAreSimple : Statement → Prop
  | classDef {line : Nat} {name : String} {decorators bases : List Expr} {body : List Statement}
      (hname : IsSimple name) (hdecorators : ∀ decorator ∈ decorators, decorator.NamesAreSimple)
      (hbases : ∀ base ∈ bases, base.NamesAreSimple)
      (hbody : ∀ statement ∈ body, NamesAreSimple statement) :
      NamesAreSimple (.classDef line name decorators bases body)
  | functionDef {line : Nat} {name : String} {decorators : List Expr} {body : List Statement}
      (hname : IsSimple name) (hdecorators : ∀ decorator ∈ decorators, decorator.NamesAreSimple)
      (hbody : ∀ statement ∈ body, NamesAreSimple statement) :
      NamesAreSimple (.functionDef line name decorators body)
  | importModules {names : List (String × Option String)}
      (hnames : ∀ entry ∈ names, IsDotted entry.1 ∧ ∀ given ∈ entry.2, IsSimple given) :
      NamesAreSimple (.importModules names)
  | importFrom {level : Nat} {module : String} {names : List (String × Option String)}
      (hmodule : module = "" ∨ IsDotted module)
      (hnames : ∀ entry ∈ names, (entry.1 = "*" ∨ IsSimple entry.1) ∧
        ∀ given ∈ entry.2, IsSimple given) :
      NamesAreSimple (.importFrom level module names)
  | assign {targets : List Expr} {value : Expr} (htargets : ∀ target ∈ targets, target.NamesAreSimple)
      (hvalue : value.NamesAreSimple) : NamesAreSimple (.assign targets value)
  | annotate {target hint : Expr} {value : Option Expr} (htarget : target.NamesAreSimple)
      (hvalue : ∀ given ∈ value, given.NamesAreSimple) :
      NamesAreSimple (.annotate target hint value)
  | compound {atImport : Bool} {body : List Statement}
      (hbody : ∀ statement ∈ body, NamesAreSimple statement) :
      NamesAreSimple (.compound atImport body)
  | other : NamesAreSimple .other

@[simp, grind =] theorem namesAreSimple_classDef {line : Nat} {name : String}
    {decorators bases : List Expr} {body : List Statement} :
    NamesAreSimple (.classDef line name decorators bases body) ↔ IsSimple name ∧
      (∀ decorator ∈ decorators, decorator.NamesAreSimple) ∧
        (∀ base ∈ bases, base.NamesAreSimple) ∧ ∀ statement ∈ body, NamesAreSimple statement :=
  ⟨fun h => by cases h; exact ⟨‹_›, ‹_›, ‹_›, ‹_›⟩, fun h => .classDef h.1 h.2.1 h.2.2.1 h.2.2.2⟩

@[simp, grind =] theorem namesAreSimple_functionDef {line : Nat} {name : String}
    {decorators : List Expr} {body : List Statement} :
    NamesAreSimple (.functionDef line name decorators body) ↔ IsSimple name ∧
      (∀ decorator ∈ decorators, decorator.NamesAreSimple) ∧
        ∀ statement ∈ body, NamesAreSimple statement :=
  ⟨fun h => by cases h; exact ⟨‹_›, ‹_›, ‹_›⟩, fun h => .functionDef h.1 h.2.1 h.2.2⟩

@[simp, grind =] theorem namesAreSimple_importModules {names : List (String × Option String)} :
    NamesAreSimple (.importModules names) ↔
      ∀ entry ∈ names, IsDotted entry.1 ∧ ∀ given ∈ entry.2, IsSimple given :=
  ⟨fun h => by cases h; assumption, .importModules⟩

@[simp, grind =] theorem namesAreSimple_importFrom {level : Nat} {module : String}
    {names : List (String × Option String)} :
    NamesAreSimple (.importFrom level module names) ↔ (module = "" ∨ IsDotted module) ∧
      ∀ entry ∈ names, (entry.1 = "*" ∨ IsSimple entry.1) ∧ ∀ given ∈ entry.2, IsSimple given :=
  ⟨fun h => by cases h; exact ⟨‹_›, ‹_›⟩, fun h => .importFrom h.1 h.2⟩

@[simp, grind =] theorem namesAreSimple_assign {targets : List Expr} {value : Expr} :
    NamesAreSimple (.assign targets value) ↔
      (∀ target ∈ targets, target.NamesAreSimple) ∧ value.NamesAreSimple :=
  ⟨fun h => by cases h; exact ⟨‹_›, ‹_›⟩, fun h => .assign h.1 h.2⟩

@[simp, grind =] theorem namesAreSimple_annotate {target hint : Expr} {value : Option Expr} :
    NamesAreSimple (.annotate target hint value) ↔
      target.NamesAreSimple ∧ ∀ given ∈ value, given.NamesAreSimple :=
  ⟨fun h => by cases h; exact ⟨‹_›, ‹_›⟩, fun h => .annotate h.1 h.2⟩

@[simp, grind =] theorem namesAreSimple_compound {atImport : Bool} {body : List Statement} :
    NamesAreSimple (.compound atImport body) ↔ ∀ statement ∈ body, NamesAreSimple statement :=
  ⟨fun h => by cases h; assumption, .compound⟩

@[simp, grind .] theorem namesAreSimple_other : NamesAreSimple .other := .other

end Statement

namespace Grammar

/-- A reader of a statement in which all names are simple, and of what is declared in it. -/
abbrev States (start : List Token) (reader : Reader Statement) : Prop :=
  Places start reader Statement.NamesAreSimple Statement.lines

/-- A reader of statements in which all names are simple, and of what is declared in them. -/
abbrev StatesAll (start : List Token) (reader : Reader (List Statement)) : Prop :=
  Places start reader (fun found => ∀ statement ∈ found, statement.NamesAreSimple) linesAll

/-- A reader of a definition on a line behind decorators. What is declared in it stands behind. -/
abbrev Defines (start : List Token) (reader : Reader Statement) (line : Nat)
    (decorators : List Expr) : Prop :=
  ⦃fun tokens => ⌜tokens = start⌝⦄ reader ⦃⇓? found => fun rest =>
    ⌜Leaves start rest 0
        ((∀ decorator ∈ decorators, decorator.NamesAreSimple) → found.NamesAreSimple) ∧
      ∃ inner, found.lines = line :: inner ∧ Lists start rest inner⌝⦄

/-- A dotted name has no empty part. -/
@[spec] theorem dottedName_spec (bound : Nat) (start : List Token) :
    Takes start (dottedName bound) (fun _ => 1) IsDotted := by
  induction bound generalizing start with
  | zero =>
    mvcgen [dottedName]
    simp_all
  | succ bound ih =>
    apply takes_of
    mvcgen [dottedName, ih] with grind [IsSimple.isDotted, IsDotted.append]

@[spec] theorem asName_spec (start : List Token) :
    Takes start asName (fun _ => 0) fun found => ∀ given ∈ found, IsSimple given := by
  apply takes_of
  mvcgen [asName] with grind

@[spec] theorem importDots_spec (bound : Nat) (start : List Token) :
    Passes start (importDots bound) := by
  induction bound generalizing start with
  | zero =>
    mvcgen [importDots]
    simp_all
  | succ bound ih =>
    apply takes_of
    mvcgen [importDots, ih] with grind

@[spec] theorem importedName_spec (start : List Token) :
    Takes start importedName (fun _ => 1) fun entry =>
      IsSimple entry.1 ∧ ∀ given ∈ entry.2, IsSimple given := by
  apply takes_of
  mvcgen [importedName] with grind

section Context

variable {context : Context}

@[spec] theorem importStatement_spec (start : List Token) :
    States start (importStatement context) := by
  have hitem (start : List Token) : Takes start
      (do
        let module ← dottedName context.bound
        return (module, ← asName))
      (fun _ => 1) fun entry => IsDotted entry.1 ∧ ∀ given ∈ entry.2, IsSimple given := by
    apply takes_of
    mvcgen with grind
  have hends (start : List Token) : Looks start (return false) := by mvcgen
  have hitems := separated_takes (fun _ => Nat.one_pos) hitem hends context.bound
  apply places_of
  mvcgen [importStatement, hitems, -separated_spec] with grind

@[spec] theorem importFromStatement_spec (start : List Token) :
    States start (importFromStatement context) := by
  have hends (start : List Token) : Looks start (return false) := by mvcgen
  have hitems := separated_takes (fun _ => Nat.one_pos) importedName_spec hends context.bound
  have henclosed := separated_takes (fun _ => Nat.one_pos) importedName_spec
    (fun start => atMark_spec start ")") context.bound
  apply places_of
  mvcgen [importFromStatement, hitems, henclosed, -separated_spec] with grind

@[spec] theorem scopeStatement_spec (start : List Token) :
    States start (scopeStatement context) := by
  have hends (start : List Token) : Looks start (return false) := by mvcgen
  have hitems := separated_takes (fun _ => Nat.one_pos) name_spec hends context.bound
  apply places_of
  mvcgen [scopeStatement, hitems, -separated_spec] with grind

variable (hread : ∀ production start, Gives start (context.read production))

include hread

@[spec] theorem valueExpression_spec (start : List Token) :
    Gives start (valueExpression context) := by
  apply takes_of
  mvcgen [valueExpression, hread] with grind

@[spec] theorem assignmentFrom_spec (bound : Nat) (targets : List Expr) (start : List Token) :
    Places start (assignmentFrom context bound targets)
      (fun found => (∀ target ∈ targets, target.NamesAreSimple) → found.NamesAreSimple)
      Statement.lines := by
  induction bound generalizing targets start with
  | zero =>
    mvcgen [assignmentFrom]
    simp_all
  | succ bound ih =>
    apply places_of
    mvcgen [assignmentFrom, hread, ih] with grind

@[spec] theorem expressionStatement_spec (start : List Token) :
    States start (expressionStatement context) := by
  apply places_of
  mvcgen [expressionStatement, hread] with grind

@[spec] theorem deleteStatement_spec (start : List Token) :
    States start (deleteStatement context) := by
  have hends (start : List Token) : Looks start (return !startsExpression (← peek)) := by
    mvcgen with grind
  have hitems := separated_takes Expr.span_pos (hread .primary) hends context.bound
  apply places_of
  mvcgen [deleteStatement, hitems, -separated_spec] with grind

@[spec] theorem simpleStatement_spec (start : List Token) :
    States start (simpleStatement context) := by
  apply places_of
  mvcgen [simpleStatement, hread] with grind [leaves_tail]

@[spec] theorem simpleStatements_spec (bound : Nat) (start : List Token) :
    StatesAll start (simpleStatements context bound) := by
  induction bound generalizing start with
  | zero =>
    mvcgen [simpleStatements]
    simp_all
  | succ bound ih =>
    apply places_of
    mvcgen [simpleStatements, hread, ih] with grind

@[spec] theorem withItem_spec (start : List Token) : Passes start (withItem context) := by
  apply takes_of
  mvcgen [withItem, hread] with grind

@[spec] theorem enclosedWithItems_spec (start : List Token) :
    Passes start (enclosedWithItems context) := by
  apply takes_of
  mvcgen [enclosedWithItems, hread] with grind

@[spec] theorem openWithItems_spec (start : List Token) : Passes start (openWithItems context) := by
  apply takes_of
  mvcgen [openWithItems, hread] with grind

@[spec] theorem matchSubject_spec (start : List Token) : Passes start (matchSubject context) := by
  have hitems := separated_takes Expr.span_pos (hread .starNamed) atEndOfExpressions_spec
    context.bound
  apply takes_of
  mvcgen [matchSubject, hitems, -separated_spec] with grind

@[spec] theorem decorators_spec (start : List Token) :
    Takes start (decorators context) (fun _ => 0) fun found =>
      ∀ decorator ∈ found, decorator.NamesAreSimple := by
  have hitem (start : List Token) : Takes start
      (do
        if (← mark? "@") then
          let decorator ← context.read .named
          expect .lineEnd
          return some decorator
        else return none)
      (fun found => (found.map fun _ => 0).getD 0)
      fun found => ∀ decorator ∈ found, decorator.NamesAreSimple := by
    apply takes_of
    mvcgen [hread] with grind
  have hitems := repeated_takes hitem context.bound
  apply takes_of
  mvcgen [decorators, hitems, -repeated_spec] with grind

section Block

variable {block : Reader (List Statement)} (hblock : ∀ start, StatesAll start block)

omit hread

include hblock

@[spec] theorem body_spec (start : List Token) : StatesAll start (body block) := by
  apply places_of
  mvcgen [body, hblock] with grind

@[spec] theorem elseBody_spec (start : List Token) : StatesAll start (elseBody block) := by
  apply places_of
  mvcgen [elseBody, hblock] with grind

include hread

@[spec] theorem conditional_spec (bound : Nat) (start : List Token) :
    StatesAll start (conditional context block bound) := by
  induction bound generalizing start with
  | zero =>
    mvcgen [conditional]
    simp_all
  | succ bound ih =>
    apply places_of
    mvcgen [conditional, hread, hblock, ih] with grind

@[spec] theorem whileLoop_spec (start : List Token) : States start (whileLoop context block) := by
  apply places_of
  mvcgen [whileLoop, hread, hblock] with grind

@[spec] theorem forLoop_spec (start : List Token) : States start (forLoop context block) := by
  apply places_of
  mvcgen [forLoop, hread, hblock] with grind

@[spec] theorem withStatement_spec (start : List Token) :
    States start (withStatement context block) := by
  have hitems (start : List Token) :
      Passes start (enclosedWithItems context <|> openWithItems context) :=
    orElse_reads (enclosedWithItems_spec hread start) (openWithItems_spec hread start)
  apply places_of
  mvcgen [withStatement, hitems, hblock] with grind

@[spec] theorem handlers_spec (starred : Bool) (bound : Nat) (start : List Token) :
    Places start (handlers context block starred bound)
      (fun bodies => ∀ statement ∈ bodies.flatten, statement.NamesAreSimple)
      fun bodies => linesAll bodies.flatten := by
  induction bound generalizing start with
  | zero =>
    mvcgen [handlers]
    simp_all
  | succ bound ih =>
    apply places_of
    mvcgen [handlers, hread, hblock, ih] with grind

@[spec] theorem tryStatement_spec (start : List Token) :
    States start (tryStatement context block) := by
  apply places_of
  mvcgen [tryStatement, hread, hblock] with grind

@[spec] theorem matchCases_spec (bound : Nat) (start : List Token) :
    StatesAll start (matchCases context block bound) := by
  induction bound generalizing start with
  | zero =>
    mvcgen [matchCases]
    simp_all
  | succ bound ih =>
    apply places_of
    mvcgen [matchCases, hread, hblock, ih] with grind

@[spec] theorem matchStatement_spec (start : List Token) :
    States start (matchStatement context block) := by
  apply places_of
  mvcgen [matchStatement, hread, hblock] with grind

@[spec] theorem classDefinition_spec (line : Nat) (decorators : List Expr) (start : List Token) :
    Defines start (classDefinition context block line decorators) line decorators := by
  mvcgen [classDefinition, hread, hblock] with grind [Arguments.NamesAreSimple]

@[spec] theorem functionDefinition_spec (line : Nat) (decorators : List Expr) (start : List Token) :
    Defines start (functionDefinition context block line decorators) line decorators := by
  mvcgen [functionDefinition, hread, hblock] with grind

/-- A definition stands on the line of the first word behind its decorators. -/
@[spec] theorem definition_spec (start : List Token) : States start (definition context block) := by
  apply places_of
  mvcgen [definition, hread, hblock] with grind [→ Lists.cons]

@[spec] theorem compoundStatement_spec (word : String) (start : List Token) :
    States start (compoundStatement context block word) := by
  apply places_of
  mvcgen [compoundStatement, hread, hblock] with grind [leaves_tail]

@[spec] theorem statement_spec (start : List Token) :
    StatesAll start (statement context block) := by
  have hmatch (start : List Token) : StatesAll start
      ((do return [← matchStatement context block]) <|>
        simpleStatements context context.bound) := by
    refine orElse_reads ?_ (simpleStatements_spec hread context.bound start)
    apply places_of
    mvcgen [hread, hblock] with grind
  apply places_of
  mvcgen [statement, hread, hblock, hmatch] with grind

@[spec] theorem statementsUntil_spec (closer : Lexeme) (bound : Nat) (start : List Token) :
    StatesAll start (statementsUntil context block closer bound) := by
  induction bound generalizing start with
  | zero =>
    mvcgen [statementsUntil]
    simp_all
  | succ bound ih =>
    apply places_of
    mvcgen [statementsUntil, hread, hblock, ih] with grind

@[spec] theorem bodyStatements_spec (start : List Token) :
    StatesAll start (bodyStatements context block) := by
  apply places_of
  mvcgen [bodyStatements, hread, hblock] with grind

end Block

@[spec] theorem block_spec (depth : Nat) (start : List Token) :
    StatesAll start (block context depth) := by
  induction depth generalizing start with
  | zero =>
    mvcgen [block]
    simp_all
  | succ depth ih => exact bodyStatements_spec hread ih start

/-- All names in the statements of a module are simple, and its declarations stand on lines of its
tokens in their order, however deep they are nested. -/
theorem moduleStatements_spec (depth : Nat) (start : List Token) :
    StatesAll start (moduleStatements context depth) :=
  statementsUntil_spec hread (block_spec hread depth) .textEnd context.bound start

end Context

end Grammar

section Texts

/-- The productions that a module is read with give expressions. -/
theorem gives_contextFor (size : Nat) (production : Production) (start : List Token) :
    Grammar.Gives start ((contextFor size).read production) :=
  Grammar.expression_spec (grammarBound size) production start

/-- All names in the statements that octets hold are simple, and the declarations in them come in the
order of their lines. -/
theorem parseModule_spec {octets : List UInt8} {statements : List Statement}
    (h : parseModule octets = some statements) :
    (∀ statement ∈ statements, statement.NamesAreSimple) ∧
      (linesAll statements).Pairwise (· ≤ ·) := by
  obtain ⟨text, -, htext⟩ := Option.bind_eq_some_iff.mp h
  unfold parseModuleText at htext
  split at htext
  · cases htext
  · rename_i found htokens
    split at htext
    · cases htext
    · rename_i result rest hread
      obtain ⟨-, ⟨⟩⟩ := Option.ite_none_right_eq_some.mp htext
      have hfound := tokens_spec htokens
      have hstates := Grammar.moduleStatements_spec (gives_contextFor found.length)
        (indentLimit + 1) found
      obtain ⟨hleaves, taken, rfl, hlines⟩ := reads_iff.mp hstates _ rest hread
      refine ⟨(hleaves.names hfound.names).2, hfound.lines.sublist (hlines.trans ?_)⟩
      rw [List.map_append]
      exact List.sublist_append_left _ _

/-- A line of expressions gives one, the tuple of them if there are several. -/
theorem expressionLine_spec {context : Grammar.Context}
    (hread : ∀ production start, Grammar.Gives start (context.read production))
    (start : List Token) : Grammar.Gives start (expressionLine context) := by
  have hitems := separated_takes Expr.span_pos (hread .expression) Grammar.atEndOfExpressions_spec
    context.bound
  apply takes_of
  mvcgen [expressionLine, hitems, -separated_spec] with grind [Grammar.tupleOf_spec]

/-- The expression that a text holds weighs no more than the text is long, and all names in it are
simple. -/
theorem parseExpression_spec {text : List Char} {value : Expr}
    (h : parseExpression text = some value) :
    Project.weight value ≤ text.length ∧ value.NamesAreSimple := by
  obtain ⟨found, htokens, h⟩ := Option.bind_eq_some_iff.mp h
  obtain ⟨⟨read, rest⟩, hread, h⟩ := Option.bind_eq_some_iff.mp h
  have hgives := expressionLine_spec (gives_contextFor found.length) found
  obtain ⟨hnames, hcost, -⟩ := tokens_spec htokens
  obtain ⟨-, hpaid, hsimple⟩ := takes_iff.mp hgives read rest hread
  dsimp only at h
  split at h
  · obtain ⟨-, ⟨⟩⟩ := Option.ite_none_right_eq_some.mp h
    have := Text.length_unifyLineEnds text
    have := Expr.weight_le_span value
    exact ⟨by omega, (hsimple hnames).2⟩
  · cases h

end Texts

end ServiceManifest.Source
