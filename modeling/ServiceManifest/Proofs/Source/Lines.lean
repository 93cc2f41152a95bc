import Mathlib
import ServiceManifest.Proofs.Source.Reader
import ServiceManifest.Source.Grammar.Statement

/-!
# The lines of declarations

A reader of statements takes tokens from the front, and what it finds is declared on lines of tokens
that it takes: a definition on that of its first word, which stands before its body, and the bodies of a
statement one behind the other. What readers list one after the other they list in the order of the
tokens.
-/

namespace ServiceManifest.Source

open Reader Std.Do

mutual

/-- The lines on which the declarations in a statement stand, its own first. -/
def Statement.lines : Statement → List Nat
  | .classDef line _ _ _ body => line :: linesAll body
  | .functionDef line _ _ body => line :: linesAll body
  | .compound _ body => linesAll body
  | _ => []

/-- The lines on which the declarations in statements stand, in the order of the statements. -/
def linesAll : List Statement → List Nat
  | [] => []
  | statement :: rest => statement.lines ++ linesAll rest

end

section Lines

@[simp, grind =] theorem lines_classDef {line : Nat} {name : String} {decorators bases : List Expr}
    {body : List Statement} :
    (Statement.classDef line name decorators bases body).lines = line :: linesAll body :=
  rfl

@[simp, grind =] theorem lines_functionDef {line : Nat} {name : String} {decorators : List Expr}
    {body : List Statement} :
    (Statement.functionDef line name decorators body).lines = line :: linesAll body :=
  rfl

@[simp, grind =] theorem lines_compound {atImport : Bool} {body : List Statement} :
    (Statement.compound atImport body).lines = linesAll body :=
  rfl

@[simp, grind =] theorem lines_other : Statement.other.lines = [] :=
  rfl

@[simp, grind =] theorem lines_importModules {names : List (String × Option String)} :
    (Statement.importModules names).lines = [] :=
  rfl

@[simp, grind =] theorem lines_importFrom {level : Nat} {module : String}
    {names : List (String × Option String)} :
    (Statement.importFrom level module names).lines = [] :=
  rfl

@[simp, grind =] theorem lines_assign {targets : List Expr} {value : Expr} :
    (Statement.assign targets value).lines = [] :=
  rfl

@[simp, grind =] theorem lines_annotate {target hint : Expr} {value : Option Expr} :
    (Statement.annotate target hint value).lines = [] :=
  rfl

@[simp, grind =] theorem linesAll_nil : linesAll [] = [] :=
  rfl

@[simp, grind =] theorem linesAll_cons {statement : Statement} {rest : List Statement} :
    linesAll (statement :: rest) = statement.lines ++ linesAll rest :=
  rfl

@[simp, grind =] theorem linesAll_append (front back : List Statement) :
    linesAll (front ++ back) = linesAll front ++ linesAll back := by
  induction front with
  | nil => simp
  | cons statement rest ih => simp [ih]

end Lines

namespace Grammar

/-- Lines are, in order, lines of tokens that were taken from the front. -/
def Lists (start rest : List Token) (lines : List Nat) : Prop :=
  ∃ taken, taken ++ rest = start ∧ lines.Sublist (taken.map (·.line))

section Lists

variable {start middle rest : List Token} {lines more : List Nat}

/-- What takes tokens for no declaration lists no line. -/
@[grind .] theorem lists_nil (h : rest <:+ start) : Lists start rest [] := by
  obtain ⟨taken, rfl⟩ := h
  exact ⟨taken, rfl, List.nil_sublist _⟩

/-- Lines that are listed one after the other are listed behind each other. -/
theorem Lists.trans (h : Lists start middle lines) (hmore : Lists middle rest more) :
    Lists start rest (lines ++ more) := by
  obtain ⟨taken, rfl, hlines⟩ := h
  obtain ⟨behind, rfl, hbehind⟩ := hmore
  exact ⟨taken ++ behind, by simp, by simpa using hlines.append hbehind⟩

/-- Tokens may be taken in front of those that lines are from. -/
theorem Lists.behind (hsuffix : middle <:+ start) (h : Lists middle rest lines) :
    Lists start rest lines :=
  (lists_nil hsuffix).trans h

/-- Tokens may be taken behind those that lines are from. -/
theorem Lists.before (h : Lists start middle lines) (hsuffix : rest <:+ middle) :
    Lists start rest lines := by
  simpa using h.trans (lists_nil hsuffix)

/-- The line at the front is listed in front of others if something was paid before these. -/
theorem Lists.cons (hsuffix : middle <:+ start) (hpaid : cost middle < cost start)
    (h : Lists middle rest lines) : Lists start rest (frontLine start :: lines) := by
  obtain ⟨taken, rfl⟩ := hsuffix
  obtain ⟨behind, rfl, hlines⟩ := h
  cases taken with
  | nil => exact absurd hpaid (Nat.lt_irrefl _)
  | cons first taken =>
    refine ⟨first :: taken ++ behind, by simp, ?_⟩
    rw [List.map_append, List.map_cons, List.cons_append]
    exact (hlines.trans (List.sublist_append_right _ _)).cons_cons first.line

attribute [grind →] Lists.trans Lists.behind Lists.before

end Lists

/-- A reader of what is declared on lines of the tokens that it takes, in their order. Where names are
simple, the result is as it should be. -/
abbrev Places {α : Type} (start : List Token) (reader : Reader α) (result : α → Prop)
    (lines : α → List Nat) : Prop :=
  ⦃fun tokens => ⌜tokens = start⌝⦄ reader
    ⦃⇓? found => fun rest => ⌜Leaves start rest 0 (result found) ∧ Lists start rest (lines found)⌝⦄

/-- A reader places what it finds, if it lists the lines and keeps names simple. -/
theorem places_of {α : Type} {start : List Token} {reader : Reader α} {result : α → Prop}
    {lines : α → List Nat}
    (h : ⦃fun tokens => ⌜tokens = start⌝⦄ reader ⦃⇓? found => fun rest =>
      ⌜(rest <:+ start ∧ cost rest ≤ cost start ∧
          (NamesAreSimple start → NamesAreSimple rest ∧ result found)) ∧
        Lists start rest (lines found)⌝⦄) : Places start reader result lines := by
  simpa only [Places, leaves_iff, Nat.add_zero] using h

end Grammar

end ServiceManifest.Source
