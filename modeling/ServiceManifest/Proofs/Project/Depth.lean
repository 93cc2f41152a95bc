import Mathlib.Logic.Function.Iterate
import ServiceManifest.Proofs.Project.Memo

/-!
# Closures come to an end

The closure of a class is computed from the closures of its bases. Every class of the project on the way
is remembered before its bases are looked at, so each step down leaves fewer classes unknown, and no
chain of steps is longer than there are classes, be the bases cyclic or not. What would be answered
further down than that makes no difference.
-/

namespace ServiceManifest.Project

open ServiceManifest.Source

/-- Two computations find the same closure, and forget nothing, of each class of the project as long as
fewer classes are unknown than a number. -/
def AgreeBelow (modules : Modules) (depth : Nat) (first second : ClosureOf) : Prop :=
  ∀ closures name owner bases, declaration? modules name = some (owner, bases) →
    (closures.unknown modules).length < depth →
      first closures owner name.simpleNames bases = second closures owner name.simpleNames bases ∧
        ∀ closure after, first closures owner name.simpleNames bases = .ok (closure, after) →
          closures.Within after

section Agreement

variable {modules : Modules} {depth : Nat} {first second : ClosureOf}

/-- Computations that agree on the closures of bases agree on what adding these comes to. -/
theorem AgreeBelow.addBases (h : AgreeBelow modules depth first second) {index : ModuleIndex}
    {path : List String} {bases : List Expr} {found : ClassSet} {closures : Closures}
    (hdepth : (closures.unknown modules).length < depth) :
    Project.addBases modules first index path bases found closures =
        Project.addBases modules second index path bases found closures ∧
      ∀ closure after, Project.addBases modules first index path bases found closures =
        .ok (closure, after) → closures.Within after := by
  induction bases generalizing found closures with
  | nil =>
    refine ⟨rfl, ?_⟩
    rintro closure after ⟨⟩
    exact fun _ => id
  | cons base rest ih =>
    rw [Project.addBases, Project.addBases]
    rcases baseClass? modules index path base with fault | _ | name
    · refine ⟨rfl, ?_⟩
      rintro closure after ⟨⟩
    · exact ih hdepth
    · cases hdeclared : declaration? modules name with
      | none =>
        simp only [hdeclared]
        exact ih hdepth
      | some declared =>
        obtain ⟨owner, others⟩ := declared
        obtain ⟨hsame, hwithin⟩ := h _ _ _ _ hdeclared hdepth
        simp only [hdeclared, ← hsame]
        cases hmore : first closures owner name.simpleNames others with
        | error fault =>
          refine ⟨rfl, ?_⟩
          rintro closure after ⟨⟩
        | ok result =>
          obtain ⟨more, known⟩ := result
          have hknown := hwithin _ _ hmore
          obtain ⟨hrest, hafter⟩ := @ih (ClassSet.union (ClassSet.insert name found) more) known
            (Nat.lt_of_le_of_lt (Closures.length_unknown_le hknown) hdepth)
          exact ⟨hrest, fun _ _ hok => hknown.trans (hafter _ _ hok)⟩

/-- If computations agree once a class is remembered, then so do their steps for the class. -/
theorem AgreeBelow.closureStep_eq (h : AgreeBelow modules depth first second)
    {closures : Closures} (statement : ClassStatement)
    (hdepth : closures.get? statement.name = none →
      ((closures.put statement.name [.object]).unknown modules).length < depth) :
    closureStep modules first closures statement.index statement.path statement.bases =
        closureStep modules second closures statement.index statement.path statement.bases ∧
      ∀ closure after, closureStep modules first closures statement.index statement.path
        statement.bases = .ok (closure, after) → closures.Within after := by
  cases hget : closures.get? statement.name with
  | some known =>
    rw [closureStep_of_known first hget, closureStep_of_known second hget]
    refine ⟨rfl, ?_⟩
    rintro closure after ⟨⟩
    exact fun _ => id
  | none =>
    obtain ⟨hsame, hwithin⟩ := @AgreeBelow.addBases _ _ _ _ h statement.index statement.path
      statement.bases [.object] _ (hdepth hget)
    rw [closureStep_of_unknown first hget, closureStep_of_unknown second hget, ← hsame]
    refine ⟨rfl, ?_⟩
    cases hfound : Project.addBases modules first statement.index statement.path statement.bases
      [.object] (closures.put statement.name [.object]) with
    | error fault => rintro closure after ⟨⟩
    | ok found =>
      rintro closure after ⟨⟩
      exact (Closures.within_put.trans (hwithin _ _ hfound)).trans Closures.within_put

/-- Computations that agree as long as fewer classes are unknown than a number have steps that agree
with one class more. -/
theorem AgreeBelow.step (hnamed : ∀ name index, Keyed.get? name modules = some index →
    index.name = name) (h : AgreeBelow modules depth first second) :
    AgreeBelow modules (depth + 1) (closureStep modules first) (closureStep modules second) := by
  intro closures name owner bases hdeclared hdepth
  refine h.closureStep_eq ⟨owner, name.simpleNames, bases⟩ fun hnone => ?_
  obtain ⟨found, hfound, hbases⟩ := Option.bind_eq_some_iff.mp hdeclared
  obtain ⟨_, -, heq⟩ := Option.map_eq_some_iff.mp hbases
  obtain ⟨rfl, -⟩ := Prod.mk.inj heq
  have hname : (⟨found.name, name.simpleNames⟩ : QualifiedName) = name := by
    rw [hnamed _ _ hfound]
  rw [ClassStatement.name, hname] at hnone ⊢
  have hless := @Closures.length_unknown_put_lt _ [.object] _ _ (Modules.mem_classNames hdeclared) hnone
  omega

/-- Whatever is answered below, steps agree as long as fewer classes are unknown than there are
steps. -/
theorem agreeBelow_iterate (hnamed : ∀ name index, Keyed.get? name modules = some index →
    index.name = name) (depth : Nat) (first second : ClosureOf) :
    AgreeBelow modules depth ((closureStep modules)^[depth] first)
      ((closureStep modules)^[depth] second) := by
  induction depth with
  | zero => exact fun _ _ _ _ _ hdepth => absurd hdepth (Nat.not_lt_zero _)
  | succ depth ih =>
    rw [Function.iterate_succ_apply', Function.iterate_succ_apply']
    exact ih.step hnamed

/-- The closures down to a depth are that many steps over the object class alone. -/
theorem closureWithin_eq_iterate (modules : Modules) (depth : Nat) :
    closureWithin modules depth =
      (closureStep modules)^[depth] fun closures _ _ _ => .ok ([.object], closures) := by
  induction depth with
  | zero => rfl
  | succ depth ih => rw [Function.iterate_succ_apply', ← ih, closureWithin]

/-- Whatever is answered below, the closure of a class is found with two steps more than there are
classes: one for the class itself, which need not be among them, and one that finds a class again. -/
theorem iterate_closureStep_eq_supertypes (hnamed : ∀ name index,
    Keyed.get? name modules = some index → index.name = name) (below : ClosureOf) :
    (closureStep modules)^[modules.classCount + 2] below = supertypes modules := by
  rw [supertypes, closureWithin_eq_iterate, Function.iterate_succ_apply',
    Function.iterate_succ_apply' _ (modules.classCount + 1)]
  funext closures index path bases
  refine ((agreeBelow_iterate hnamed _ _ _).closureStep_eq ⟨index, path, bases⟩ fun _ => ?_).1
  rw [← Modules.length_classNames]
  exact Nat.lt_succ_of_le (List.length_filter_le _ _)

/-- The closure of a class is that of one step, with the closures of its bases found in full. -/
theorem closureStep_supertypes (hnamed : ∀ name index,
    Keyed.get? name modules = some index → index.name = name) :
    closureStep modules (supertypes modules) = supertypes modules := by
  let bottom : ClosureOf := fun closures _ _ _ => .ok ([.object], closures)
  calc closureStep modules (supertypes modules)
      = closureStep modules ((closureStep modules)^[modules.classCount + 2] bottom) := by
        rw [iterate_closureStep_eq_supertypes hnamed]
    _ = (closureStep modules)^[modules.classCount + 2] (closureStep modules bottom) := by
        rw [← Function.iterate_succ_apply' (closureStep modules), Function.iterate_succ_apply]
    _ = supertypes modules := iterate_closureStep_eq_supertypes hnamed _

end Agreement

end ServiceManifest.Project
