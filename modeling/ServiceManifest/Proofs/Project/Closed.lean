import ServiceManifest.Proofs.Project.Leads

/-!
# Following names with a link closed

A link that is being followed is closed, so names that come back to it stand for no class. Whether a link
is closed from the start makes no difference to what was imported through it, unless following that comes
back to the link with more names behind it than before.
-/

namespace ServiceManifest.Project

open ServiceManifest.Source

section Mentions

/-- The names that are looked up to find what an expression at the top of a module refers to: those of
its value and of its arguments, if it is subscripted, and those in it, if it is a text. -/
inductive Mentions (index : ModuleIndex) : Expr → String → Prop
  | dotted {expr : Expr} {dotted : String} (hdotted : expr.dottedName? = some dotted) :
      Mentions index expr (index.absolute [] dotted)
  | value {value : Expr} {elements : List Expr} {absolute : String}
      (hvalue : Mentions index value absolute) : Mentions index (.subscript value elements) absolute
  | element {value element : Expr} {elements : List Expr} {absolute : String}
      (hmem : element ∈ elements) (helement : Mentions index element absolute) :
      Mentions index (.subscript value elements) absolute
  | text {codes : List Nat} {parsed : Expr} {absolute : String}
      (hparsed : textExpression codes = .ok (some parsed)) (hlighter : weight parsed < codes.length + 1)
      (hmentions : Mentions index parsed absolute) : Mentions index (.text codes) absolute

variable {qualify other : Qualify} {index : ModuleIndex}

/-- An element of a subscript weighs less than all of them. -/
theorem weight_lt_weightAll {element : Expr} {elements : List Expr} (h : element ∈ elements) :
    weight element < weightAll elements := by
  induction elements with
  | nil => cases h
  | cons first rest ih =>
    rw [weightAll]
    rcases List.mem_cons.mp h with rfl | h
    · omega
    · have := ih h
      omega

/-- A dotted expression refers to what its absolute name refers to. -/
theorem typeRefBy_of_dottedName? {scope : ClassPath} {expr : Expr} {dotted : String}
    (h : expr.dottedName? = some dotted) : typeRefBy qualify index scope expr =
      (qualify index (index.absolute scope dotted)).map some := by
  unfold typeRefBy
  split
  · cases h
  · cases h
  · simp only [h]
    cases qualify index (index.absolute scope dotted) <;> rfl

/-- An expression that is neither dotted nor subscripted nor a text refers to nothing. -/
theorem typeRefBy_of_no_name {scope : ClassPath} {expr : Expr} (h : expr.dottedName? = none)
    (hvalue : ∀ value elements, expr ≠ .subscript value elements) (htext : ∀ codes, expr ≠ .text codes) :
    typeRefBy qualify index scope expr = .ok none := by
  unfold typeRefBy
  split
  · exact absurd rfl (hvalue _ _)
  · exact absurd rfl (htext _)
  · simp only [h]

end Mentions

section Close

variable {modules : Modules} {open_ : List Link} {link other : Link}

/-- A link is open after another one is followed if it was open before and is not that one. -/
theorem mem_close_iff : other ∈ close link open_ ↔ other ∈ open_ ∧ other ≠ link := by
  simp [close]

/-- The order in which links are followed does not count. -/
theorem close_comm : close link (close other open_) = close other (close link open_) := by
  simp only [close, List.filter_filter, Bool.and_comm]

end Close

end ServiceManifest.Project
