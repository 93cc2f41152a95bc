import ServiceManifest.Source.Phrase

/-!
# Constants

An expression has a constant value if it is made of literals, tuples, sets and dictionaries. A
number may have one sign in front, and a real number may be joined with an imaginary one. Sets and
dictionaries can be neither members of a set nor keys of a dictionary, and no more can tuples that
hold one.
-/

namespace ServiceManifest.Source

/-- Why an expression has no constant value: it is not made of literals, a dictionary in it unpacks
something, or what cannot be a member or a key is one. -/
inductive ConstantFault
  | malformed
  | noKey
  | unhashable (title : String)
  deriving DecidableEq, Repr

/-- The wording of a fault. -/
def ConstantFault.message : ConstantFault → String
  | .malformed => "malformed node or string"
  | .noKey => "malformed node or string: None"
  | .unhashable title => "unhashable type: \x27" ++ title ++ "\x27"

namespace Phrase

/-- Whether a phrase is a number; its argument says whether that has to be an imaginary one. -/
def isNumber (imaginary : Option Bool) : Phrase → Bool
  | .number found => imaginary.all (· = found)
  | _ => false

/-- Whether a phrase is a number with at most one sign. -/
def isSigned (imaginary : Option Bool) : Phrase → Bool
  | .signed value => value.isNumber imaginary
  | phrase => phrase.isNumber imaginary

/-- Whether an expression has a constant value; if it has, the answer names what in it cannot be a
member or a key. -/
def constant : Phrase → Except ConstantFault (Option String)
  | .number _ | .text | .octets | .word _ | .ellipsis => .ok none
  | .sequence form items => do
    let found ← items.attach.mapM fun ⟨item, _⟩ => do
      let part ← item.constant
      match form, part with
      | .set, some title => throw (.unhashable title)
      | _, _ => return part
    match form with
    | .tuple => return found.findSome? id
    | .set => return some "set"
    | .list => return some "list"
  | .dictionary pairs => do
    let _ ← pairs.attach.mapM fun
      | ⟨(none, _), _⟩ => throw ConstantFault.noKey
      | ⟨(some key, value), _⟩ => do
        let part ← key.constant
        let _ ← value.constant
        match part with
        | some title => throw (.unhashable title)
        | none => return ()
    return some "dict"
  | .call (.name "set") ⟨0, 0, _⟩ => .ok (some "set")
  | .sum left right =>
    if left.isSigned (some false) && right.isNumber (some true) then .ok none
    else .error .malformed
  | .signed value => if value.isNumber none then .ok none else .error .malformed
  | _ => .error .malformed
termination_by phrase => sizeOf phrase
decreasing_by
  · have := List.sizeOf_lt_of_mem ‹_ ∈ _›
    simp only [Phrase.sequence.sizeOf_spec]
    omega
  · have := List.sizeOf_lt_of_mem ‹_ ∈ _›
    simp only [Phrase.dictionary.sizeOf_spec, Prod.mk.sizeOf_spec, Option.some.sizeOf_spec] at *
    omega
  · have := List.sizeOf_lt_of_mem ‹_ ∈ _›
    simp only [Phrase.dictionary.sizeOf_spec, Prod.mk.sizeOf_spec, Option.some.sizeOf_spec] at *
    omega

end Phrase

end ServiceManifest.Source
