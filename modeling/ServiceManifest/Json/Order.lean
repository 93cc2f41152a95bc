import ServiceManifest.Decimal
import ServiceManifest.Json.Type
import ServiceManifest.Json.Value

/-!
# Equal and ordered JSON values
-/

namespace ServiceManifest.Json

/-!
## When two JSON values are equal

Numbers are equal when they denote the same number, whatever their form: an integer equals a
floating number of exactly its value, and true and false count as one and zero. Arrays are equal
item by item and objects entry by entry in any order. The value that is no number equals nothing,
itself included; as a member of a collection it still counts as the same member.
-/

/-- The integer a value stands for in comparisons. -/
def Value.integer? : Value → Option Int
  | .bool value => some (if value then 1 else 0)
  | .int value => some value
  | _ => none

/-- Whether an integer is exactly the value of a floating number. -/
def integerEqualsFloat (n : Int) (x : Float) : Bool :=
  match Decimal.fraction? x with
  | some (numerator, denominator) => numerator = n * denominator
  | none => false

/-- Whether two values that hold no others are equal. -/
def Value.sameAtom (a b : Value) : Bool :=
  match a, b with
  | .null, .null => true
  | .string s, .string t => s = t
  | .float x, .float y => x == y
  | .float x, b => match b.integer? with
    | some n => integerEqualsFloat n x
    | none => false
  | a, .float y => match a.integer? with
    | some n => integerEqualsFloat n y
    | none => false
  | a, b => match a.integer?, b.integer? with
    | some m, some n => m = n
    | _, _ => false

/-- Whether a value is the one that is no number. -/
def Value.isNaN : Value → Bool
  | .float x => x.isNaN
  | _ => false

mutual

/-- Whether two values are equal. -/
def Value.same : Value → Value → Bool
  | .array xs, b => match b with
    | .array ys => sameItems xs ys
    | _ => false
  | .object xs, b => match b with
    | .object ys => xs.length = ys.length && sameEntries xs ys
    | _ => false
  | a, b => a.sameAtom b

/-- Whether two lists are equal item by item. -/
def sameItems : List Value → List Value → Bool
  | [], ys => ys.isEmpty
  | x :: xs, ys => match ys with
    | [] => false
    | y :: ys => ((x.isNaN && y.isNaN) || x.same y) && sameItems xs ys

/-- Whether every entry of the first object equals the entry of that name in the second. -/
def sameEntries : List (String × Value) → List (String × Value) → Bool
  | [], _ => true
  | (name, x) :: xs, ys =>
    (match Keyed.get? name ys with
      | some y => (x.isNaN && y.isNaN) || x.same y
      | none => false) && sameEntries xs ys

end

/-- Whether two values are the same member of a collection. -/
def Value.sameMember (a b : Value) : Bool := (a.isNaN && b.isNaN) || a.same b

/-!
## Sorting JSON values

Numbers are ordered by what they denote and texts by code point. Nothing else is ordered, so more
than one value can only be sorted if all of them are numbers or all are texts.
-/

/-- Whether a number is less than another. -/
def Value.lessNumber (a b : Value) : Bool :=
  match a, b with
  | .float x, .float y => x < y
  | .float x, b =>
    match b.integer?, Decimal.fraction? x with
    | some n, some (numerator, denominator) => numerator < n * denominator
    | some _, none => x < 0.0
    | none, _ => false
  | a, .float y =>
    match a.integer?, Decimal.fraction? y with
    | some n, some (numerator, denominator) => n * denominator < numerator
    | some _, none => 0.0 < y
    | none, _ => false
  | a, b =>
    match a.integer?, b.integer? with
    | some m, some n => m < n
    | _, _ => false

/-- Whether a value is a number. -/
def Value.isNumber (value : Value) : Bool :=
  match value.type with
  | .bool | .int | .float => true
  | _ => false

/-- Values without those that are the same member as an earlier one. -/
def distinct (values : List Value) : List Value :=
  values.foldl
    (fun done value => if done.any (·.sameMember value) then done else done ++ [value]) []

/-- The members of a set of values in ascending order. -/
def sortedMembers (values : List Value) : Except TypeFault (List Value) :=
  match values.find? fun value => !value.isMember with
  | some value => .error (.notMember value.type)
  | none =>
    match distinct values with
    | [] => .ok []
    | [value] => .ok [value]
    | first :: rest =>
      if first.isNumber && rest.all Value.isNumber then
        .ok ((first :: rest).mergeSort fun a b => !b.lessNumber a)
      else if first.text?.isSome && rest.all (·.text?.isSome) then
        .ok (Ascending.sort (fun a b => decide (a.text?.getD "" < b.text?.getD "")) (first :: rest))
      else
        match rest.find? fun value => !value.isNumber || !first.isNumber with
        | some other => .error (.notOrdered other.type first.type)
        | none => .ok (first :: rest)

end ServiceManifest.Json
