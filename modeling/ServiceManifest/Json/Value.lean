import ServiceManifest.Ascending

/-!
# Keyed entries and JSON values

`Keyed` is a list of named entries in the order in which the names first came: putting a known name
replaces its entry where it stands. A JSON object is such a list. Integers and floating numbers are
kept apart, because they are written differently.
-/

namespace ServiceManifest

/-- Named entries in the order in which the names were first put. -/
abbrev Keyed (α : Type) := List (String × α)

namespace Keyed

variable {α : Type}

/-- The entry of a name. -/
def get? (key : String) (entries : Keyed α) : Option α :=
  (entries.find? fun entry => entry.1 = key).map (·.2)

/-- Whether a name has an entry. -/
def has (key : String) (entries : Keyed α) : Bool := entries.any fun entry => entry.1 = key

/-- Replace the entry of a name, or add one at the end. -/
def put (key : String) (value : α) : Keyed α → Keyed α
  | [] => [(key, value)]
  | entry :: rest =>
    if entry.1 = key then (key, value) :: rest else entry :: put key value rest

/-- The names in order. -/
def keys (entries : Keyed α) : List String := entries.map (·.1)

/-- The entries by ascending name. -/
def ascending (entries : Keyed α) : Keyed α :=
  Ascending.sort (fun a b => decide (a.1 < b.1)) entries

end Keyed

namespace Json

/-- A JSON value. -/
inductive Value
  | null
  | bool (value : Bool)
  | int (value : Int)
  | float (value : Float)
  | string (value : String)
  | array (items : List Value)
  | object (entries : List (String × Value))
  deriving Inhabited

namespace Value

/-- The entries of an object. -/
def entries? : Value → Option (Keyed Value)
  | .object entries => some entries
  | _ => none

/-- Whether a value counts as true: everything does except null, false, zero and what is empty. -/
def isTruthy : Value → Bool
  | .null => false
  | .bool value => value
  | .int value => value ≠ 0
  | .float value => !(value == 0.0)
  | .string value => !value.isEmpty
  | .array items => !items.isEmpty
  | .object entries => !entries.isEmpty

end Value

end Json

end ServiceManifest
