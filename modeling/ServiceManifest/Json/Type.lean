import ServiceManifest.Decimal
import ServiceManifest.Json.Value
import ServiceManifest.Text.Quoted

/-!
# The types of JSON values

Where a value of the wrong type turns up, its type is named. Some faults are common to all places: a
value that is no collection cannot be gone through, and a collection cannot be a member of a set.
-/

namespace ServiceManifest.Json

/-- The type of a value. -/
inductive ValueType
  | null
  | bool
  | int
  | float
  | string
  | array
  | object
  deriving DecidableEq, Repr

/-- The name of a type. -/
def ValueType.name : ValueType → String
  | .null => "NoneType"
  | .bool => "bool"
  | .int => "int"
  | .float => "float"
  | .string => "str"
  | .array => "list"
  | .object => "dict"

/-- The type of a value. -/
def Value.type : Value → ValueType
  | .null => .null
  | .bool _ => .bool
  | .int _ => .int
  | .float _ => .float
  | .string _ => .string
  | .array _ => .array
  | .object _ => .object

/-- Whether a value may be a member of a set. -/
def Value.isMember (value : Value) : Bool :=
  match value.type with
  | .array | .object => false
  | _ => true

/-- What a value of the wrong type is used for. -/
inductive TypeFault
  | notIterable (type : ValueType)
  | notMember (type : ValueType)
  | noEntries (type : ValueType)
  | noListing (type : ValueType)
  | notNamed (type : ValueType)
  | notOrdered (first second : ValueType)
  deriving DecidableEq, Repr

/-- The title under which a fault is reported. -/
def TypeFault.title : TypeFault → String
  | .noEntries _ | .noListing _ => "AttributeError"
  | _ => "TypeError"

/-- The wording of a fault. -/
def TypeFault.message : TypeFault → String
  | .notIterable type => "\x27" ++ type.name ++ "\x27 object is not iterable"
  | .notMember type => "unhashable type: \x27" ++ type.name ++ "\x27"
  | .noEntries type => "\x27" ++ type.name ++ "\x27 object has no attribute \x27get\x27"
  | .noListing type => "\x27" ++ type.name ++ "\x27 object has no attribute \x27items\x27"
  | .notNamed .string => "string indices must be integers, not \x27str\x27"
  | .notNamed type => type.name ++ " indices must be integers or slices, not str"
  | .notOrdered first second =>
    "\x27<\x27 not supported between instances of \x27" ++ first.name ++ "\x27 and \x27" ++
      second.name ++ "\x27"

/-- The text of a value that is one. -/
def Value.text? : Value → Option String
  | .string text => some text
  | _ => none

/-- The members of the set that a value stands for: the items of an array, the characters of a text,
the names of an object. -/
def Value.members : Value → Except TypeFault (List Value)
  | .array items =>
    match items.find? fun item => !item.isMember with
    | some item => .error (.notMember item.type)
    | none => .ok items
  | .string text => .ok (text.toList.map fun c => .string (String.ofList [c]))
  | .object entries => .ok ((Keyed.keys entries).map .string)
  | value => .error (.notIterable value.type)

/-- The members of the set that a value stands for, as texts. A member that is no text equals no
text and is left out. -/
def Value.textMembers (value : Value) : Except TypeFault (List String) :=
  value.members.map fun members => members.filterMap Value.text?

/-!
## Values for inspection

The form in which a value is shown in a message: texts are quoted, entries stay in their order, and
the three constants have names of their own.
-/

/-- A value that holds no others, for inspection. -/
def inspectAtom : Value → String
  | .null => "None"
  | .bool true => "True"
  | .bool false => "False"
  | .int value => toString value
  | .float value => Decimal.render value
  | .string value => Text.quoted value
  | .array _ => "[]"
  | .object _ => "\x7b\x7d"

mutual

/-- A value for inspection. -/
def Value.inspect : Value → String
  | .array items => "[" ++ ", ".intercalate (inspectItems items) ++ "]"
  | .object entries => "\x7b" ++ ", ".intercalate (inspectEntries entries) ++ "\x7d"
  | atom => inspectAtom atom

/-- The items of an array for inspection. -/
def inspectItems : List Value → List String
  | [] => []
  | item :: rest => item.inspect :: inspectItems rest

/-- The entries of an object for inspection. -/
def inspectEntries : List (String × Value) → List String
  | [] => []
  | (name, value) :: rest =>
    (Text.quoted name ++ ": " ++ value.inspect) :: inspectEntries rest

end

end ServiceManifest.Json
