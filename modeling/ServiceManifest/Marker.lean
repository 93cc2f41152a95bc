import ServiceManifest.Json.Type

/-!
# The marker at run time

When a program runs, the marker does no more than note the interfaces on the class that it
decorates. A class sees the note of the first class in its resolution order that has one of its own.
That order is the merge of the orders of the bases: every class comes before its bases, and bases
keep their order.
-/

namespace ServiceManifest.Marker

/-- A class: the one that every class descends from, or the one made at a position. -/
inductive ClassId
  | object
  | made (position : Nat)
  deriving DecidableEq, Repr

/-- The name of a class. -/
def ClassId.name : ClassId → String
  | .object => "object"
  | .made position => "C" ++ toString position

/-- Why a class cannot be made or marked. -/
inductive MarkFault
  | duplicateBase (base : ClassId)
  | inconsistentOrder (heads : List ClassId)
  | notClass (value : Json.Value)
  | noInterface

/-- The wording of a fault. -/
def MarkFault.message : MarkFault → String
  | .duplicateBase base => "duplicate base class " ++ base.name
  | .inconsistentOrder heads =>
    "Cannot create a consistent method resolution\norder (MRO) for bases " ++
      ", ".intercalate (heads.map (·.name))
  | .notClass value => "auto_service can only decorate classes, got " ++ value.inspect
  | .noInterface => "auto_service() requires at least one service interface"

/-- Whether a class waits behind another one in a list. -/
def isBehind (c : ClassId) (order : List ClassId) : Bool := order.tail.contains c

/-- The first head of the lists that waits behind no other class. -/
def nextClass? (orders : List (List ClassId)) : Option ClassId :=
  (orders.filterMap (·.head?)).find? fun c => !orders.any (isBehind c)

/-- A list without a class at its front. -/
def dropHead (c : ClassId) (order : List ClassId) : List ClassId :=
  if order.head? = some c then order.tail else order

/-- Merge orders into one. The first argument bounds the number of classes. -/
def merge : Nat → List (List ClassId) → Except MarkFault (List ClassId)
  | 0, _ => .ok []
  | fuel + 1, orders =>
    if orders.all (·.isEmpty) then .ok []
    else
      match nextClass? orders with
      | none => .error (.inconsistentOrder (orders.filterMap (·.head?)).eraseDups)
      | some c => (merge fuel (orders.map (dropHead c))).map (c :: ·)

/-- The first base that comes again later. -/
def repeated? : List ClassId → Option ClassId
  | [] => none
  | base :: rest => if rest.contains base then some base else repeated? rest

/-- A class as made: its resolution order from itself on, and its own note of interfaces. -/
structure ClassInfo (ι : Type) where
  order : List ClassId
  note : Option (List ι)

/-- The classes of a program in the order in which they were made. -/
abbrev Classes (ι : Type) := List (ClassInfo ι)

namespace Classes

variable {ι : Type}

/-- The resolution order of a class. -/
def orderOf (classes : Classes ι) : ClassId → List ClassId
  | .object => [.object]
  | .made position => ((classes[position]?).map (·.order)).getD []

/-- The resolution order of a new class with these bases. -/
def newOrder (classes : Classes ι) (bases : List ClassId) : Except MarkFault (List ClassId) :=
  let self : ClassId := .made classes.length
  match bases with
  | [] => .ok [self, .object]
  | [base] => .ok (self :: classes.orderOf base)
  | _ =>
    match repeated? bases with
    | some base => .error (.duplicateBase base)
    | none =>
      let orders := bases.map classes.orderOf ++ [bases]
      (merge (orders.foldr (fun order size => order.length + size) 0) orders).map (self :: ·)

/-- Make a class with these bases. -/
def make (classes : Classes ι) (bases : List ClassId) : Except MarkFault (Classes ι) :=
  (classes.newOrder bases).map fun order => classes ++ [⟨order, none⟩]

/-- The note that a class has of its own. -/
def ownNote (classes : Classes ι) : ClassId → Option (List ι)
  | .object => none
  | .made position => (classes[position]?).bind (·.note)

/-- The note that a class sees. -/
def visibleNote (classes : Classes ι) (c : ClassId) : Option (List ι) :=
  (classes.orderOf c).findSome? classes.ownNote

/-- Mark a class with interfaces, which are added to those of its own note. -/
def mark (classes : Classes ι) (position : Nat) (interfaces : List ι) :
    Except MarkFault (Classes ι) :=
  if interfaces.isEmpty then .error .noInterface
  else
    .ok (classes.modify position fun info =>
      { info with note := some (info.note.getD [] ++ interfaces) })

/-- Mark a value that is no class, which is always refused. -/
def markValue (value : Json.Value) (interfaces : List ι) : MarkFault :=
  if interfaces.isEmpty then .noInterface else .notClass value

end Classes

end ServiceManifest.Marker
