/-!
# Ascending lists

A finite set is kept as its members in strictly ascending order, so that equal sets are equal lists.
Lists are sorted into ascending order as well, with what is repeated kept. The order is given as a
Boolean test `before`.
-/

namespace ServiceManifest.Ascending

variable {α : Type}

/-- Insert a member, unless it is one already. -/
def insert (before : α → α → Bool) (x : α) : List α → List α
  | [] => [x]
  | y :: rest =>
    if before x y then x :: y :: rest
    else if before y x then y :: insert before x rest
    else y :: rest

/-- The ascending list of the members of a list. -/
def ofList (before : α → α → Bool) (xs : List α) : List α :=
  xs.foldl (fun members x => insert before x members) []

/-- Put a member in front of the first that does not come before it. -/
def place (before : α → α → Bool) (x : α) : List α → List α
  | [] => [x]
  | y :: rest => if before y x then y :: place before x rest else x :: y :: rest

/-- The members of a list in ascending order; those of which neither comes before the other stay in
the order in which they were. -/
def sort (before : α → α → Bool) (xs : List α) : List α := xs.foldr (place before) []

/-- The order of texts by code point. -/
def textBefore (a b : String) : Bool := decide (a < b)

/-- The order of pairs by the first part, then by the second. -/
def pairBefore {β : Type} [DecidableEq α] (first : α → α → Bool) (second : β → β → Bool)
    (a b : α × β) : Bool :=
  first a.1 b.1 || (a.1 = b.1 && second a.2 b.2)

/-- The ascending list of texts. -/
def texts (xs : List String) : List String := ofList textBefore xs

end ServiceManifest.Ascending
