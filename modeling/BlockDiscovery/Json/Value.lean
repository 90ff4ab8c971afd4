import BlockDiscovery.Decimal.Shortest

/-!
# JSON values

A value keeps an integer in `-2 ^ 63 … 2 ^ 64 - 1` exact and holds every other
number as a double.  The members of an object are listed in increasing order of
their keys, without repetition; `Value.ofMembers` and `insertEntry` keep that
order, and `Value.Ordered` says it.
-/

namespace BlockDiscovery.Json

open BlockDiscovery.Decimal (Binary64)

/-! ## Numbers -/

/-- A number: an exact integer or a double. -/
inductive Number where
  | int (n : Int)
  | double (x : Binary64)
  deriving Repr, DecidableEq, Inhabited

namespace Number

/-- The integers that are kept exact. -/
def exactRange (n : Int) : Prop := -0x8000_0000_0000_0000 ≤ n ∧ n < 0x1_0000_0000_0000_0000

/-- The natural number below `2 ^ 64` that this number is, if it is one. -/
def unsigned? : Number → Option Nat
  | .int n => if 0 ≤ n ∧ n < 0x1_0000_0000_0000_0000 then some n.toNat else none
  | .double _ => none

/-- The integer in `-2 ^ 63 … 2 ^ 63 - 1` that this number is, if it is one. -/
def signed? : Number → Option Int
  | .int n => if -0x8000_0000_0000_0000 ≤ n ∧ n < 0x8000_0000_0000_0000 then some n else none
  | .double _ => none

end Number

/-! ## Entries in order of their keys -/

/-- Entries after a key has been given a value: the key's place is where the order
puts it, and an earlier value of the key is replaced. -/
def insertEntry {α : Type} (key : String) (value : α) : List (String × α) → List (String × α)
  | [] => [(key, value)]
  | (k, v) :: rest =>
    if key < k then (key, value) :: (k, v) :: rest
    else if key = k then (key, value) :: rest
    else (k, v) :: insertEntry key value rest

def lookup {α : Type} (key : String) : List (String × α) → Option α
  | [] => none
  | (k, v) :: rest => if k = key then some v else lookup key rest

/-! ## Values -/

inductive Value where
  | null
  | bool (b : Bool)
  | number (n : Number)
  | string (s : String)
  | array (items : List Value)
  | object (members : List (String × Value))
  deriving Repr, BEq, Inhabited

namespace Value

def int (n : Int) : Value := .number (.int n)

def nat (n : Nat) : Value := .number (.int n)

/-- The object with the given members; of a repeated key the last value stays. -/
def ofMembers (members : List (String × Value)) : Value :=
  .object (members.foldl (fun done (k, v) => insertEntry k v done) [])

/-- The member of an object with the given key; a value that is no object has
none. -/
def get? (key : String) : Value → Option Value
  | .object members => lookup key members
  | _ => none

/-- The member of an object with the given key, or null. -/
def getD (key : String) (v : Value) : Value := (v.get? key).getD .null

def item? (index : Nat) : Value → Option Value
  | .array items => items[index]?
  | _ => none

def text? : Value → Option String
  | .string s => some s
  | _ => none

/-- The natural number below `2 ^ 64` that a value is, if it is one. -/
def unsigned? : Value → Option Nat
  | .number n => n.unsigned?
  | _ => none

/-- The integer in `-2 ^ 63 … 2 ^ 63 - 1` that a value is, if it is one. -/
def signed? : Value → Option Int
  | .number n => n.signed?
  | _ => none

/-! ## Order of members -/

mutual

/-- Every object inside the value, itself included, lists its members in
strictly increasing order of the keys. -/
def Ordered : Value → Prop
  | .null | .bool _ | .number _ | .string _ => True
  | .array items => OrderedItems items
  | .object members => (members.map Prod.fst).Pairwise (· < ·) ∧ OrderedMembers members

def OrderedItems : List Value → Prop
  | [] => True
  | v :: rest => v.Ordered ∧ OrderedItems rest

def OrderedMembers : List (String × Value) → Prop
  | [] => True
  | (_, v) :: rest => v.Ordered ∧ OrderedMembers rest

end

mutual

/-- The same value with the members of every object in order. -/
def sorted : Value → Value
  | .array items => .array (sortedItems items)
  | .object members => ofMembers (sortedMembers members)
  | v => v

def sortedItems : List Value → List Value
  | [] => []
  | v :: rest => v.sorted :: sortedItems rest

def sortedMembers : List (String × Value) → List (String × Value)
  | [] => []
  | (k, v) :: rest => (k, v.sorted) :: sortedMembers rest

end

mutual

/-- How many arrays and objects lie inside one another, at most. -/
def nesting : Value → Nat
  | .null | .bool _ | .number _ | .string _ => 0
  | .array items => nestingItems items + 1
  | .object members => nestingMembers members + 1

def nestingItems : List Value → Nat
  | [] => 0
  | v :: rest => max v.nesting (nestingItems rest)

def nestingMembers : List (String × Value) → Nat
  | [] => 0
  | (_, v) :: rest => max v.nesting (nestingMembers rest)

end

mutual

/-- Every number inside the value is an exact integer. -/
def Integral : Value → Prop
  | .number (.int n) => Number.exactRange n
  | .number (.double _) => False
  | .null | .bool _ | .string _ => True
  | .array items => IntegralItems items
  | .object members => IntegralMembers members

def IntegralItems : List Value → Prop
  | [] => True
  | v :: rest => v.Integral ∧ IntegralItems rest

def IntegralMembers : List (String × Value) → Prop
  | [] => True
  | (_, v) :: rest => v.Integral ∧ IntegralMembers rest

end

end Value

end BlockDiscovery.Json
