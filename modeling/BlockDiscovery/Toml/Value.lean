import BlockDiscovery.Json.Value

/-!
# Configuration values

The values of a TOML document.  A date or time is kept as its normalized text.  The
entries of a table are listed in increasing order of their keys.
-/

namespace BlockDiscovery.Toml

open BlockDiscovery.Decimal (Binary64)

inductive Real where
  | finite (x : Binary64)
  | infinite (negative : Bool)
  | undefined
  deriving Repr, DecidableEq, Inhabited

inductive Value where
  | string (s : String)
  | integer (n : Int)
  | real (x : Real)
  | boolean (b : Bool)
  | moment (text : String)
  | array (items : List Value)
  | table (entries : List (String × Value))
  deriving Repr, Inhabited

namespace Real

/-- The text of a number that JSON does not have. -/
def text : Real → String
  | .finite x => String.ofList x.text
  | .infinite false => "inf"
  | .infinite true => "-inf"
  | .undefined => "NaN"

end Real

mutual

/-- The JSON value of a value; the first number that JSON does not have is an
error. -/
def Value.toJson : Value → Except Real Json.Value
  | .string s => .ok (.string s)
  | .integer n => .ok (.int n)
  | .real (.finite x) => .ok (.number (.double x))
  | .real x => .error x
  | .boolean b => .ok (.bool b)
  | .moment text => .ok (.string text)
  | .array items => (itemsToJson items).map .array
  | .table entries => (entriesToJson entries).map .object

def itemsToJson : List Value → Except Real (List Json.Value)
  | [] => .ok []
  | v :: rest => do
    let v ← v.toJson
    let rest ← itemsToJson rest
    return v :: rest

def entriesToJson : List (String × Value) → Except Real (List (String × Json.Value))
  | [] => .ok []
  | (k, v) :: rest => do
    let v ← v.toJson
    let rest ← entriesToJson rest
    return (k, v) :: rest

end

end BlockDiscovery.Toml
