import BlockDiscovery.Json.Value

/-!
# Compact JSON text

`Value.render` writes a value without any blank between tokens.  Inside a string
only the quote, the backslash and the controls below U+0020 are escaped.
-/

namespace BlockDiscovery.Json

open BlockDiscovery

/-- How one character stands inside a string: the quote and the backslash after
a backslash, the controls by their short escape if they have one and else by
number, every other character as itself. -/
def escape (c : Char) : List Char :=
  if c = '"' then ['\\', '"']
  else if c = '\\' then ['\\', '\\']
  else if c = '\n' then ['\\', 'n']
  else if c = '\r' then ['\\', 'r']
  else if c = '\t' then ['\\', 't']
  else if c = '\x08' then ['\\', 'b']
  else if c = '\x0c' then ['\\', 'f']
  else if c.toNat < 0x20 then
    ['\\', 'u', '0', '0', Text.hexLower (c.toNat / 16), Text.hexLower (c.toNat % 16)]
  else [c]

def quote (s : String) : List Char := '"' :: (s.toList.flatMap escape ++ ['"'])

def integerText (n : Int) : List Char :=
  if n < 0 then '-' :: Text.decimal n.natAbs else Text.decimal n.natAbs

def Number.render : Number → List Char
  | .int n => integerText n
  | .double x => x.text

mutual

/-- The compact text of a value. -/
def Value.render : Value → List Char
  | .null => ['n', 'u', 'l', 'l']
  | .bool true => ['t', 'r', 'u', 'e']
  | .bool false => ['f', 'a', 'l', 's', 'e']
  | .number n => n.render
  | .string s => quote s
  | .array [] => ['[', ']']
  | .array (v :: rest) => '[' :: (v.render ++ renderItems rest)
  | .object [] => ['\x7b', '\x7d']
  | .object ((k, v) :: rest) => '\x7b' :: (quote k ++ ':' :: (v.render ++ renderMembers rest))

/-- The items after the first one, each behind a comma, and the closing bracket. -/
def renderItems : List Value → List Char
  | [] => [']']
  | v :: rest => ',' :: (v.render ++ renderItems rest)

/-- The members after the first one, each behind a comma, and the closing brace. -/
def renderMembers : List (String × Value) → List Char
  | [] => ['\x7d']
  | (k, v) :: rest => ',' :: (quote k ++ ':' :: (v.render ++ renderMembers rest))

end

def Value.compact (v : Value) : String := String.ofList v.render

end BlockDiscovery.Json
