import BlockDiscovery.Json.Value
import BlockDiscovery.Text.Blank

/-!
# Environment variables

An environment gives values to names.  `expand` replaces each reference of the form
dollar, opening brace, name, closing brace by the value of the name, in one pass: what
was put in is not read again.  An unset name has the empty value, and a reference that
is not closed stays as it is.
-/

namespace BlockDiscovery.Config

open BlockDiscovery

/-- The variables with their values. -/
abbrev Environment := List (String × String)

namespace Environment

def get? (env : Environment) (name : String) : Option String := Json.lookup name env

/-- The value of a reference. -/
def value (env : Environment) (name : List Char) : List Char :=
  if name.isEmpty then [] else ((env.get? (String.ofList name)).getD "").toList

/-- The text with its references replaced. -/
def expandChars (env : Environment) : List Char → List Char
  | [] => []
  | [c] => [c]
  | c :: d :: rest =>
    if c = '$' ∧ d = '\x7b' then
      match h : Text.cutAt? '\x7d' rest with
      | some (name, after) =>
        -- what was put in is not looked at again
        have : after.length < rest.length := Text.length_lt_of_cutAt? h
        env.value name ++ expandChars env after
      | none => c :: d :: rest
    else c :: expandChars env (d :: rest)
  termination_by s => s.length

/-- The names that a text refers to. -/
def references : List Char → List (List Char)
  | [] => []
  | [_] => []
  | c :: d :: rest =>
    if c = '$' ∧ d = '\x7b' then
      match h : Text.cutAt? '\x7d' rest with
      | some (name, after) =>
        have : after.length < rest.length := Text.length_lt_of_cutAt? h
        name :: references after
      | none => []
    else references (d :: rest)
  termination_by s => s.length

def expand (env : Environment) (s : String) : String :=
  String.ofList (env.expandChars s.toList)

/-- An environment with variables added or changed. -/
def extend (env added : Environment) : Environment := added ++ env

end Environment

end BlockDiscovery.Config
