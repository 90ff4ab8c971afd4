import BlockDiscovery.Config.Environment

/-!
# Commands of the shell

A small part of the command language: simple commands with quotes, variables and
redirections, joined by semicolons, line feeds, `&&` and `||`.  `commandsOf?` reads a
script; a script outside this part is refused as a whole.
-/

namespace BlockDiscovery.Shell

open BlockDiscovery BlockDiscovery.Config

/-! ## Words -/

/-- A piece of a word. -/
inductive Piece where
  | text (s : List Char)
  /-- The value of a variable; outside quotes it is split at blanks. -/
  | variable (name : List Char) (quoted : Bool)
  deriving Repr, DecidableEq, Inhabited

/-- A word is made of pieces without a blank between them. -/
abbrev Word := List Piece

/-- When the next command runs. -/
inductive Joint where
  | always
  | onSuccess
  | onFailure
  deriving Repr, DecidableEq, Inhabited

/-- What a script is made of. -/
inductive Token where
  | word (w : Word)
  | joint (j : Joint)
  /-- The next word is the file that a descriptor is sent to. -/
  | toFile (descriptor : Char)
  /-- A descriptor is sent where another one goes. -/
  | toDescriptor (descriptor target : Char)
  /-- The next word is the file that is read. -/
  | fromFile
  deriving Repr, DecidableEq, Inhabited

/-! ## Reading tokens -/

/-- How the next character is read. -/
inductive Mode where
  | bare
  | single
  | double
  /-- In a comment. -/
  | comment
  /-- In the name of a variable, up to the closing brace. -/
  | braced (quoted : Bool) (name : List Char)
  deriving Repr, DecidableEq

def addPiece (current : Option Word) (p : Piece) : Option Word := some (current.getD [] ++ [p])

def addChar (current : Option Word) (c : Char) : Option Word := addPiece current (.text [c])

/-- The tokens with the word that was being read before them. -/
def flush (current : Option Word) (rest : List Token) : List Token :=
  match current with
  | some w => .word w :: rest
  | none => rest

/-- Whether a character may stand in the name of a variable. -/
def isNameChar (c : Char) : Bool := c.isAlphanum || c == '_'

/-- Whether a character is a variable of its own after a dollar. -/
def isSpecial (c : Char) : Bool := c.isDigit || c == '?' || c == '$' || c == '#' || c == '@'

/-- The descriptor that stands before a redirection, and the word without it. -/
def redirected (current : Option Word) : Char × Option Word :=
  match current with
  | some [.text [c]] => if c.isDigit then (c, none) else ('1', current)
  | _ => ('1', current)

/-- Read tokens; `fuel` bounds the number of steps. -/
def scan : Nat → Mode → Option Word → List Char → Option (List Token)
  | 0, _, _, _ => none
  | _, .bare, current, [] | _, .comment, current, [] => some (flush current [])
  | _, _, _, [] => none
  | fuel + 1, .comment, current, c :: rest =>
    if c = '\n' then
      (scan fuel .bare none rest).map fun ts => flush current (.joint .always :: ts)
    else scan fuel .comment current rest
  | fuel + 1, .single, current, c :: rest =>
    if c = '\'' then scan fuel .bare current rest
    else scan fuel .single (addChar current c) rest
  | fuel + 1, .braced quoted name, current, c :: rest =>
    if c = '\x7d' then
      scan fuel (if quoted then .double else .bare) (addPiece current (.variable name quoted)) rest
    else if isNameChar c || isSpecial c then scan fuel (.braced quoted (name ++ [c])) current rest
    else none
  | fuel + 1, mode, current, '$' :: c :: rest =>
    let quoted := mode == .double
    if c = '\x7b' then scan fuel (.braced quoted []) current rest
    -- commands inside words are not part of the language
    else if c = '(' then none
    else if isSpecial c then scan fuel mode (addPiece current (.variable [c] quoted)) rest
    else if isNameChar c then
      scan fuel mode (addPiece current (.variable (c :: rest.takeWhile isNameChar) quoted))
        (rest.dropWhile isNameChar)
    else scan fuel mode (addChar current '$') (c :: rest)
  | fuel + 1, .double, current, '\\' :: c :: rest =>
    if c = '\n' then scan fuel .double current rest
    else if c = '$' || c = '"' || c = '\\' || c = '\x60' then
      scan fuel .double (addChar current c) rest
    -- between double quotes other backslashes stay
    else scan fuel .double (addChar (addChar current '\\') c) rest
  | fuel + 1, .double, current, c :: rest =>
    if c = '"' then scan fuel .bare current rest
    else if c = '\x60' then none
    else scan fuel .double (addChar current c) rest
  | fuel + 1, .bare, current, '\\' :: c :: rest =>
    if c = '\n' then scan fuel .bare current rest else scan fuel .bare (addChar current c) rest
  | fuel + 1, .bare, current, '&' :: '&' :: rest =>
    (scan fuel .bare none rest).map fun ts => flush current (.joint .onSuccess :: ts)
  | fuel + 1, .bare, current, '|' :: '|' :: rest =>
    (scan fuel .bare none rest).map fun ts => flush current (.joint .onFailure :: ts)
  | fuel + 1, .bare, current, '>' :: '&' :: c :: rest =>
    let (descriptor, before) := redirected current
    (scan fuel .bare none rest).map fun ts => flush before (.toDescriptor descriptor c :: ts)
  | fuel + 1, .bare, current, '>' :: '>' :: rest =>
    let (descriptor, before) := redirected current
    (scan fuel .bare none rest).map fun ts => flush before (.toFile descriptor :: ts)
  | fuel + 1, .bare, current, c :: rest =>
    -- quotes make a word, even around nothing
    if c = '\'' then scan fuel .single (some (current.getD [])) rest
    else if c = '"' then scan fuel .double (some (current.getD [])) rest
    else if c = ' ' || c = '\t' then (scan fuel .bare none rest).map (flush current)
    else if c = ';' || c = '\n' then
      (scan fuel .bare none rest).map fun ts => flush current (.joint .always :: ts)
    else if c = '#' && current.isNone then scan fuel .comment none rest
    else if c = '>' then
      let (descriptor, before) := redirected current
      (scan fuel .bare none rest).map fun ts => flush before (.toFile descriptor :: ts)
    else if c = '<' then
      (scan fuel .bare none rest).map fun ts => flush current (.fromFile :: ts)
    else if "&|()\x60\x7b\x7d".toList.contains c then none
    else scan fuel .bare (addChar current c) rest

/-! ## Commands -/

structure Command where
  words : List Word
  /-- Whether what it writes is output of the shell; else it is lost. -/
  shown : Bool
  /-- Whether it reads the input of the shell; else it has none. -/
  reads : Bool
  deriving Repr, DecidableEq, Inhabited

/-- The command that does nothing. -/
def Command.blank : Command := ⟨[], true, true⟩

/-- Cut tokens into commands with the joint before each; the given command is being
read.  A line feed after another joint stands for nothing. -/
def commandsFrom (before : Joint) (c : Command) : List Token → Option (List (Joint × Command))
  | [] => some [(before, c)]
  | .joint j :: rest =>
    -- a line may break after an operator
    if c.words.isEmpty && before ≠ .always && j = .always then commandsFrom before c rest
    else (commandsFrom j .blank rest).map ((before, c) :: ·)
  | .word w :: rest => commandsFrom before { c with words := c.words ++ [w] } rest
  | .toFile descriptor :: .word _ :: rest =>
    commandsFrom before (if descriptor = '1' then { c with shown := false } else c) rest
  | .toDescriptor descriptor target :: rest =>
    commandsFrom before
      (if descriptor = '1' && target ≠ '1' then { c with shown := false } else c) rest
  | .fromFile :: .word _ :: rest => commandsFrom before { c with reads := false } rest
  | .toFile _ :: _ | .fromFile :: _ => none

/-- The commands of a script, each with the joint before it. -/
def commandsOf? (script : List Char) : Option (List (Joint × Command)) :=
  (scan (script.length + 1) .bare none script).bind (commandsFrom .always .blank)

/-! ## Expansion -/

/-- Add characters to the field that is being made; `none` stands for no field. -/
def extendField (fields : List (List Char)) (current : Option (List Char)) (s : List Char) :
    List (List Char) × Option (List Char) :=
  (fields, some (current.getD [] ++ s))

/-- Add characters that are split at blanks. -/
def splitInto (fields : List (List Char)) (current : Option (List Char)) :
    List Char → List (List Char) × Option (List Char)
  | [] => (fields, current)
  | c :: rest =>
    if c = ' ' || c = '\t' || c = '\n' then splitInto (fields ++ current.toList) none rest
    else splitInto fields (some (current.getD [] ++ [c])) rest

/-- The fields that pieces make; `value` gives the values of variables. -/
def fieldsFrom (value : List Char → List Char) (fields : List (List Char))
    (current : Option (List Char)) : Word → List (List Char)
  | [] => fields ++ current.toList
  | .text s :: rest =>
    let (fields, current) := extendField fields current s
    fieldsFrom value fields current rest
  | .variable name true :: rest =>
    let (fields, current) := extendField fields current (value name)
    fieldsFrom value fields current rest
  | .variable name false :: rest =>
    let (fields, current) := splitInto fields current (value name)
    fieldsFrom value fields current rest

/-- The fields that a word makes: one, unless variables outside quotes are in it.  A word
of quotes alone makes an empty field. -/
def fieldsOf (value : List Char → List Char) (w : Word) : List (List Char) :=
  if w.isEmpty then [[]] else fieldsFrom value [] none w

end BlockDiscovery.Shell
