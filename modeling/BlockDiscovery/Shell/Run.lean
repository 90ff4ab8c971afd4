import BlockDiscovery.Execution.Response
import BlockDiscovery.Shell.Command

/-!
# Running shell scripts

A shell does its commands one after another.  Most of them take no time; `cat` waits for
the end of the input and `sleep` for the clock.  `Interpreter.run` does commands up to the next
one that waits.
-/

namespace BlockDiscovery.Shell

open BlockDiscovery BlockDiscovery.Config
open BlockDiscovery.Execution (Ending Response exitCode)

/-! ## State -/

/-- Commands, each with the joint before it. -/
abbrev Commands := List (Joint × Command)

/-- What a shell is at. -/
inductive Activity where
  /-- It reads its script from the input. -/
  | loading
  /-- It copies the input up to its end; `shown` as for commands. -/
  | copying (shown : Bool)
  | sleeping (wakeTime : Nat)
  | ended (ending : Ending)
  deriving Repr, DecidableEq, Inhabited

/-- A shell between two events. -/
structure Interpreter where
  environment : Environment
  /-- The working directory as it is printed. -/
  directory : List Char
  activity : Activity
  /-- The commands after the one it is at. -/
  remaining : Commands
  /-- The exit code of the last command. -/
  status : Nat
  /-- Input that was not read yet. -/
  pending : ByteArray
  /-- Whether the input has ended. -/
  closed : Bool

/-! ## Single commands -/

/-- What a command does. -/
inductive Effect where
  | finish (output : List Char) (status : Nat)
  | assign (added : Environment)
  | copy
  | sleep (duration : Nat)
  | quit (ending : Ending)
  /-- Run a script, and nothing after it. -/
  | script (text : List Char) (added : Environment)
  | load

/-- The exit code of a command that does not exist. -/
def unknownStatus : Nat := 127

/-- The exit code of a shell that cannot make sense of what it is told. -/
def misuseStatus : Nat := 2

/-- Characters after their escapes are read; `\c` ends the text. -/
def unescape : List Char → List Char
  | '\\' :: c :: rest =>
    match c with
    | 'n' => '\n' :: unescape rest
    | 't' => '\t' :: unescape rest
    | 'r' => '\r' :: unescape rest
    | '\\' => '\\' :: unescape rest
    | 'c' => []
    | c => '\\' :: c :: unescape rest
  | c :: rest => c :: unescape rest
  | [] => []

/-- A text with blanks between its parts. -/
def spaced : List (List Char) → List Char
  | [] => []
  | [s] => s
  | s :: rest => s ++ ' ' :: spaced rest

/-- Fill a format once; the arguments left over are told. -/
def formatOnce : List Char → List (List Char) → List Char × List (List Char)
  | '%' :: '%' :: rest, args =>
    let (out, left) := formatOnce rest args
    ('%' :: out, left)
  | '%' :: c :: rest, args =>
    if c = 's' || c = 'd' || c = 'i' then
      let filled := args.head?.getD (if c = 's' then [] else ['0'])
      let (out, left) := formatOnce rest args.tail
      (filled ++ out, left)
    else
      let (out, left) := formatOnce rest args
      ('%' :: c :: out, left)
  | c :: rest, args =>
    let (out, left) := formatOnce rest args
    (c :: out, left)
  | [], args => ([], args)

/-- Fill a format until no argument is left; `fuel` bounds the rounds. -/
def format (text : List Char) : Nat → List (List Char) → List Char
  | 0, _ => []
  | fuel + 1, args =>
    let (out, left) := formatOnce text args
    -- a format that takes no argument is not filled again
    if left.isEmpty || left.length = args.length then out else out ++ format text fuel left

/-- A duration in seconds as milliseconds. -/
def milliseconds? (s : List Char) : Option Nat :=
  let s := if s.getLast? = some 's' then s.dropLast else s
  let whole := s.takeWhile Char.isDigit
  let digits? := match s.dropWhile Char.isDigit with
    | [] => if whole.isEmpty then none else some []
    | '.' :: fraction => if fraction.all Char.isDigit then some fraction else none
    | _ => none
  digits?.map fun fraction =>
    Text.digitsValue whole * 1000 + Text.digitsValue ((fraction ++ "000".toList).take 3)

/-- The names by which a shell knows the signal that does nothing. -/
def harmlessSignals : List (List Char) := ["-0".toList, "-CONT".toList, "-CHLD".toList]

/-- The text by which a script names its own process. -/
def ownId : List Char := "$$".toList

/-- A number that an exit code can be made of. -/
def number? (s : List Char) : Option Nat :=
  if s.isEmpty || !s.all Char.isDigit then none else some (Text.digitsValue s)

/-- Assignments before a command. -/
def assignment? (field : List Char) : Option (String × String) :=
  match Text.cutAt? '=' field with
  | some (name, value) =>
    if !name.isEmpty && name.all isNameChar && !(name.head?.any Char.isDigit) then
      some (String.ofList name, String.ofList value)
    else none
  | none => none

/-- Positional parameters. -/
def positional (args : List (List Char)) : Environment :=
  args.zipIdx.map fun (a, n) => (String.ofList (Text.decimal n), String.ofList a)

/-- What a command with a name and arguments does. -/
def effectOf (directory : List Char) (status : Nat) (name : String) (args : List (List Char)) :
    Effect :=
  match name, args with
  | "true", _ | ":", _ | "trap", _ => .finish [] 0
  | "false", _ => .finish [] 1
  | "exit", [] => .quit (exitCode status)
  | "exit", s :: _ => .quit (exitCode ((number? s).getD misuseStatus))
  | "kill", args =>
    if args.contains ownId && !harmlessSignals.any args.contains then .quit none
    else .finish [] (if args.contains ownId then 0 else 1)
  | "cat", [] | "cat", [['-']] => .copy
  | "pwd", _ => .finish (directory ++ ['\n']) 0
  | "echo", ['-', 'n'] :: args => .finish (unescape (spaced args)) 0
  | "echo", args => .finish (unescape (spaced args) ++ ['\n']) 0
  | "printf", text :: args => .finish (format (unescape text) (args.length + 1) args) 0
  | "sleep", s :: _ =>
    match milliseconds? s with
    | some duration => .sleep duration
    | none => .finish [] 1
  | "sh", ['-', 'c'] :: script :: args => .script script (positional args)
  | "sh", [] => .load
  | "sh", _ => .finish [] misuseStatus
  | "cat", _ => .finish [] 1
  | "printf", [] => .finish [] misuseStatus
  | "sleep", [] => .finish [] 1
  | _, _ => .finish [] unknownStatus

/-- What fields do, and whether the shell is over with them. -/
def effectOfFields (directory : List Char) (status : Nat) : List (List Char) → Effect × Bool
  | [] => (.finish [] status, false)
  | field :: rest =>
    match assignment? field with
    | some v =>
      match effectOfFields directory status rest with
      | (.assign more, last) => (.assign (v :: more), last)
      -- before a command an assignment has no effect here
      | (effect, last) => (if rest.isEmpty then .assign [v] else effect, last)
    | none =>
      if field = "exec".toList then
        match rest with
        | [] => (.finish [] 0, false)
        | name :: args => (effectOf directory status (String.ofList name) args, true)
      else (effectOf directory status (String.ofList field) rest, false)

/-! ## Running -/

namespace Interpreter

def value (s : Interpreter) (name : List Char) : List Char :=
  if name = ['$'] then ownId
  else if name = ['?'] then Text.decimal s.status
  else s.environment.value name

/-- End a shell. -/
def stop (s : Interpreter) (ending : Ending) : Interpreter × Response :=
  ({ s with activity := .ended ending, remaining := [] }, ⟨ByteArray.empty, some ending⟩)

/-- Whether a command runs after a joint. -/
def runs (s : Interpreter) : Joint → Bool
  | .always => true
  | .onSuccess => s.status = 0
  | .onFailure => s.status ≠ 0

/-- Bytes, if they are shown. -/
def visible (shown : Bool) (bytes : ByteArray) : ByteArray := if shown then bytes else ByteArray.empty

/-- Do commands up to the next one that waits; `fuel` bounds their number. -/
def run (now : Nat) : Nat → Commands → Interpreter → Interpreter × Response
  | 0, _, s => s.stop (exitCode misuseStatus)
  | _ + 1, [], s => s.stop (exitCode s.status)
  | fuel + 1, (joint, c) :: rest, s =>
    if !s.runs joint then run now fuel rest s
    else
      let (effect, last) :=
        effectOfFields s.directory s.status (c.words.flatMap (fieldsOf s.value))
      -- what replaces the shell is the last command
      let rest := if last then [] else rest
      match effect with
      | .finish output status =>
        let (s, response) := run now fuel rest { s with status }
        (s, response.after (visible c.shown (String.ofList output).toUTF8))
      | .assign added =>
        run now fuel rest { s with environment := s.environment.extend added, status := 0 }
      | .quit ending => s.stop ending
      | .sleep duration =>
        ({ s with activity := .sleeping (now + duration), remaining := rest, status := 0 }, .idle)
      | .copy =>
        let s := { s with status := 0 }
        if !c.reads then run now fuel rest s
        else
          let bytes := visible c.shown s.pending
          let s := { s with pending := ByteArray.empty }
          if s.closed then
            let (s, response) := run now fuel rest s
            (s, response.after bytes)
          else ({ s with activity := .copying c.shown, remaining := rest }, .write bytes)
      | .script text added =>
        match commandsOf? text with
        | none => run now fuel rest { s with status := misuseStatus }
        | some commands =>
          run now fuel (commands ++ rest)
            { s with environment := s.environment.extend added, status := 0 }
      | .load =>
        if s.closed then
          match (String.fromUTF8? s.pending).bind fun text => commandsOf? text.toList with
          | none => run now fuel rest { s with status := misuseStatus }
          | some commands => run now fuel (commands ++ rest) { s with pending := ByteArray.empty }
        else ({ s with activity := .loading, remaining := rest }, .idle)

/-- How many commands a shell does between two events, at most. -/
def commandLimit : Nat := 10000

/-- Go on with the commands that are left. -/
def resume (s : Interpreter) (now : Nat) : Interpreter × Response := s.run now commandLimit s.remaining

/-- The command that stands for a program and its arguments. -/
def wordsCommand (words : List (List Char)) : Command :=
  ⟨words.map fun w => [.text w], true, true⟩

def start (environment : Environment) (directory : List Char) (words : List (List Char))
    (now : Nat) : Interpreter × Response :=
  let fresh : Interpreter :=
    ⟨environment, directory, .loading, [(.always, wordsCommand words)], 0, ByteArray.empty, false⟩
  fresh.resume now

def feed (s : Interpreter) (bytes : ByteArray) : Interpreter × Response :=
  match s.activity with
  | .copying shown => (s, .write (visible shown bytes))
  | .loading | .sleeping _ => ({ s with pending := s.pending ++ bytes }, .idle)
  | .ended _ => (s, .idle)

def close (s : Interpreter) (now : Nat) : Interpreter × Response :=
  let s := { s with closed := true }
  match s.activity with
  | .copying _ => s.resume now
  | .loading => s.run now commandLimit ((.always, wordsCommand ["sh".toList]) :: s.remaining)
  | .sleeping _ | .ended _ => (s, .idle)

def wake (s : Interpreter) (now : Nat) : Interpreter × Response :=
  match s.activity with
  | .sleeping wakeTime => if wakeTime ≤ now then s.resume now else (s, .idle)
  | _ => (s, .idle)

def alarm? (s : Interpreter) : Option Nat :=
  match s.activity with
  | .sleeping wakeTime => some wakeTime
  | _ => none

end Interpreter

end BlockDiscovery.Shell
