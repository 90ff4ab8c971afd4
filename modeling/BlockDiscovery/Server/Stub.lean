import BlockDiscovery.Config.Environment
import BlockDiscovery.Diagnostic.Payload
import BlockDiscovery.Framing.Frame

/-!
# The stub server

A small language server to try clients with.  For every text it is shown it publishes,
after an empty publication, one diagnostic per line that holds the marker, from the
marker to the end of the line.  Variables of its environment change its behaviour: it
can decorate messages as a toolchain would, stay silent, or exit early.
-/

namespace BlockDiscovery.Server

open BlockDiscovery BlockDiscovery.Json BlockDiscovery.Config
open BlockDiscovery.Framing (encodeFrame bytesOf)

/-! ## Options -/

/-- How messages are decorated. -/
inductive Style where
  | plain
  | rust
  | nim
  | python
  deriving Repr, DecidableEq, Inhabited

/-- The style with a name; unknown names stand for the plain one. -/
def Style.ofName : String → Style
  | "rust" => .rust
  | "nim" => .nim
  | "python" => .python
  | _ => .plain

/-- What the environment asks of the server. -/
structure StubOptions where
  style : Style
  exitOnOpen : Bool
  silent : Bool
  ignoresHandshake : Bool
  exitsOnHandshake : Bool
  noisy : Bool
  deriving Repr, DecidableEq, Inhabited

/-- The options that an environment sets. -/
def StubOptions.ofEnvironment (env : Environment) : StubOptions :=
  let flag (name : String) : Bool := env.get? name = some "1"
  { style := ((env.get? "STUBLS_DECORATE").map Style.ofName).getD .plain
    exitOnOpen := flag "STUBLS_EXIT_ON_OPEN"
    silent := flag "STUBLS_SILENT"
    ignoresHandshake := flag "STUBLS_IGNORE_INITIALIZE"
    exitsOnHandshake := flag "STUBLS_EXIT_ON_INITIALIZE"
    noisy := flag "STUBLS_NOISE" }

/-! ## Diagnostics -/

/-- A text with a backslash before every quote. -/
def quoteQuotes (s : List Char) : List Char :=
  s.flatMap fun c => if c = '"' then ['\\', '"'] else [c]

/-- A payload as a toolchain reports it for a line, counted from zero. -/
def decorate (style : Style) (payload : List Char) (line : Nat) : List Char :=
  -- toolchains count lines from one
  let number := Text.decimal (line + 1)
  match style with
  | .plain => payload
  | .rust =>
    "\x1b[1m\x1b[31merror[E0080]\x1b[0m: evaluation of constant value failed\n  ".toList ++
      "the evaluated program panicked at '".toList ++ quoteQuotes payload ++
      "', src/lib.rs:".toList ++ number ++ ":5".toList
  | .nim =>
    "blocks.nim(".toList ++ number ++ ", 1) Error: unhandled exception: ".toList ++ payload ++
      " [ValueError]".toList
  | .python =>
    "Traceback (most recent call last):\n  File \"blocks.py\", line ".toList ++ number ++
      ", in <module>\nException: ".toList ++ payload

/-- The text before the marker and the text from the marker on. -/
def splitAtMarker? : List Char → Option (List Char × List Char)
  | [] => none
  | c :: rest =>
    if Diagnostic.marker.isPrefixOf (c :: rest) then some ([], c :: rest)
    else (splitAtMarker? rest).map fun (before, found) => (c :: before, found)

/-- A position as servers write it. -/
def positionValue (line character : Nat) : Value :=
  .ofMembers [("line", .nat line), ("character", .nat character)]

/-- The diagnostic for one line of a text, if it holds the marker.  Columns count
bytes. -/
def lineDiagnostic? (style : Style) (line : Nat) (content : List Char) : Option Value :=
  (splitAtMarker? content).map fun (before, found) =>
    .ofMembers
      [("range", .ofMembers
        [("start", positionValue line (bytesOf before).size),
          ("end", positionValue line (bytesOf content).size)]),
        ("severity", .nat 1), ("source", .string "stubls"),
        ("message", .string (String.ofList (decorate style (Text.trimEnd found) line)))]

def diagnosticsFor (style : Style) (text : List Char) : List Value :=
  (Text.lines text).zipIdx.filterMap fun (content, line) => lineDiagnostic? style line content

def publication (uri : String) (version : Value) (diagnostics : List Value) : Value :=
  .ofMembers
    [("jsonrpc", .string "2.0"), ("method", .string "textDocument/publishDiagnostics"),
      ("params", .ofMembers
        [("uri", .string uri), ("version", version), ("diagnostics", .array diagnostics)])]

/-! ## Reactions -/

/-- What a server does on a message: the frames it writes, and its exit code if it
exits. -/
structure StubReaction where
  frames : List Value
  exit : Option Int

/-- Write frames and go on. -/
def StubReaction.reply (frames : List Value) : StubReaction := ⟨frames, none⟩

/-- Exit without a word. -/
def StubReaction.leave (code : Int) : StubReaction := ⟨[], some code⟩

def responseFrame (id result : Value) : Value :=
  .ofMembers [("jsonrpc", .string "2.0"), ("id", id), ("result", result)]

/-- What is written on a handshake: a log message, a request and the response. -/
def handshakeFrames (id : Value) : List Value :=
  [.ofMembers
      [("jsonrpc", .string "2.0"), ("method", .string "window/logMessage"),
        ("params", .ofMembers [("type", .nat 3), ("message", .string "stubls initializing")])],
    .ofMembers
      [("jsonrpc", .string "2.0"), ("id", .string "stubls-config-1"),
        ("method", .string "workspace/configuration"),
        ("params", .ofMembers
          [("items", .array [.ofMembers [("section", .string "stubls")]])])],
    responseFrame id (.ofMembers
      [("capabilities", .ofMembers [("textDocumentSync", .nat 1)]),
        ("serverInfo", .ofMembers [("name", .string "vivafolio-stubls")])])]

/-- The answer to a request for an unknown method. -/
def unhandledFrame (id : Value) (method : String) : Value :=
  .ofMembers
    [("jsonrpc", .string "2.0"), ("id", id),
      ("error", .ofMembers
        [("code", .int (-32601)), ("message", .string ("unhandled: " ++ method))])]

/-- The text that a notification about a document shows. -/
def shownText (method : String) (params : Value) : String :=
  let holder :=
    if method = "textDocument/didOpen" then params.getD "textDocument"
    else (((params.getD "contentChanges").item? 0).getD .null)
  ((holder.get? "text").bind Value.text?).getD ""

/-- The publications for a document. -/
def publications (o : StubOptions) (method : String) (params : Value) : List Value :=
  let document := params.getD "textDocument"
  let uri := ((document.get? "uri").bind Value.text?).getD ""
  let version := document.getD "version"
  [publication uri version [],
    publication uri version (diagnosticsFor o.style (shownText method params).toList)]

/-- What the server does on a message with a method. -/
def StubOptions.react (o : StubOptions) (message : Value) (method : String) : StubReaction :=
  let id := message.getD "id"
  let params := message.getD "params"
  match method with
  | "initialize" =>
    if o.exitsOnHandshake then .leave 4
    else if o.ignoresHandshake then .reply []
    else .reply (handshakeFrames id)
  | "textDocument/didOpen" =>
    if o.exitOnOpen then .leave 3
    else if o.silent then .reply []
    else .reply (publications o method params)
  | "textDocument/didChange" =>
    if o.silent then .reply [] else .reply (publications o method params)
  | "shutdown" => .reply [responseFrame id .null]
  | "exit" => .leave 0
  | _ => .reply ((message.get? "id").toList.map fun id => unhandledFrame id method)

/-! ## Reading messages -/

/-- The lines of bytes: each with its line feed, the last one perhaps without. -/
def takeLine (b : ByteArray) (start : Nat) : Nat → Nat → ByteArray × Nat
  | 0, i => (b.extract start i, i)
  | fuel + 1, i =>
    if h : i < b.size then
      if b[i] = 0x0A then (b.extract start (i + 1), i + 1) else takeLine b start fuel (i + 1)
    else (b.extract start i, i)

/-- What a header line says about the length of the body: nothing, or a value that may
be unusable. -/
def headerLength? (line : List Char) : Option (Option Nat) :=
  match Text.cutAt? ':' line with
  | some (name, value) =>
    if Text.sameIgnoringCase name "content-length".toList then
      some (Framing.wordOf? (Text.trim value))
    else none
  | none => none

/-- What the input holds from an index on. -/
inductive StubInput where
  | ended
  /-- It cannot be read on. -/
  | broken
  /-- A body so long that no memory could hold it. -/
  | oversized
  | message (value : Value) (next : Nat)

/-- Read the body of a message. -/
def readBody (b : ByteArray) (start : Nat) : Option Nat → StubInput
  | none => .broken
  | some length =>
    -- such a buffer is not even asked for
    if 0x8000_0000_0000_0000 ≤ length then .oversized
    else if b.size < start + length then .broken
    else
      match Framing.bodyMessage? (b.extract start (start + length)) with
      | some value => .message value (start + length)
      | none => .broken

/-- Read the next message; the last usable header line gives its length. -/
def readMessage (b : ByteArray) : Nat → Option Nat → Nat → StubInput
  | 0, _, _ => .ended
  | fuel + 1, length, start =>
    let (line, next) := takeLine b start (b.size - start) start
    if line.isEmpty then .ended
    else
      match Framing.characters? line with
      | none => .broken
      | some s =>
        let s := Text.trimEnd s
        if s.isEmpty then readBody b next length
        -- a later length replaces an earlier one, also one that can be used
        else readMessage b fuel ((headerLength? s).getD length) next

/-! ## Whole runs -/

/-- Why a run is over. -/
inductive StubEnd where
  /-- The input has ended. -/
  | ended
  | broken
  | oversized
  /-- A message told the server to exit. -/
  | left (code : Int)
  deriving Repr, DecidableEq

/-- The exit code of a run that is over; a body beyond all memory has one of its own. -/
def StubEnd.code : StubEnd → Int
  | .ended => 0
  | .broken => 1
  | .oversized => 101
  | .left code => code

/-- A run: what was written, why it is over, and the methods received. -/
structure StubRun where
  output : ByteArray
  finish : StubEnd
  methods : List String

/-- Serve messages from an index on; `methods` holds those before, last first. -/
def StubOptions.serve (o : StubOptions) (b : ByteArray) :
    Nat → Nat → ByteArray → List String → StubRun
  | 0, _, output, methods => ⟨output, .ended, methods.reverse⟩
  | fuel + 1, start, output, methods =>
    match readMessage b (b.size + 1) none start with
    | .ended => ⟨output, .ended, methods.reverse⟩
    | .broken => ⟨output, .broken, methods.reverse⟩
    | .oversized => ⟨output, .oversized, methods.reverse⟩
    | .message value next =>
      match (value.get? "method").bind Value.text? with
      | none => o.serve b fuel next output methods
      | some method =>
        let reaction := o.react value method
        let output := reaction.frames.foldl (fun done f => done ++ encodeFrame f) output
        match reaction.exit with
        | some code => ⟨output, .left code, (method :: methods).reverse⟩
        | none => o.serve b fuel next output (method :: methods)

/-- What a noisy server writes before anything else. -/
def banner : List Char := "stubls: starting up\n".toList

/-- The run of the server on a whole input. -/
def StubOptions.run (o : StubOptions) (input : ByteArray) : StubRun :=
  o.serve input (input.size + 1) 0 (if o.noisy then bytesOf banner else ByteArray.empty) []

/-- The lines of the log that lists the received methods. -/
def StubRun.logLines (r : StubRun) : List (List Char) :=
  Text.lines (r.methods.flatMap fun m => m.toList ++ ['\n'])

end BlockDiscovery.Server
