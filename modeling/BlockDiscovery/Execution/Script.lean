import BlockDiscovery.Framing.Decoder
import BlockDiscovery.Execution.Response

/-!
# Scripted servers

A script lists the actions of a server by the method of the message it receives: under
the method, or under the method, a number sign and a count for just that occurrence.
The actions under `start` are done before anything is read.  Methods that the script
does not list get the answers of a minimal server, which finishes the handshake and
leaves when it is told to.
-/

namespace BlockDiscovery.Execution

open BlockDiscovery BlockDiscovery.Json
open BlockDiscovery.Framing (FrameDecoder encodeFrame)

/-! ## Scripts -/

inductive Action where
  /-- Write a frame; placeholders in it are filled in. -/
  | send (message : Value)
  | raw (bytes : ByteArray)
  | exit (code : Int)
  /-- Die by a signal. -/
  | abort

/-- The actions of a server, by occasion. -/
abbrev Script := List (String × List Action)

/-- The URI of the document of a message. -/
def documentMember (message : Value) (key : String) : Value :=
  ((message.getD "params").getD "textDocument").getD key

/-- Another spelling of the same URI. -/
def respell (uri : String) : String :=
  String.ofList (uri.toList.flatMap fun c =>
    if c = '.' then "%2e".toList else if c = 'v' then "%76".toList else [c])

/-- What a placeholder stands for in the answer to a message. -/
def placeholder? (message : Value) : String → Option Value
  | "$ID" => some (message.getD "id")
  | "$URI" => some (documentMember message "uri")
  | "$VERSION" => some (documentMember message "version")
  | "$URI_ESCAPED" =>
    some (((documentMember message "uri").text?.map fun uri => .string (respell uri)).getD .null)
  | _ => none

mutual

/-- A value with its placeholders filled in. -/
def fill (message : Value) : Value → Value
  | .string s => (placeholder? message s).getD (.string s)
  | .array items => .array (fillItems message items)
  | .object members => .object (fillMembers message members)
  | .null => .null
  | .bool b => .bool b
  | .number n => .number n

def fillItems (message : Value) : List Value → List Value
  | [] => []
  | v :: rest => fill message v :: fillItems message rest

def fillMembers (message : Value) : List (String × Value) → List (String × Value)
  | [] => []
  | (k, v) :: rest => (k, fill message v) :: fillMembers message rest

end

/-- Do actions in order, until one of them ends the process. -/
def perform (message : Value) : List Action → Response
  | [] => .idle
  | .send frame :: rest => (perform message rest).after (encodeFrame (fill message frame))
  | .raw bytes :: rest => (perform message rest).after bytes
  | .exit code :: _ => ⟨ByteArray.empty, some (exitCode code)⟩
  | .abort :: _ => ⟨ByteArray.empty, some none⟩

/-- The actions of a minimal server. -/
def minimalActions (method : String) : List Action :=
  let answer (result : Value) : List Action :=
    [.send (.ofMembers [("jsonrpc", .string "2.0"), ("id", .string "$ID"), ("result", result)])]
  match method with
  | "initialize" => answer (.ofMembers [("capabilities", .ofMembers [])])
  | "shutdown" => answer .null
  | "exit" => [.exit 0]
  | _ => []

/-- The actions for an occurrence of a method; the first one has the number one. -/
def Script.actions (s : Script) (method : String) (occurrence : Nat) : List Action :=
  let numbered := method ++ "#" ++ String.ofList (Text.decimal occurrence)
  ((lookup numbered s).or (lookup method s)).getD (minimalActions method)

/-- The actions at the start. -/
def Script.opening (s : Script) : List Action := (lookup "start" s).getD []

/-! ## Playing a script -/

/-- A server that plays a script. -/
structure Player where
  script : Script
  decoder : FrameDecoder
  /-- The methods received so far. -/
  methods : List String

namespace Player

def fresh (script : Script) : Player := ⟨script, .fresh, []⟩

/-- Act on one message.  Answers have no method and are passed over. -/
def hear (p : Player) (message : Value) : Player × Response :=
  match (message.get? "method").bind Value.text? with
  | none => (p, .idle)
  | some method =>
    let occurrence := p.methods.count method + 1
    ({ p with methods := method :: p.methods }, perform message (p.script.actions method occurrence))

/-- Act on messages until the server ends; those it heard are told. -/
def hearAll (p : Player) : List Value → Player × Response × List Value
  | [] => (p, .idle, [])
  | message :: rest =>
    let (p, response) := p.hear message
    if response.ending.isSome then (p, response, [message])
    else
      let (p, later, heard) := hearAll p rest
      (p, later.after response.output, message :: heard)

def feed (p : Player) (bytes : ByteArray) : Player × Response × List Value :=
  match p.decoder.feed bytes with
  | (.ok messages, decoder) => { p with decoder }.hearAll messages
  | (.error _, decoder) => ({ p with decoder }, ⟨ByteArray.empty, some (exitCode 1)⟩, [])

end Player

end BlockDiscovery.Execution
