import BlockDiscovery.Json.Printer

/-!
# Messages

The messages a client sends, as JSON values, and the shapes of the messages it
receives.
-/

namespace BlockDiscovery.Protocol

open BlockDiscovery BlockDiscovery.Json

/-! ## Sent messages -/

/-- The member that holds parameters: none when there are none. -/
def paramsMember (params : Option Value) : List (String × Value) :=
  params.toList.map fun v => ("params", v)

def request (id : Nat) (method : String) (params : Option Value) : Value :=
  .ofMembers <|
    [("jsonrpc", .string "2.0"), ("id", .nat id), ("method", .string method)] ++ paramsMember params

def notification (method : String) (params : Option Value) : Value :=
  .ofMembers <| [("jsonrpc", .string "2.0"), ("method", .string method)] ++ paramsMember params

/-- The code of an answer to a request for an unknown method. -/
def methodNotFoundCode : Int := -32601

/-- The answer to a request of the server: this client serves no method. -/
def methodNotFound (id : Value) (method : String) : Value :=
  .ofMembers
    [("jsonrpc", .string "2.0"), ("id", id),
      ("error", .ofMembers
        [("code", .int methodNotFoundCode), ("message", .string ("Method not found: " ++ method))])]

/-- What the client can do: it takes diagnostics of whole documents and nothing
else. -/
def capabilities : Value :=
  .ofMembers
    [("textDocument", .ofMembers
      [("synchronization", .ofMembers
        [("dynamicRegistration", .bool false), ("willSave", .bool false),
          ("willSaveWaitUntil", .bool false), ("didSave", .bool false)]),
        ("publishDiagnostics", .ofMembers [("relatedInformation", .bool false)])])]

def handshakeParams (processId : Value) (rootUri : String) (options : Option Value) : Value :=
  .ofMembers <|
    [("processId", processId), ("rootUri", .string rootUri), ("capabilities", capabilities),
      ("workspaceFolders",
        .array [.ofMembers [("uri", .string rootUri), ("name", .string "workspace")]])] ++
    options.toList.map fun v => ("initializationOptions", v)

/-- The parameters of the notification that a document was opened. -/
def didOpenParams (uri language : String) (version : Int) (text : String) : Value :=
  .ofMembers
    [("textDocument", .ofMembers
      [("uri", .string uri), ("languageId", .string language), ("version", .int version),
        ("text", .string text)])]

/-- The parameters of the notification that a document has a new text. -/
def didChangeParams (uri : String) (version : Int) (text : String) : Value :=
  .ofMembers
    [("textDocument", .ofMembers [("uri", .string uri), ("version", .int version)]),
      ("contentChanges", .array [.ofMembers [("text", .string text)]])]

/-! ## Received messages -/

/-- A received message by its shape. -/
inductive Incoming where
  | response (id : Nat) (body : Value)
  | request (id : Value) (method : String)
  | notification (method : String) (params : Option Value)
  deriving Repr, BEq

namespace Incoming

/-- The shape of a message, if it has one that the client can act on. -/
def ofValue? (message : Value) : Option Incoming :=
  match message.get? "id", (message.get? "method").bind Value.text? with
  | some id, some method => some (.request id method)
  | none, some method => some (.notification method (message.get? "params"))
  | some id, none =>
    if (message.get? "result").isSome || (message.get? "error").isSome then
      id.unsigned?.map fun id => .response id message
    else none
  | none, none => none

end Incoming

/-- The code and message of a response's error, if it has one. -/
def responseError? (body : Value) : Option (Int × String) :=
  (body.get? "error").map fun error =>
    (((error.get? "code").bind Value.signed?).getD 0,
      ((error.get? "message").bind Value.text?).getD "unknown error")

end BlockDiscovery.Protocol
