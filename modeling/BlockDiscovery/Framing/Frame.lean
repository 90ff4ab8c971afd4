import BlockDiscovery.Framing.Header
import BlockDiscovery.Json.Decode

/-!
# Frames

How one JSON message is written: the length of its body in bytes, an empty line and
the body in compact form.
-/

namespace BlockDiscovery.Framing

open BlockDiscovery BlockDiscovery.Json

/-- The header block of a body of the given length, with the empty line. -/
def headerOf (length : Nat) : ByteArray :=
  bytesOf ("Content-Length: ".toList ++ Text.decimal length ++ ['\r', '\n', '\r', '\n'])

def frameOf (body : ByteArray) : ByteArray := headerOf body.size ++ body

/-- The frame of a message; the members of its objects are written in order. -/
def encodeFrame (message : Value) : ByteArray := frameOf (bytesOf message.render)

/-- The bytes of several messages written one after another. -/
def encodeFrames (messages : List Value) : ByteArray :=
  messages.foldl (fun done message => done ++ encodeFrame message) ByteArray.empty

/-- The message in the body of a frame, if the body is JSON. -/
def bodyMessage? (body : ByteArray) : Option Value :=
  (characters? body).bind fun s => (Value.ofText s).toOption

end BlockDiscovery.Framing
