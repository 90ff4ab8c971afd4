import BlockDiscovery.Framing.Frame

/-!
# The incremental frame decoder

`FrameDecoder.feed` appends bytes to what is buffered and takes every complete frame
out.  A frame without a usable length or without a JSON body is dropped on its own.
Two things end a stream: a header block that goes on past its limit, and a length
beyond the limit of a body.  Then the buffer is emptied, and the messages of that
feed are lost with it.
-/

namespace BlockDiscovery.Framing

open BlockDiscovery BlockDiscovery.Json

/-- The largest body in bytes. -/
def maxBody : Nat := 4 * 1024 * 1024

/-- How many bytes may be buffered without the end of a header block. -/
def maxHeader : Nat := 8 * 1024

/-- Why a stream cannot be read on. -/
inductive FramingError where
  | headerTooLarge (limit : Nat)
  | frameTooLarge (length limit : Nat)
  deriving Repr, DecidableEq

def FramingError.message : FramingError → List Char
  | .headerTooLarge limit =>
    "no header terminator within ".toList ++ Text.decimal limit ++ " bytes".toList
  | .frameTooLarge length limit =>
    "Content-Length ".toList ++ Text.decimal length ++ " exceeds maximum ".toList ++ Text.decimal limit

/-! ## One frame -/

/-- Whether the empty line that ends a header block starts at an index. -/
def endsHeaderAt (b : ByteArray) (i : Nat) : Bool :=
  if h : i + 3 < b.size then
    b[i] == 13 && b[i + 1] == 10 && b[i + 2] == 13 && b[i + 3] == 10
  else false

/-- The first index from `i` on at which a header block ends; `fuel` bounds how many
indices are tried. -/
def headerEnd? (b : ByteArray) : Nat → Nat → Option Nat
  | 0, _ => none
  | fuel + 1, i =>
    if endsHeaderAt b i then some i
    else if i + 4 ≤ b.size then headerEnd? b fuel (i + 1)
    else none

/-- What the bytes from an index on begin with. -/
inductive Step where
  /-- A frame with a message; the next one starts at `next`. -/
  | message (value : Value) (next : Nat)
  /-- A frame to be dropped. -/
  | skipped (next : Nat)
  /-- The start of a frame. -/
  | incomplete
  | fatal (error : FramingError)
  deriving Inhabited

/-- What the bytes from `start` on begin with. -/
def nextFrame (b : ByteArray) (start : Nat) : Step :=
  match headerEnd? b (b.size - start) start with
  | none =>
    -- only what is not yet a whole header block is measured
    if maxHeader < b.size - start then .fatal (.headerTooLarge maxHeader) else .incomplete
  | some stop =>
    let body := stop + 4
    match bodyLength? (b.extract start stop) with
    | none => .skipped body
    | some length =>
      if maxBody < length then .fatal (.frameTooLarge length maxBody)
      else if b.size < body + length then .incomplete
      else
        match bodyMessage? (b.extract body (body + length)) with
        | some value => .message value (body + length)
        | none => .skipped (body + length)

/-! ## The decoder -/

/-- The bytes that wait for the rest of a frame and the number of frames dropped. -/
structure FrameDecoder where
  buffer : ByteArray
  dropped : Nat

namespace FrameDecoder

def fresh : FrameDecoder := ⟨ByteArray.empty, 0⟩

/-- How many bytes wait. -/
def buffered (d : FrameDecoder) : Nat := d.buffer.size

/-- Take frames from index `start` on; `done` holds the messages so far, last
first, and `fuel` bounds the number of frames. -/
def takeFrames (b : ByteArray) :
    Nat → Nat → List Value → Nat → Except FramingError (List Value) × FrameDecoder
  | 0, start, done, dropped => (.ok done.reverse, ⟨b.extract start b.size, dropped⟩)
  | fuel + 1, start, done, dropped =>
    match nextFrame b start with
    | .message value next => takeFrames b fuel next (value :: done) dropped
    | .skipped next => takeFrames b fuel next done (dropped + 1)
    | .incomplete => (.ok done.reverse, ⟨b.extract start b.size, dropped⟩)
    -- the messages in `done` are given up
    | .fatal error => (.error error, ⟨ByteArray.empty, dropped⟩)

/-- Append bytes and take every complete frame. -/
def feed (d : FrameDecoder) (bytes : ByteArray) : Except FramingError (List Value) × FrameDecoder :=
  let b := d.buffer ++ bytes
  takeFrames b (b.size + 1) 0 [] d.dropped

end FrameDecoder

end BlockDiscovery.Framing
