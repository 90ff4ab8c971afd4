import BlockDiscovery.Framing.Decoder

/-!
# Reading batches of messages

A stream is what the reads of it return, in order.  `readBatch` reads until at least
one message is there, the stream ends, or a framing error occurs.
-/

namespace BlockDiscovery.Framing

open BlockDiscovery BlockDiscovery.Json

/-- The most bytes that one read returns. -/
def maxRead : Nat := 8 * 1024

/-- The reads that return `bytes`: none of them empty, none longer than `maxRead`.
`fuel` bounds their number. -/
def cutReads (bytes : ByteArray) : Nat → Nat → List ByteArray
  | 0, _ => []
  | fuel + 1, start =>
    if start < bytes.size then
      bytes.extract start (start + maxRead) :: cutReads bytes fuel (start + maxRead)
    else []

/-- The reads of a stream whose writer wrote the given chunks. -/
def readsOf (chunks : List ByteArray) : List ByteArray :=
  chunks.flatMap fun c => cutReads c (c.size + 1) 0

/-- What reading a batch comes to. -/
inductive Batch where
  | messages (values : List Value)
  | failed (error : FramingError)
  | ended
  deriving Inhabited

/-- Read the next batch: its outcome, the decoder after it and the reads left. -/
def readBatch (d : FrameDecoder) : List ByteArray → Batch × FrameDecoder × List ByteArray
  | [] => (.ended, d, [])
  | bytes :: rest =>
    match d.feed bytes with
    | (.error error, d) => (.failed error, d, rest)
    | (.ok [], d) => readBatch d rest
    | (.ok values, d) => (.messages values, d, rest)

/-- Read at most `limit` batches, stopping after the end of the stream. -/
def readBatches : Nat → FrameDecoder → List ByteArray → List Batch
  | 0, _, _ => []
  | limit + 1, d, reads =>
    match readBatch d reads with
    | (.ended, _, _) => [.ended]
    | (batch, d, rest) => batch :: readBatches limit d rest

end BlockDiscovery.Framing
