import BlockDiscovery.Framing.Reader
import BlockDiscovery.Proofs.Framing.Chunking
import BlockDiscovery.Proofs.Framing.Written

/-! # Reading back what was written

Messages written one after another come back in the batches of a reader, however the
reads cut the bytes: batches that are not empty, with the messages in order, and then
the end of the stream, again at every further call.
-/

namespace BlockDiscovery.Framing

open BlockDiscovery BlockDiscovery.Json FrameDecoder

/-- Ask a reader for a batch as often as told: the outcomes, the decoder afterwards and
the reads that are left. -/
def readTimes : Nat → FrameDecoder → List ByteArray → List Batch × FrameDecoder × List ByteArray
  | 0, d, reads => ([], d, reads)
  | n + 1, d, reads =>
    let (batch, d, reads) := readBatch d reads
    let (more, d, reads) := readTimes n d reads
    (batch :: more, d, reads)

theorem readTimes_ended (n : Nat) (d : FrameDecoder) :
    readTimes n d [] = (List.replicate n .ended, d, []) := by
  induction n with
  | zero => rfl
  | succ n ih =>
    simp only [readTimes, readBatch, ih]
    rfl

theorem readTimes_silent {d e : FrameDecoder} {bytes : ByteArray} (n : Nat) (reads : List ByteArray)
    (fed : d.feed bytes = (.ok [], e)) :
    readTimes (n + 1) d (bytes :: reads) = readTimes (n + 1) e reads := by
  simp only [readTimes, readBatch, fed]

theorem readTimes_batch {d e : FrameDecoder} {bytes : ByteArray} {messages : List Value} (n : Nat)
    (reads : List ByteArray) (fed : d.feed bytes = (.ok messages, e)) (some : messages ≠ []) :
    readTimes (n + 1) d (bytes :: reads) =
      (.messages messages :: (readTimes n e reads).1, (readTimes n e reads).2) := by
  cases messages with
  | nil => exact absurd rfl some
  | cons v messages => simp only [readTimes, readBatch, fed]

/-- The batches of a stream that never fails are the messages of the feeds that complete
any, and then the stream has ended. -/
theorem readTimes_feeds {d e : FrameDecoder} {reads : List ByteArray} {messages : List (List Value)}
    (h : Feeds d reads messages e) (n : Nat) :
    readTimes ((messages.filter (· ≠ [])).length + (n + 1)) d reads =
      ((messages.filter (· ≠ [])).map .messages ++ List.replicate (n + 1) .ended, e, []) := by
  induction h with
  | nil => simpa using readTimes_ended (n + 1) _
  | @cons d e f bytes chunks messages more fed _ ih =>
    by_cases silent : messages = []
    · subst silent
      rw [List.filter_cons_of_neg (by simp), ← ih]
      exact readTimes_silent _ chunks fed
    · rw [List.filter_cons_of_pos (by simpa using silent), List.length_cons, Nat.add_right_comm,
        readTimes_batch _ chunks fed silent, ih]
      rfl

/-- Messages that one frame each can carry, written one after another, are read back
however the bytes are cut into reads: the batches are not empty, put together they are
the messages in order, and after them the stream has ended.  The reader is then as at
the start, with nothing buffered and nothing dropped. -/
theorem read_written_frames {messages : List Value} (carried : ∀ v ∈ messages, Carried v)
    {reads : List ByteArray} (cut : joined reads = encodeFrames messages) :
    ∃ batches : List (List Value), (∀ batch ∈ batches, batch ≠ []) ∧ batches.flatten = messages ∧
      ∀ n, readTimes (batches.length + (n + 1)) fresh reads =
        (batches.map .messages ++ List.replicate (n + 1) .ended, fresh, []) := by
  have stream : (joined reads).data.toList = framesBytes messages := by
    rw [cut, encodeFrames_toList]
  have unbroken : ∀ start missing, start ++ missing = (joined reads).data.toList →
      ∃ rest, (takeAll (fresh.bytes ++ start)).ending = .waiting rest := by
    intro start missing split
    rw [stream] at split
    exact takeAll_frames_start carried split
  obtain ⟨fed, e, feeds⟩ := feeds_of_unbroken unbroken
  obtain ⟨k, taken, dropped⟩ := feeds.takeAll_joined rfl
  rw [stream] at taken
  have all := (takeAll_frames carried).symm.trans taken
  simp only [Taken.mk.injEq, Ending.waiting.injEq] at all
  obtain ⟨order, nothing, rest⟩ := all
  obtain rfl : e = fresh := ext_bytes rest.symm (by rw [dropped, ← nothing]; rfl)
  refine ⟨fed.filter (· ≠ []), ?_, ?_, readTimes_feeds feeds⟩
  · intro batch member
    simpa using (List.mem_filter.mp member).2
  · rw [List.flatten_filter_ne_nil, ← order]

/-- Two frames in two reads, the second cut inside a character of its body. -/
theorem read_written_frames_split_character :
    (∀ v ∈ [.int 7, .string "é\r\n\r\n"], Carried v) ∧
    joined ["Content-Length: 1\r\n\r\n7Content-Length: 12\r\n\r\n\"".toUTF8 ++ ⟨#[0xC3]⟩,
      ⟨#[0xA9]⟩ ++ "\\r\\n\\r\\n\"".toUTF8] = encodeFrames [.int 7, .string "é\r\n\r\n"] ∧
    ∃ batches : List (List Value), (∀ batch ∈ batches, batch ≠ []) ∧
      batches.flatten = [.int 7, .string "é\r\n\r\n"] ∧
      ∀ n, readTimes (batches.length + (n + 1)) fresh
        ["Content-Length: 1\r\n\r\n7Content-Length: 12\r\n\r\n\"".toUTF8 ++ ⟨#[0xC3]⟩,
          ⟨#[0xA9]⟩ ++ "\\r\\n\\r\\n\"".toUTF8] =
        (batches.map .messages ++ List.replicate (n + 1) .ended, fresh, []) := by
  have carried : ∀ v ∈ [.int 7, .string "é\r\n\r\n"], Carried v := by
    intro v member
    obtain rfl | rfl := List.mem_pair.mp member
    · exact ⟨⟨by decide, by decide⟩, trivial, by decide, by decide⟩
    · exact ⟨trivial, trivial, by decide, by decide⟩
  have cut : joined ["Content-Length: 1\r\n\r\n7Content-Length: 12\r\n\r\n\"".toUTF8 ++ ⟨#[0xC3]⟩,
      ⟨#[0xA9]⟩ ++ "\\r\\n\\r\\n\"".toUTF8] = encodeFrames [.int 7, .string "é\r\n\r\n"] := by
    cbv
  exact ⟨carried, cut, read_written_frames carried cut⟩

end BlockDiscovery.Framing
