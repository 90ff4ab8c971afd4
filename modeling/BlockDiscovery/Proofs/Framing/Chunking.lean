import Mathlib
import BlockDiscovery.Proofs.Framing.Buffer

/-! # Feeding in pieces

A stream reaches the decoder in chunks that may be cut anywhere.  As long as no feed
fails, the cuts leave no trace: the messages, the number of dropped frames and the bytes
held at the end are those of one feed of the whole.

The decoder between two feeds holds no complete frame (`Drained`), which is what lets
the empty list of chunks agree with the feed of no bytes.
-/

namespace BlockDiscovery.Framing

open BlockDiscovery BlockDiscovery.Json

/-- The bytes of chunks put together. -/
def joined (chunks : List ByteArray) : ByteArray :=
  ⟨(chunks.flatMap fun c => c.data.toList).toArray⟩

@[simp] theorem joined_toList (chunks : List ByteArray) :
    (joined chunks).data.toList = chunks.flatMap fun c => c.data.toList := by
  simp [joined]

namespace FrameDecoder

/-- The decoders that feeds lead to, failed ones included. -/
inductive Reachable : FrameDecoder → Prop where
  | fresh : Reachable fresh
  | feed {d : FrameDecoder} (bytes : ByteArray) : Reachable d → Reachable (d.feed bytes).2

/-- Feeding chunks one after another without a failure: the messages of each feed and
the decoder at the end. -/
inductive Feeds : FrameDecoder → List ByteArray → List (List Value) → FrameDecoder → Prop where
  | nil {d : FrameDecoder} : Feeds d [] [] d
  | cons {d e f : FrameDecoder} {bytes : ByteArray} {chunks : List ByteArray}
      {messages : List Value} {more : List (List Value)} :
      d.feed bytes = (.ok messages, e) → Feeds e chunks more f →
      Feeds d (bytes :: chunks) (messages :: more) f

/-- No frame can be taken from what the decoder holds. -/
def Drained (d : FrameDecoder) : Prop := lead d.bytes = .incomplete

theorem ext_bytes {d e : FrameDecoder} (bytes : d.bytes = e.bytes) (dropped : d.dropped = e.dropped) :
    d = e := by
  obtain ⟨⟨⟨_⟩⟩, _⟩ := d
  obtain ⟨⟨⟨_⟩⟩, _⟩ := e
  simp only [FrameDecoder.bytes] at bytes
  subst bytes
  subst dropped
  rfl

theorem feed_ok_iff {d e : FrameDecoder} {bytes : ByteArray} {messages : List Value} :
    d.feed bytes = (.ok messages, e) ↔
      ∃ k, takeAll (d.bytes ++ bytes.data.toList) = ⟨messages, k, .waiting e.bytes⟩ ∧
        e.dropped = d.dropped + k := by
  rw [feed_eq]
  generalize takeAll (d.bytes ++ bytes.data.toList) = taken
  obtain ⟨taken, k, ending⟩ := taken
  cases ending with
  | broken error => simp [Taken.outcome]
  | waiting rest =>
    simp only [Taken.outcome, List.nil_append, Prod.mk.injEq, Except.ok.injEq, Taken.mk.injEq,
      Ending.waiting.injEq]
    constructor
    · rintro ⟨rfl, rfl⟩
      exact ⟨k, ⟨rfl, rfl, rfl⟩, rfl⟩
    · rintro ⟨_, ⟨rfl, rfl, rfl⟩, dropped⟩
      exact ⟨rfl, ext_bytes rfl dropped.symm⟩

theorem drained_of_feed {d e : FrameDecoder} {bytes : ByteArray} {messages : List Value}
    (h : d.feed bytes = (.ok messages, e)) : e.Drained := by
  obtain ⟨k, taken, _⟩ := feed_ok_iff.mp h
  exact takeAll_rest (s := d.bytes ++ bytes.data.toList) (by rw [taken])

theorem Reachable.drained {d : FrameDecoder} (h : Reachable d) : d.Drained := by
  cases h with
  | fresh => rfl
  | @feed d bytes _ =>
    rcases outcome : d.feed bytes with ⟨result, e⟩
    cases result with
    | ok messages => exact drained_of_feed outcome
    | error error =>
      -- a failure empties the buffer
      rw [feed_eq] at outcome
      unfold Taken.outcome at outcome
      split at outcome
      · simp at outcome
      · obtain ⟨_, rfl⟩ := Prod.mk.inj outcome
        rfl

theorem Feeds.takeAll_joined {d e : FrameDecoder} {chunks : List ByteArray}
    {messages : List (List Value)} (h : Feeds d chunks messages e) (drained : d.Drained) :
    ∃ k, takeAll (d.bytes ++ (joined chunks).data.toList) =
        ⟨messages.flatten, k, .waiting e.bytes⟩ ∧ e.dropped = d.dropped + k := by
  induction h with
  | nil =>
    -- here alone it matters that `d` is drained: no feed has looked at what it holds
    refine ⟨0, ?_, rfl⟩
    simpa using takeAll_incomplete drained
  | @cons d e f bytes chunks messages more fed _ ih =>
    obtain ⟨k, taken, dropped⟩ := feed_ok_iff.mp fed
    obtain ⟨l, later, droppedLater⟩ := ih (drained_of_feed fed)
    refine ⟨k + l, ?_, by omega⟩
    have whole := takeAll_append (joined chunks).data.toList
      (show (takeAll (d.bytes ++ bytes.data.toList)).ending = .waiting e.bytes by rw [taken])
    rw [taken, later, List.append_assoc] at whole
    simpa [Taken.after] using whole

/-- Chunks fed one after another without a failure have the outcome of one feed of all
their bytes: the same messages in the same order, as many dropped frames and the same
bytes held. -/
theorem feed_joined {d e : FrameDecoder} {chunks : List ByteArray} {messages : List (List Value)}
    (reachable : Reachable d) (h : Feeds d chunks messages e) :
    d.feed (joined chunks) = (.ok messages.flatten, e) :=
  feed_ok_iff.mpr (h.takeAll_joined reachable.drained)

/-- Chunks can be fed without a failure when no start of their bytes breaks the stream. -/
theorem feeds_of_unbroken {d : FrameDecoder} {chunks : List ByteArray}
    (unbroken : ∀ start missing, start ++ missing = (joined chunks).data.toList →
      ∃ rest, (takeAll (d.bytes ++ start)).ending = .waiting rest) :
    ∃ messages e, Feeds d chunks messages e := by
  induction chunks generalizing d with
  | nil => exact ⟨[], d, .nil⟩
  | cons bytes chunks ih =>
    obtain ⟨rest, waits⟩ := unbroken bytes.data.toList (joined chunks).data.toList (by simp)
    rcases taken : takeAll (d.bytes ++ bytes.data.toList) with ⟨messages, k, ending⟩
    obtain rfl : ending = .waiting rest := by rw [taken] at waits; exact waits
    have fed : d.feed bytes = (.ok messages, ⟨⟨rest.toArray⟩, d.dropped + k⟩) :=
      feed_ok_iff.mpr ⟨k, taken, rfl⟩
    obtain ⟨more, e, later⟩ := ih (d := ⟨⟨rest.toArray⟩, d.dropped + k⟩) (by
      intro start missing split
      obtain ⟨left, waitsLater⟩ := unbroken (bytes.data.toList ++ start) missing (by
        rw [List.append_assoc, split]
        simp)
      rw [← List.append_assoc, takeAll_append start waits] at waitsLater
      exact ⟨left, waitsLater⟩)
    exact ⟨messages :: more, e, .cons fed later⟩

/-- Feeding does not depend on how a stream is cut.  Chunks fed to a decoder one after
another without a failure have the outcome of one feed of all their bytes: the same
messages in the same order, as many dropped frames and the same bytes held.  Two ways
of cutting the same bytes that both meet no failure therefore agree. -/
theorem feeds_confluent {d : FrameDecoder} (reachable : Reachable d) :
    (∀ {chunks : List ByteArray} {messages : List (List Value)} {e : FrameDecoder},
      Feeds d chunks messages e → d.feed (joined chunks) = (.ok messages.flatten, e)) ∧
    (∀ {chunks chunks' : List ByteArray} {messages messages' : List (List Value)}
      {e e' : FrameDecoder}, joined chunks = joined chunks' → Feeds d chunks messages e →
      Feeds d chunks' messages' e' → messages.flatten = messages'.flatten ∧ e = e') := by
  refine ⟨feed_joined reachable, ?_⟩
  intro chunks chunks' messages messages' e e' same first second
  have outcomes := (feed_joined reachable first).symm.trans
    ((congrArg d.feed same).trans (feed_joined reachable second))
  simpa using outcomes

/-- A frame cut inside its body, with an empty header block behind it. -/
theorem feeds_confluent_split_body :
    Reachable fresh ∧
    Feeds fresh ["Content-Length: 2\r\n\r\n\x7b".toUTF8, "\x7d\r\n\r\n".toUTF8]
      [[], [.object []]] ⟨ByteArray.empty, 1⟩ ∧
    fresh.feed (joined ["Content-Length: 2\r\n\r\n\x7b".toUTF8, "\x7d\r\n\r\n".toUTF8]) =
      (.ok [.object []], ⟨ByteArray.empty, 1⟩) := by
  have first : fresh.feed "Content-Length: 2\r\n\r\n\x7b".toUTF8 =
      (.ok [], ⟨"Content-Length: 2\r\n\r\n\x7b".toUTF8, 0⟩) := by cbv
  have second : feed ⟨"Content-Length: 2\r\n\r\n\x7b".toUTF8, 0⟩ "\x7d\r\n\r\n".toUTF8 =
      (.ok [.object []], ⟨ByteArray.empty, 1⟩) := by cbv
  have fed := Feeds.cons first (.cons second .nil)
  exact ⟨.fresh, fed, (feeds_confluent .fresh).1 fed⟩

end FrameDecoder

end BlockDiscovery.Framing
