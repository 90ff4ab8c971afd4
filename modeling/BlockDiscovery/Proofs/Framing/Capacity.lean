import BlockDiscovery.Framing.Reader
import BlockDiscovery.Proofs.Framing.Batches
import BlockDiscovery.Proofs.Framing.Broken

/-! # How much a decoder holds

The decoder has two limits and checks each in one situation only: the limit of a header block
while the block has no end, and the limit of a body once it has one.  What bounds the buffer is
that a read is short.  A header block whose end is found late was within its limit before the
last read, so it is longer than that limit by less than one read (`Held`).

Failures do not matter here, since the decoder goes on from an empty buffer.
-/

namespace BlockDiscovery.Framing

open BlockDiscovery BlockDiscovery.Json

/-! ## What waits -/

theorem takeAll_suffix {s rest : List UInt8} (h : (takeAll s).ending = .waiting rest) : rest <:+ s := by
  induction s using frame_induction with
  | frame s behind complete ih =>
    apply List.IsSuffix.trans _ (lead_rest complete).1
    apply ih
    cases front : lead s with
    | message value inner =>
      obtain rfl := by simpa [front, Lead.rest?] using complete
      rwa [takeAll_message front] at h
    | skipped inner =>
      obtain rfl := by simpa [front, Lead.rest?] using complete
      rwa [takeAll_skipped front] at h
    | incomplete => simp [front, Lead.rest?] at complete
    | fatal error => simp [front, Lead.rest?] at complete
  | stop s none =>
    cases front : lead s with
    | message value inner => simp [front, Lead.rest?] at none
    | skipped inner => simp [front, Lead.rest?] at none
    | incomplete =>
      obtain rfl : s = rest := by simpa [takeAll_incomplete front] using h
      exact List.suffix_rfl
    | fatal error => simp [takeAll_fatal front] at h

/-- The first frame to be complete with new bytes ends inside them. -/
theorem rest_suffix_of_incomplete {s more behind : List UInt8} (waits : lead s = .incomplete)
    (complete : (lead (s ++ more)).rest? = some behind) : behind <:+ more := by
  have inside := (lead_rest complete).1
  apply List.suffix_of_suffix_length_le inside (List.suffix_append s more)
  by_contra longer
  obtain ⟨front, whole, frame⟩ := lead_front complete
  have lengths := congrArg List.length whole
  simp only [List.length_append] at lengths
  obtain ⟨tail, rfl⟩ : front <+: s :=
    List.prefix_of_prefix_length_le ⟨behind, whole.symm⟩ (List.prefix_append s more) (by omega)
  have early := lead_append_rest tail frame
  simp [waits, Lead.rest?] at early

/-- What waits behind new bytes is everything that was held with them, or an end of them. -/
theorem waiting_of_append {s more rest : List UInt8} (waits : lead s = .incomplete)
    (h : (takeAll (s ++ more)).ending = .waiting rest) : rest = s ++ more ∨ rest <:+ more := by
  cases front : lead (s ++ more) with
  | message value behind =>
    rw [takeAll_message front] at h
    right
    exact (takeAll_suffix h).trans (rest_suffix_of_incomplete waits (by rw [front]; rfl))
  | skipped behind =>
    rw [takeAll_skipped front] at h
    right
    exact (takeAll_suffix h).trans (rest_suffix_of_incomplete waits (by rw [front]; rfl))
  | incomplete =>
    left
    simpa [takeAll_incomplete front, eq_comm] using h
  | fatal error => simp [takeAll_fatal front] at h

theorem length_of_unended {s : List UInt8} (waits : lead s = .incomplete)
    (unended : cutHeader? s = none) : s.length ≤ maxHeader := by
  rw [lead, unended] at waits
  by_contra long
  simp [show maxHeader < s.length by omega] at waits

theorem length_of_body {s header behind : List UInt8} (waits : lead s = .incomplete)
    (cut : cutHeader? s = some (header, behind)) : behind.length < maxBody := by
  simp only [lead, cut] at waits
  cases announced : bodyLength? ⟨header.toArray⟩ with
  | none => simp [announced] at waits
  | some length =>
    simp only [announced] at waits
    by_cases large : maxBody < length
    · simp [large] at waits
    by_cases short : behind.length < length
    · omega
    · simp only [large, short, if_false] at waits
      split at waits <;> simp at waits

theorem length_of_cut {s header behind : List UInt8} (cut : cutHeader? s = some (header, behind)) :
    s.length = header.length + 4 + behind.length := by
  have lengths := congrArg List.length (cutHeader?_eq cut)
  simpa [terminator, Nat.add_assoc, Nat.add_comm 4] using lengths

/-- Bytes that wait for the rest of a frame when no more than `limit` of them come at a time. -/
structure Held (limit : Nat) (s : List UInt8) : Prop where
  waits : lead s = .incomplete
  header : ∀ header behind, cutHeader? s = some (header, behind) → header.length + 4 ≤ maxHeader + limit

namespace Held

variable {limit : Nat} {s more rest : List UInt8}

theorem nil (limit : Nat) : Held limit [] where
  waits := rfl
  header := by simp [cutHeader?]

theorem length_lt (h : Held limit s) : s.length < maxBody + maxHeader + limit := by
  cases cut : cutHeader? s with
  | none =>
    have short := length_of_unended h.waits cut
    simp only [maxBody]
    omega
  | some pair =>
    have block := h.header _ _ cut
    have body := length_of_body h.waits cut
    have lengths := length_of_cut cut
    omega

theorem append (h : Held limit s) (short : more.length ≤ limit)
    (taken : (takeAll (s ++ more)).ending = .waiting rest) : Held limit rest := by
  refine ⟨takeAll_rest taken, fun header behind cut => ?_⟩
  have lengths := length_of_cut cut
  obtain rfl | inside := waiting_of_append h.waits taken
  · cases before : cutHeader? s with
    | some pair =>
      have same := cutHeader?_append more before
      obtain ⟨rfl, -⟩ : header = pair.1 ∧ behind = _ := by simpa [cut] using same
      exact h.header _ _ before
    | none =>
      have unended := length_of_unended h.waits before
      simp only [List.length_append] at lengths
      omega
  · have bound := inside.length_le
    omega

end Held

/-! ## Decoders between reads -/

namespace FrameDecoder

/-- The decoders that feeds of at most `limit` bytes lead to, failed ones included. -/
inductive Paced (limit : Nat) : FrameDecoder → Prop where
  | fresh : Paced limit fresh
  | feed {d : FrameDecoder} {bytes : ByteArray} :
      Paced limit d → bytes.size ≤ limit → Paced limit (d.feed bytes).2

variable {limit : Nat} {d : FrameDecoder}

theorem Paced.held (h : Paced limit d) : Held limit d.bytes := by
  induction h with
  | fresh => exact Held.nil limit
  | @feed d bytes _ short ih =>
    rw [feed_eq]
    unfold Taken.outcome
    split
    next rest taken => exact ih.append (by simpa using short) taken
    next => exact Held.nil limit

theorem Drained.feed_empty (h : d.Drained) : d.feed ByteArray.empty = (.ok [], d) := by
  rw [feed_ok_iff]
  refine ⟨0, ?_, rfl⟩
  simpa using takeAll_incomplete h

theorem Drained.nextFrame (h : d.Drained) : nextFrame d.buffer 0 = .incomplete := by
  rw [nextFrame_eq (Nat.zero_le _), bytesFrom, List.drop_zero]
  change (lead d.bytes).toStep d.buffer.size = .incomplete
  rw [h]
  rfl

theorem Paced.drained (h : Paced limit d) : d.Drained := h.held.waits

theorem Paced.buffered_lt (h : Paced limit d) : d.buffered < maxBody + maxHeader + limit := by
  have size : d.bytes.length = d.buffered := by simp [bytes, buffered]
  exact size ▸ h.held.length_lt

/-- A decoder that is fed no more than a read at a time stays small, whatever the bytes are and
however many feeds failed: it holds less than the largest body and two reads.  Nothing that it
holds can be decided yet, so that feeding it nothing changes nothing. -/
theorem buffered_lt_of_paced (h : Paced maxRead d) :
    d.buffered < maxBody + 2 * maxRead ∧
    Framing.nextFrame d.buffer 0 = .incomplete ∧
    d.feed ByteArray.empty = (.ok [], d) := by
  refine ⟨?_, h.drained.nextFrame, h.drained.feed_empty⟩
  have bound := h.buffered_lt
  have limits : maxHeader = maxRead := rfl
  omega

/-- A length that is beyond the limit, and after it the start of a frame. -/
theorem buffered_lt_of_paced_after_failure :
    let d : FrameDecoder := ⟨"Content-Length: 2\r\n\r\n\x7b".toUTF8, 1⟩
    fresh.feed "Content-Length: 4194305\r\n\r\n".toUTF8 = (.error (.frameTooLarge 4194305 4194304), fresh) ∧
    fresh.feed "\r\n\r\nContent-Length: 2\r\n\r\n\x7b".toUTF8 = (.ok [], d) ∧
    d.buffered < maxBody + 2 * maxRead ∧
    Framing.nextFrame d.buffer 0 = .incomplete ∧ d.feed ByteArray.empty = (.ok [], d) := by
  intro d
  have failed : fresh.feed "Content-Length: 4194305\r\n\r\n".toUTF8 =
      (.error (.frameTooLarge 4194305 4194304), fresh) := by cbv
  have fed : fresh.feed "\r\n\r\nContent-Length: 2\r\n\r\n\x7b".toUTF8 =
      (.ok [], ⟨"Content-Length: 2\r\n\r\n\x7b".toUTF8, 1⟩) := by cbv
  have recovered : Paced maxRead (fresh.feed "Content-Length: 4194305\r\n\r\n".toUTF8).2 :=
    .feed .fresh (by cbv)
  rw [failed] at recovered
  have paced := recovered.feed
    (show "\r\n\r\nContent-Length: 2\r\n\r\n\x7b".toUTF8.size ≤ maxRead by cbv)
  rw [fed] at paced
  exact ⟨failed, fed, buffered_lt_of_paced paced⟩

/-! ## The reader of a stream -/

theorem size_le_of_mem_cutReads {bytes read : ByteArray} {fuel start : Nat}
    (h : read ∈ cutReads bytes fuel start) : read.size ≤ maxRead := by
  induction fuel generalizing start with
  | zero => simp [cutReads] at h
  | succ fuel ih =>
    rw [cutReads] at h
    split at h
    · obtain rfl | later := List.mem_cons.mp h
      · rw [ByteArray.size_extract]
        omega
      · exact ih later
    · simp at h

theorem size_le_of_mem_readsOf {chunks : List ByteArray} {read : ByteArray} (h : read ∈ readsOf chunks) :
    read.size ≤ maxRead := by
  obtain ⟨written, _, inside⟩ := List.mem_flatMap.mp h
  exact size_le_of_mem_cutReads inside

/-- The reader of a stream feeds its decoder within the pace, and leaves reads of the stream. -/
theorem Paced.readBatch {reads : List ByteArray} (h : Paced limit d)
    (short : ∀ bytes ∈ reads, bytes.size ≤ limit) :
    Paced limit (readBatch d reads).2.1 ∧ ∀ bytes ∈ (readBatch d reads).2.2, bytes.size ≤ limit := by
  induction reads generalizing d with
  | nil => exact ⟨h, short⟩
  | cons bytes reads ih =>
    obtain ⟨now, later⟩ := List.forall_mem_cons.mp short
    have fed := Paced.feed h now
    rw [Framing.readBatch]
    split
    next outcome => rw [outcome] at fed; exact ⟨fed, later⟩
    next outcome => rw [outcome] at fed; exact ih fed later
    next outcome => rw [outcome] at fed; exact ⟨fed, later⟩

theorem Paced.readTimes {reads : List ByteArray} (h : Paced limit d) (short : ∀ bytes ∈ reads, bytes.size ≤ limit)
    (n : Nat) : Paced limit (readTimes n d reads).2.1 := by
  induction n generalizing d reads with
  | zero => exact h
  | succ n ih =>
    obtain ⟨next, left⟩ := h.readBatch short
    exact ih next left

/-- However often a reader is asked for a batch, whatever the chunks are that were written to its
stream and however many batches failed, its decoder holds less than the largest body, the largest
header block and one read, and nothing that can be decided yet. -/
theorem buffered_lt_of_reading (chunks : List ByteArray) (n : Nat) :
    let d := (readTimes n fresh (readsOf chunks)).2.1
    d.buffered < maxBody + maxHeader + maxRead ∧ Framing.nextFrame d.buffer 0 = .incomplete := by
  intro d
  have paced : Paced maxRead d :=
    Paced.fresh.readTimes (fun _ member => size_le_of_mem_readsOf member) n
  exact ⟨paced.buffered_lt, paced.drained.nextFrame⟩

end FrameDecoder

end BlockDiscovery.Framing
