import BlockDiscovery.Framing.Reader
import BlockDiscovery.Proofs.Framing.Segments
import BlockDiscovery.Proofs.Framing.Chunking

/-! # Streams that break

A framing error ends a stream, and the read that meets it delivers nothing: the messages
of frames that were complete in that read are lost with it.  What comes through of a
broken stream is therefore decided by the cut (`failing_read_loses_its_messages`).

Where the stream breaks depends on the cut as well.  The limit of a header block is only looked
at while the block has no end, so a block beyond the limit passes when its end arrives in time.
Streams whose header blocks all fit the limit break in one place, however they are cut
(`error_of_cut`).
-/

namespace BlockDiscovery.Framing

open BlockDiscovery BlockDiscovery.Json

/-! ## Where bytes break -/

/-- The error at which a stream of these bytes ends, if it does. -/
def breach? (s : List UInt8) : Option FramingError :=
  match (takeAll s).ending with
  | .waiting _ => none
  | .broken error => some error

theorem breach?_eq_none {s rest : List UInt8} (h : (takeAll s).ending = .waiting rest) :
    breach? s = none := by
  rw [breach?, h]

theorem breach?_append {s rest : List UInt8} (more : List UInt8)
    (h : (takeAll s).ending = .waiting rest) : breach? (s ++ more) = breach? (rest ++ more) := by
  rw [breach?, takeAll_append more h]
  rfl

theorem breach?_rest {s rest : List UInt8} (h : (lead s).rest? = some rest) :
    breach? s = breach? rest := by
  unfold breach?
  cases front : lead s with
  | message value behind =>
    obtain rfl := by simpa [front, Lead.rest?] using h
    rw [takeAll_message front]
    rfl
  | skipped behind =>
    obtain rfl := by simpa [front, Lead.rest?] using h
    rw [takeAll_skipped front]
    rfl
  | incomplete => simp [front, Lead.rest?] at h
  | fatal error => simp [front, Lead.rest?] at h

theorem breach?_stop {s : List UInt8} (h : (lead s).rest? = none) :
    breach? s = none ∨ ∃ error, lead s = .fatal error ∧ breach? s = some error := by
  unfold breach?
  cases front : lead s with
  | message value rest => simp [front, Lead.rest?] at h
  | skipped rest => simp [front, Lead.rest?] at h
  | incomplete =>
    rw [takeAll_incomplete front]
    exact .inl rfl
  | fatal error =>
    rw [takeAll_fatal front]
    exact .inr ⟨error, rfl, rfl⟩

theorem breach?_fatal {s : List UInt8} {error : FramingError} (h : lead s = .fatal error) :
    breach? s = some error := by
  rw [breach?, takeAll_fatal h]

theorem rest?_extend (more : List UInt8) (l : Lead) :
    (l.extend more).rest? = l.rest?.map (· ++ more) := by
  cases l <;> rfl

theorem lead_append_rest {s rest : List UInt8} (more : List UInt8) (h : (lead s).rest? = some rest) :
    (lead (s ++ more)).rest? = some (rest ++ more) := by
  rw [lead_append more h, rest?_extend, h]
  rfl

/-- Induction on the frames at the front of some bytes. -/
theorem frame_induction {motive : List UInt8 → Prop}
    (frame : ∀ s rest, (lead s).rest? = some rest → motive rest → motive s)
    (stop : ∀ s, (lead s).rest? = none → motive s) (s : List UInt8) : motive s := by
  cases complete : (lead s).rest? with
  | none => exact stop s complete
  | some rest =>
    have shorter := (lead_rest complete).2
    exact frame s rest complete (frame_induction frame stop rest)
termination_by s.length

/-! ## Header blocks and the limit -/

/-- Where frames start on a stream: at its front and behind every complete frame. -/
inductive StartsIn : List UInt8 → List UInt8 → Prop
  | front (s : List UInt8) : StartsIn s s
  | behind {s rest inner : List UInt8} (complete : (lead s).rest? = some rest)
      (later : StartsIn rest inner) : StartsIn s inner

/-- Every header block of a stream ends so early that no more than the limit of its bytes can
be held without the end. -/
def HeadersFit (s : List UInt8) : Prop :=
  ∀ inner, StartsIn s inner → ∀ header behind, cutHeader? inner = some (header, behind) →
    header.length + 3 ≤ maxHeader

theorem HeadersFit.rest {s rest : List UInt8} (fits : HeadersFit s) (h : (lead s).rest? = some rest) :
    HeadersFit rest :=
  fun inner starts => fits inner (.behind h starts)

theorem StartsIn.length_le {s inner : List UInt8} (h : StartsIn s inner) : inner.length ≤ s.length := by
  induction h with
  | front s => exact Nat.le_refl _
  | behind complete _ ih =>
    have shorter := (lead_rest complete).2
    omega

theorem headersFit_of_length_le {s : List UInt8} (short : s.length ≤ maxHeader + 1) : HeadersFit s := by
  intro inner starts header behind cut
  have whole := congrArg List.length (cutHeader?_eq cut)
  have inside := starts.length_le
  simp only [List.length_append, terminator, List.length_cons, List.length_nil] at whole
  omega

theorem cutHeader?_inside (header behind : List UInt8) :
    ∃ pair, cutHeader? (header ++ (terminator ++ behind)) = some pair := by
  induction header with
  | nil => exact ⟨_, cutHeader?_terminator behind⟩
  | cons b header ih =>
    obtain ⟨pair, inner⟩ := ih
    rw [List.cons_append]
    unfold cutHeader?
    split
    · exact ⟨_, rfl⟩
    · exact ⟨_, by rw [inner]; rfl⟩

/-- The end of a header block is seen as soon as its last byte is there. -/
theorem cutHeader?_take {s header behind : List UInt8} (h : cutHeader? s = some (header, behind))
    (n : Nat) : cutHeader? (s.take (header.length + 4 + n)) = some (header, behind.take n) := by
  have start : s.take (header.length + 4 + n) = header ++ (terminator ++ behind.take n) := by
    rw [cutHeader?_eq h, Nat.add_assoc, List.take_append, List.take_append]
    simp [terminator, List.take_of_length_le]
  obtain ⟨⟨first, rest⟩, cut⟩ := cutHeader?_inside header (behind.take n)
  have longer := cutHeader?_append (s.drop (header.length + 4 + n)) (start ▸ cut)
  rw [List.take_append_drop, h] at longer
  obtain ⟨rfl, -⟩ : header = first ∧ behind = _ := by simpa using longer
  have same := cutHeader?_eq cut
  simp only [List.append_cancel_left_eq] at same
  rw [start, cut, same]

theorem cutHeader?_take_short {s header behind : List UInt8} (h : cutHeader? s = some (header, behind)) :
    cutHeader? (s.take (header.length + 3)) = none := by
  cases cut : cutHeader? (s.take (header.length + 3)) with
  | none => rfl
  | some pair =>
    obtain ⟨first, rest⟩ := pair
    have longer := cutHeader?_append (s.drop (header.length + 3)) cut
    rw [List.take_append_drop, h] at longer
    obtain ⟨rfl, -⟩ : header = first ∧ behind = _ := by simpa using longer
    have lengths := congrArg List.length (cutHeader?_eq cut)
    simp only [List.length_take, List.length_append, terminator, List.length_cons, List.length_nil] at lengths
    omega

/-- A complete frame is one without the bytes behind it. -/
theorem lead_front {s rest : List UInt8} (h : (lead s).rest? = some rest) :
    ∃ front, s = front ++ rest ∧ (lead front).rest? = some [] := by
  obtain ⟨header, behind, cut, ⟨announced, rfl⟩ | ⟨length, announced, small, full, rfl⟩⟩ := complete_cases h
  · have whole := cutHeader?_eq cut
    refine ⟨header ++ terminator, by rw [whole, List.append_assoc], ?_⟩
    have front : s.take (header.length + 4 + 0) = header ++ terminator := by
      rw [whole, ← List.append_assoc]
      exact List.take_left' (by simp [terminator])
    rw [lead, ← front, cutHeader?_take cut 0]
    simp [announced, Lead.rest?]
  · have whole := cutHeader?_eq cut
    refine ⟨s.take (header.length + 4 + length), ?_, ?_⟩
    · have after : s.drop (header.length + 4 + length) = behind.drop length := by
        rw [← List.drop_drop, whole, ← List.append_assoc, List.drop_left' (by simp [terminator])]
      rw [← after, List.take_append_drop]
    · have large : ¬ maxBody < length := by omega
      have body : ¬ (behind.take length).length < length := by
        rw [List.length_take]
        omega
      simp only [lead, cutHeader?_take cut length, announced, large, body, if_false]
      split <;> simp [Lead.rest?]

/-! ## A start of a stream and the whole -/

theorem lead_fatal_append {s : List UInt8} {error : FramingError} (more : List UInt8)
    (h : lead s = .fatal error) :
    lead (s ++ more) = .fatal error ∨
      error = .headerTooLarge maxHeader ∧ maxHeader < s.length ∧ cutHeader? s = none := by
  cases cut : cutHeader? s with
  | none =>
    right
    simp only [lead, cut] at h
    split at h
    · next long =>
      obtain rfl := by simpa using h
      exact ⟨rfl, long, rfl⟩
    · simp at h
  | some pair =>
    left
    obtain ⟨header, behind⟩ := pair
    simp only [lead, cut, cutHeader?_append more cut] at h ⊢
    cases announced : bodyLength? ⟨header.toArray⟩ with
    | none => simp [announced] at h
    | some length =>
      simp only [announced] at h ⊢
      by_cases large : maxBody < length
      · simpa [large] using h
      · simp only [large, if_false] at h
        split at h
        · simp at h
        · split at h <;> simp at h

/-- A start that breaks does so in the whole, unless the end of a header block was still to
come. -/
theorem breach?_start {s : List UInt8} {error : FramingError} (more : List UInt8)
    (h : breach? s = some error) :
    breach? (s ++ more) = some error ∨ error = .headerTooLarge maxHeader := by
  induction s using frame_induction with
  | frame s rest complete ih =>
    rw [breach?_rest complete] at h
    rw [breach?_rest (lead_append_rest more complete)]
    exact ih h
  | stop s none =>
    obtain quiet | ⟨inner, fatal, broken⟩ := breach?_stop none
    · cases quiet.symm.trans h
    obtain rfl := Option.some.inj (broken.symm.trans h)
    exact (lead_fatal_append more fatal).imp breach?_fatal And.left

/-- Where header blocks fit, a start that breaks does so in the whole. -/
theorem breach?_start_of_fit {s more : List UInt8} {error : FramingError} (fits : HeadersFit (s ++ more))
    (h : breach? s = some error) : breach? (s ++ more) = some error := by
  induction s using frame_induction with
  | frame s rest complete ih =>
    have longer := lead_append_rest more complete
    rw [breach?_rest complete] at h
    rw [breach?_rest longer]
    exact ih (fits.rest longer) h
  | stop s none =>
    obtain quiet | ⟨inner, fatal, broken⟩ := breach?_stop none
    · cases quiet.symm.trans h
    obtain rfl := Option.some.inj (broken.symm.trans h)
    obtain still | ⟨rfl, long, missing⟩ := lead_fatal_append more fatal
    · exact breach?_fatal still
    cases cut : cutHeader? (s ++ more) with
    | none =>
      apply breach?_fatal
      rw [lead, cut]
      exact if_pos (by rw [List.length_append]; omega)
    | some pair =>
      obtain ⟨header, behind⟩ := pair
      have early := fits _ (.front _) header behind cut
      have seen := cutHeader?_take cut (s.length - (header.length + 4))
      rw [Nat.add_sub_cancel' (by omega), List.take_left' rfl, missing] at seen
      cases seen

/-- Where a header block does not fit, some start of the stream breaks. -/
theorem breach?_of_unfit {s : List UInt8} (unfit : ¬HeadersFit s) :
    ∃ start missing error, s = start ++ missing ∧ breach? start = some error := by
  simp only [HeadersFit, not_forall] at unfit
  obtain ⟨inner, starts, header, behind, cut, long⟩ := unfit
  induction starts with
  | front s =>
    refine ⟨s.take (header.length + 3), s.drop (header.length + 3), .headerTooLarge maxHeader,
      (List.take_append_drop _ _).symm, breach?_fatal ?_⟩
    have lengths := congrArg List.length (cutHeader?_eq cut)
    simp only [List.length_append, terminator, List.length_cons, List.length_nil] at lengths
    rw [lead, cutHeader?_take_short cut]
    refine if_pos ?_
    rw [List.length_take]
    omega
  | @behind s rest inner complete _ ih =>
    obtain ⟨start, missing, error, rfl, broken⟩ := ih cut
    obtain ⟨front, rfl, frame⟩ := lead_front complete
    refine ⟨front ++ start, missing, error, (List.append_assoc _ _ _).symm, ?_⟩
    rw [breach?_rest (lead_append_rest start frame)]
    exact broken

/-! ## Chunk after chunk -/

/-- What feeding chunks comes to, up to the first failure. -/
structure Fed where
  messages : List Value
  error? : Option FramingError
  decoder : FrameDecoder

/-- The chunks that hold one byte each. -/
def singles (bytes : ByteArray) : List ByteArray := bytes.data.toList.map fun b => ⟨#[b]⟩

theorem joined_singles (bytes : ByteArray) : joined (singles bytes) = bytes := by
  apply ByteArray.ext
  apply Array.toList_inj.mp
  simp [singles, List.flatMap_map]

namespace FrameDecoder

/-- Feed chunks one after another as long as none fails. -/
def feedAll (d : FrameDecoder) : List ByteArray → Fed
  | [] => ⟨[], none, d⟩
  | bytes :: chunks =>
    match d.feed bytes with
    | (.error error, e) => ⟨[], some error, e⟩
    | (.ok messages, e) =>
      let later := e.feedAll chunks
      ⟨messages ++ later.messages, later.error?, later.decoder⟩

theorem feedAll_ok {d e : FrameDecoder} {bytes : ByteArray} {messages : List Value}
    (fed : d.feed bytes = (.ok messages, e)) (chunks : List ByteArray) :
    d.feedAll (bytes :: chunks) =
      ⟨messages ++ (e.feedAll chunks).messages, (e.feedAll chunks).error?, (e.feedAll chunks).decoder⟩ := by
  rw [feedAll, fed]

theorem feedAll_error {d e : FrameDecoder} {bytes : ByteArray} {error : FramingError}
    (failed : d.feed bytes = (.error error, e)) (chunks : List ByteArray) :
    d.feedAll (bytes :: chunks) = ⟨[], some error, e⟩ := by
  rw [feedAll, failed]

theorem feed_error_iff {d : FrameDecoder} {bytes : ByteArray} {error : FramingError} :
    (d.feed bytes).1 = .error error ↔ breach? (d.bytes ++ bytes.data.toList) = some error := by
  rw [feed_eq, breach?, Taken.outcome]
  cases (takeAll (d.bytes ++ bytes.data.toList)).ending <;> simp

/-- One feed of two chunks: the messages of the first come through if the second does not
fail. -/
theorem feed_append {d e : FrameDecoder} {a : ByteArray} {messages : List Value}
    (fed : d.feed a = (.ok messages, e)) (b : ByteArray) :
    d.feed (a ++ b) = ((e.feed b).1.map (messages ++ ·), (e.feed b).2) := by
  obtain ⟨k, taken, dropped⟩ := feed_ok_iff.mp fed
  have whole := takeAll_append b.data.toList
    (show (takeAll (d.bytes ++ a.data.toList)).ending = .waiting e.bytes by rw [taken])
  rw [taken] at whole
  rw [feed_eq, feed_eq, ByteArray.data_append, Array.toList_append, ← List.append_assoc, whole,
    Taken.outcome_after, dropped, Taken.outcome, Taken.outcome]
  cases (takeAll (e.bytes ++ b.data.toList)).ending <;> simp [Except.map]

theorem Drained.unbroken {d : FrameDecoder} (drained : d.Drained) : breach? d.bytes = none :=
  breach?_eq_none (congrArg Taken.ending (takeAll_incomplete drained))

/-- The first error is that of the shortest start, among those where a chunk ends, that
breaks. -/
theorem feedAll_error? {d : FrameDecoder} (drained : d.Drained) (chunks : List ByteArray) :
    (d.feedAll chunks).error? =
      chunks.inits.findSome? fun front => breach? (d.bytes ++ (joined front).data.toList) := by
  induction chunks generalizing d with
  | nil =>
    simp [feedAll, drained.unbroken]
  | cons bytes chunks ih =>
    rw [List.inits_cons, List.findSome?_cons, List.findSome?_map]
    simp only [joined_toList, List.flatMap_nil, List.append_nil, drained.unbroken]
    rcases outcome : d.feed bytes with ⟨error | messages, e⟩
    · have broken : breach? (d.bytes ++ bytes.data.toList) = some error :=
        feed_error_iff.mp (congrArg Prod.fst outcome)
      rw [feedAll_error outcome]
      cases chunks <;> simp [broken]
    · rw [feedAll_ok outcome, ih (drained_of_feed outcome)]
      obtain ⟨k, taken, -⟩ := feed_ok_iff.mp outcome
      congr 1
      funext front
      have later := breach?_append (front.flatMap fun c => c.data.toList)
        (show (takeAll (d.bytes ++ bytes.data.toList)).ending = .waiting e.bytes by rw [taken])
      simpa using later.symm

theorem feedAll_feeds (d : FrameDecoder) (chunks : List ByteArray) :
    ∃ front back fed e, chunks = front ++ back ∧ Feeds d front fed e ∧
      (d.feedAll chunks).messages = fed.flatten ∧
      match (d.feedAll chunks).error? with
      | none => back = []
      | some error => ∃ bytes later, back = bytes :: later ∧
        e.feed bytes = (.error error, (d.feedAll chunks).decoder) := by
  induction chunks generalizing d with
  | nil => exact ⟨[], [], [], d, rfl, .nil, rfl, rfl⟩
  | cons bytes chunks ih =>
    rcases outcome : d.feed bytes with ⟨error | messages, e⟩
    · refine ⟨[], bytes :: chunks, [], d, rfl, .nil, ?_⟩
      rw [feedAll_error outcome]
      exact ⟨rfl, bytes, chunks, rfl, outcome⟩
    · obtain ⟨front, back, fed, f, rfl, feeds, all, rest⟩ := ih e
      refine ⟨bytes :: front, back, messages :: fed, f, rfl, .cons outcome feeds, ?_⟩
      rw [feedAll_ok outcome, List.flatten_cons]
      exact ⟨congrArg (messages ++ ·) all, rest⟩

/-- Whatever comes through is from the front of the messages that are complete. -/
theorem Feeds.complete {d e : FrameDecoder} {front : List ByteArray} {fed : List (List Value)}
    (feeds : Feeds d front fed e) (drained : d.Drained) (back : List ByteArray) :
    fed.flatten <+: (takeAll (d.bytes ++ (joined (front ++ back)).data.toList)).messages := by
  obtain ⟨k, taken, -⟩ := feeds.takeAll_joined drained
  have whole := takeAll_append (joined back).data.toList
    (show (takeAll (d.bytes ++ (joined front).data.toList)).ending = .waiting e.bytes by rw [taken])
  rw [taken, List.append_assoc] at whole
  rw [joined_toList, List.flatMap_append, ← joined_toList, ← joined_toList, whole]
  exact List.prefix_append _ _

section Fresh

variable {a b : ByteArray} {messages : List Value} {e : FrameDecoder}

/-- A read that fails takes its messages with it.  Two reads that are put together fail as the
second one does, and then a reader gets the error and none of the messages of the first.
However a stream is cut, what comes through are the messages of the reads before the one
that fails. -/
theorem failing_read_loses_its_messages (fed : fresh.feed a = (.ok messages, e)) :
    fresh.feed (a ++ b) = ((e.feed b).1.map (messages ++ ·), (e.feed b).2) ∧
    messages <+: (takeAll (a ++ b).data.toList).messages ∧
    (∀ error reads, (e.feed b).1 = .error error →
      readBatch fresh ((a ++ b) :: reads) = (.failed error, (e.feed b).2, reads)) ∧
    ∀ chunks, joined chunks = a ++ b →
      (fresh.feedAll chunks).messages <+: (takeAll (a ++ b).data.toList).messages ∧
      ∃ front back d, chunks = front ++ back ∧
        fresh.feed (joined front) = (.ok (fresh.feedAll chunks).messages, d) ∧
        match (fresh.feedAll chunks).error? with
        | none => back = []
        | some error => ∃ bytes later, back = bytes :: later ∧
          d.feed bytes = (.error error, (fresh.feedAll chunks).decoder) := by
  have together := feed_append fed b
  have whole (chunks : List ByteArray) : fresh.bytes ++ (joined chunks).data.toList = (joined chunks).data.toList :=
    List.nil_append _
  refine ⟨together, ?_, fun error reads failed => ?_, fun chunks cut => ?_⟩
  · have pair : joined ([a] ++ [b]) = a ++ b := by
      apply ByteArray.ext
      apply Array.toList_inj.mp
      simp [joined]
    have first := (Feeds.cons fed .nil).complete rfl [b]
    rwa [whole, pair, List.flatten_singleton] at first
  · rw [failed] at together
    simp only [readBatch, together, Except.map]
  · obtain ⟨front, back, delivered, d, rfl, feeds, all, rest⟩ := feedAll_feeds fresh chunks
    have first := feeds.complete rfl back
    rw [whole, cut] at first
    rw [all]
    exact ⟨first, front, back, d, rfl, feed_joined .fresh feeds, rest⟩

/-- A message in one read with a length that is beyond the limit. -/
theorem failing_read_loses_its_messages_oversized :
    fresh.feed "Content-Length: 1\r\n\r\n7".toUTF8 = (.ok [.int 7], fresh) ∧
    fresh.feed ("Content-Length: 1\r\n\r\n7".toUTF8 ++ "Content-Length: 4194305\r\n\r\n".toUTF8) =
      (.error (.frameTooLarge 4194305 4194304), fresh) := by
  have fed : fresh.feed "Content-Length: 1\r\n\r\n7".toUTF8 = (.ok [.int 7], fresh) := by cbv
  have failed : fresh.feed "Content-Length: 4194305\r\n\r\n".toUTF8 =
      (.error (.frameTooLarge 4194305 4194304), fresh) := by cbv
  have together := (failing_read_loses_its_messages (b := "Content-Length: 4194305\r\n\r\n".toUTF8) fed).1
  rw [failed] at together
  exact ⟨fed, together⟩

/-- A message that a reader gets when its frame is read alone, and does not get when a length
that is beyond the limit is read with it. -/
theorem message_lost_to_oversized_length :
    let frame := "Content-Length: 1\r\n\r\n7".toUTF8
    let oversized := "Content-Length: 4194305\r\n\r\n".toUTF8
    readBatches 3 fresh [frame, oversized] =
      [.messages [.int 7], .failed (.frameTooLarge 4194305 4194304), .ended] ∧
    readBatches 3 fresh [frame ++ oversized] = [.failed (.frameTooLarge 4194305 4194304), .ended] := by
  constructor
  · cbv
  · cbv

end Fresh

/-! ## All cuts of one stream -/

section Cuts

variable {stream : ByteArray} {chunks : List ByteArray}

theorem error?_fresh (chunks : List ByteArray) :
    (fresh.feedAll chunks).error? =
      chunks.inits.findSome? fun front => breach? (joined front).data.toList :=
  feedAll_error? (d := fresh) rfl chunks

theorem error?_start {error : FramingError} (h : (fresh.feedAll chunks).error? = some error) :
    ∃ front, front <+: chunks ∧ breach? (joined front).data.toList = some error := by
  rw [error?_fresh] at h
  obtain ⟨front, member, broken⟩ := List.exists_of_findSome?_eq_some h
  exact ⟨front, (List.mem_inits _ _).mp member, broken⟩

theorem error?_of_start {front : List ByteArray} {error : FramingError} (inside : front <+: chunks)
    (broken : breach? (joined front).data.toList = some error) :
    ∃ first, (fresh.feedAll chunks).error? = some first := by
  rw [error?_fresh, ← Option.isSome_iff_exists, List.findSome?_isSome_iff]
  exact ⟨front, (List.mem_inits _ _).mpr inside, Option.isSome_iff_exists.mpr ⟨error, broken⟩⟩

theorem error?_whole (stream : ByteArray) :
    (fresh.feedAll [stream]).error? = breach? stream.data.toList := by
  have quiet : breach? [] = none := Drained.unbroken (d := fresh) rfl
  simp [error?_fresh, quiet]

theorem joined_start {front : List ByteArray} (inside : front <+: chunks) (cut : joined chunks = stream) :
    ∃ more, (joined front).data.toList ++ more = stream.data.toList := by
  obtain ⟨back, rfl⟩ := inside
  exact ⟨(joined back).data.toList, by simp [← cut]⟩

/-- A cut meets the error of the whole, or the limit of a header block. -/
theorem error?_of_cut (cut : joined chunks = stream) :
    (fresh.feedAll chunks).error? = breach? stream.data.toList ∨
      (fresh.feedAll chunks).error? = some (.headerTooLarge maxHeader) := by
  cases met : (fresh.feedAll chunks).error? with
  | some error =>
    obtain ⟨front, inside, broken⟩ := error?_start met
    obtain ⟨more, split⟩ := joined_start inside cut
    obtain whole | rfl := breach?_start more broken
    · rw [split] at whole
      exact .inl whole.symm
    · exact .inr rfl
  | none =>
    left
    cases whole : breach? stream.data.toList with
    | none => rfl
    | some error =>
      obtain ⟨first, broken⟩ := error?_of_start (List.prefix_refl chunks) (cut ▸ whole)
      cases met.symm.trans broken

theorem error?_of_fit (fits : HeadersFit stream.data.toList) (cut : joined chunks = stream) :
    (fresh.feedAll chunks).error? = breach? stream.data.toList := by
  obtain same | met := error?_of_cut cut
  · exact same
  · obtain ⟨front, inside, broken⟩ := error?_start met
    obtain ⟨more, split⟩ := joined_start inside cut
    rw [← split] at fits
    rw [met, ← split, breach?_start_of_fit fits broken]

theorem error?_singles_of_unfit (unfit : ¬HeadersFit stream.data.toList) :
    ∃ error, (fresh.feedAll (singles stream)).error? = some error := by
  obtain ⟨start, missing, error, split, broken⟩ := breach?_of_unfit unfit
  have inside : singles ⟨start.toArray⟩ <+: singles stream := by
    rw [singles, singles, split, List.map_append]
    exact List.prefix_append _ _
  have same : breach? (joined (singles ⟨start.toArray⟩)).data.toList = some error := by
    rw [joined_singles]
    exact broken
  exact error?_of_start inside same

/-- Where a stream breaks.  A cut of the stream meets the error that the whole meets, unless it
meets the limit of a header block before.  When all header blocks fit the limit, that does not
happen and the cut makes no difference.  When one does not fit, feeding byte by byte meets an
error, whether or not the whole does. -/
theorem error_of_cut (stream : ByteArray) :
    (∀ chunks, joined chunks = stream →
      (fresh.feedAll chunks).error? = (fresh.feedAll [stream]).error? ∨
        (fresh.feedAll chunks).error? = some (.headerTooLarge maxHeader)) ∧
    (HeadersFit stream.data.toList → ∀ chunks, joined chunks = stream →
      (fresh.feedAll chunks).error? = (fresh.feedAll [stream]).error?) ∧
    (¬HeadersFit stream.data.toList → joined (singles stream) = stream ∧
      ∃ error, (fresh.feedAll (singles stream)).error? = some error) := by
  rw [error?_whole]
  exact ⟨fun chunks => error?_of_cut, fun fits chunks => error?_of_fit fits,
    fun unfit => ⟨joined_singles stream, error?_singles_of_unfit unfit⟩⟩

/-- A length beyond the limit, cut in the middle. -/
theorem error_of_cut_oversized :
    (fresh.feedAll ["Content-Length: 41943".toUTF8, "05\r\n\r\n".toUTF8]).error? =
      some (.frameTooLarge 4194305 4194304) := by
  have fits : HeadersFit "Content-Length: 4194305\r\n\r\n".toUTF8.data.toList :=
    headersFit_of_length_le (by decide)
  have cut : joined ["Content-Length: 41943".toUTF8, "05\r\n\r\n".toUTF8] =
      "Content-Length: 4194305\r\n\r\n".toUTF8 := by cbv
  have whole : (fresh.feedAll ["Content-Length: 4194305\r\n\r\n".toUTF8]).error? =
      some (.frameTooLarge 4194305 4194304) := by cbv
  exact ((error_of_cut _).2.1 fits _ cut).trans whole

/-- A header block of 8190 bytes. -/
def longHeader : List UInt8 := "Content-Length: 1".toUTF8.data.toList ++ 10 :: List.replicate 8172 120

/-- A frame with a header block that is within the limit, but not together with its end. -/
def longFrame : ByteArray := ⟨(longHeader ++ (terminator ++ [55])).toArray⟩

theorem longHeader_length : longHeader.length = 8190 := by
  rw [longHeader, List.length_append, List.length_cons, List.length_replicate]
  rfl

theorem cutHeader?_longFrame : cutHeader? longFrame.data.toList = some (longHeader, [55]) := by
  refine cutHeader?_header [55] ?_
  simp only [longHeader, List.mem_append, List.mem_cons, List.mem_replicate]
  decide

theorem lead_longFrame : lead longFrame.data.toList = .message (.int 7) [] := by
  have announced : bodyLength? ⟨longHeader.toArray⟩ = some 1 := by
    have line : (characters? ⟨"Content-Length: 1".toUTF8.data.toList.toArray⟩).bind lineLength? = some 1 := by
      cbv
    have feedless : ∀ b ∈ "Content-Length: 1".toUTF8.data.toList, (b == 0x0A) = false := by decide +kernel
    rw [bodyLength?, headerLines_eq_splitOn, longHeader, List.splitOn,
      List.splitOnP_append_cons_of_forall_mem feedless 10 rfl, List.findSome?_cons, line]
  have body : bodyMessage? ⟨#[55]⟩ = some (.int 7) := by cbv
  rw [lead, cutHeader?_longFrame]
  simp [announced, maxBody, body]

/-- Fed in one piece the frame comes through, fed byte by byte it breaks the stream. -/
theorem long_header_breaks_in_pieces :
    fresh.feed longFrame = (.ok [.int 7], fresh) ∧
    joined (singles longFrame) = longFrame ∧
    (fresh.feedAll (singles longFrame)).error? = some (.headerTooLarge 8192) := by
  have taken : takeAll longFrame.data.toList = ⟨[.int 7], 0, .waiting []⟩ := by
    rw [takeAll_message lead_longFrame, takeAll_incomplete rfl]
    rfl
  have whole : fresh.feed longFrame = (.ok [.int 7], fresh) := feed_ok_iff.mpr ⟨0, taken, rfl⟩
  refine ⟨whole, joined_singles _, ?_⟩
  have unfit : ¬HeadersFit longFrame.data.toList := by
    intro fits
    have early := fits _ (.front _) longHeader [55] cutHeader?_longFrame
    rw [longHeader_length, maxHeader] at early
    omega
  obtain ⟨error, met⟩ := error?_singles_of_unfit unfit
  obtain same | limit := error?_of_cut (joined_singles longFrame)
  · rw [met, breach?, taken] at same
    cases same
  · exact limit

end Cuts

end FrameDecoder

end BlockDiscovery.Framing
