import BlockDiscovery.Proofs.Framing.Written

/-! # Segments of a stream

A stream may hold more than frames: stray text, foreign headers, bad lengths and bodies
of any bytes.  It still falls into segments, header blocks with the bodies that they
announce, and the decoder takes it apart there.  A segment that announces no length, or
whose body is no JSON, is dropped on its own.

What a header block announces is said by `Announces`, independently of the scan in
`bodyLength?`.
-/

namespace BlockDiscovery.Framing

open BlockDiscovery BlockDiscovery.Json

/-! ## Lengths -/

/-- A numeral of `n` in 64 bits: decimal digits, which may follow one plus sign. -/
def IsWord (s : List Char) (n : Nat) : Prop :=
  ∃ digits, (s = digits ∨ s = '+' :: digits) ∧ digits ≠ [] ∧
    (∀ d ∈ digits, '0' ≤ d ∧ d ≤ '9') ∧ Text.digitsValue digits = n ∧ n < 2 ^ 64

theorem wordOf?_eq_some_iff {s : List Char} {n : Nat} : wordOf? s = some n ↔ IsWord s n := by
  -- the scan drops a plus sign first, and no digit is one
  have digits_iff : ∀ digits : List Char,
      (if digits.isEmpty then none
        else if digits.all fun c => '0' ≤ c && c ≤ '9' then
          if Text.digitsValue digits < 0x1_0000_0000_0000_0000 then some (Text.digitsValue digits) else none
        else none) = some n ↔
      digits ≠ [] ∧ (∀ d ∈ digits, '0' ≤ d ∧ d ≤ '9') ∧ Text.digitsValue digits = n ∧ n < 2 ^ 64 := by
    intro digits
    simp only [List.isEmpty_iff, List.all_eq_true, Bool.and_eq_true, decide_eq_true_eq]
    constructor
    · intro read
      split at read
      · cases read
      split at read
      · split at read
        · cases read
          simp_all
        · cases read
      · cases read
    · rintro ⟨filled, digits, rfl, small⟩
      rw [if_neg filled, if_pos digits, if_pos (by simpa using small)]
  unfold wordOf?
  dsimp only
  rw [digits_iff]
  constructor
  · intro read
    split at read
    · next rest => exact ⟨rest, .inr rfl, read⟩
    · exact ⟨s, .inl rfl, read⟩
  · rintro ⟨digits, rfl | rfl, filled, all, value⟩
    · split
      · next rest => exact absurd (all '+' List.mem_cons_self) (by decide)
      · exact ⟨filled, all, value⟩
    · exact ⟨filled, all, value⟩

/-- A line of a header block that gives the length `n`: UTF-8 text, of which the name
before the first colon is that of the length, in any case, and the rest is a numeral. -/
def GivesLength (line : List UInt8) (n : Nat) : Prop :=
  ∃ text name value, line = (bytesOf text).data.toList ∧
    Text.trim text = name ++ ':' :: value ∧ ':' ∉ name ∧
    Text.asciiLower (Text.trim name) = Text.asciiLower "Content-Length".toList ∧
    IsWord (Text.trim value) n

/-- A header block announces the length that the first of its lines gives which gives
one. -/
def Announces (header : List UInt8) (n : Nat) : Prop :=
  ∃ front line back, header.splitOn 0x0A = front ++ line :: back ∧ GivesLength line n ∧
    ∀ other ∈ front, ∀ m, ¬ GivesLength other m

theorem characters?_eq_some_iff {line : List UInt8} {text : List Char} :
    characters? ⟨line.toArray⟩ = some text ↔ line = (bytesOf text).data.toList := by
  constructor
  · intro read
    simp only [characters?, String.fromUTF8?] at read
    split at read
    · next valid =>
      simp only [Option.map_some, Option.some.injEq] at read
      subst read
      simp only [bytesOf, String.ofList_toList]
      rfl
    · cases read
  · rintro rfl
    exact characters?_bytesOf text

theorem lineLength?_eq_some_iff {text : List Char} {n : Nat} :
    lineLength? text = some n ↔ ∃ name value, Text.trim text = name ++ ':' :: value ∧ ':' ∉ name ∧
      Text.asciiLower (Text.trim name) = Text.asciiLower "Content-Length".toList ∧
      IsWord (Text.trim value) n := by
  unfold lineLength?
  constructor
  · intro read
    split at read
    · next name value cut =>
      obtain ⟨whole, first⟩ := Text.cutAt?_eq_some_iff.mp cut
      split at read
      · next same =>
        exact ⟨name, value, whole, first, eq_of_beq same, wordOf?_eq_some_iff.mp read⟩
      · cases read
    · cases read
  · rintro ⟨name, value, whole, first, same, word⟩
    have named : Text.sameIgnoringCase (Text.trim name) lengthName = true := beq_iff_eq.mpr same
    rw [Text.cutAt?_eq_some_iff.mpr ⟨whole, first⟩]
    simp only [named, if_true, wordOf?_eq_some_iff.mpr word]

theorem givesLength_iff {line : List UInt8} {n : Nat} :
    ((characters? ⟨line.toArray⟩).bind lineLength?) = some n ↔ GivesLength line n := by
  simp only [Option.bind_eq_some_iff, characters?_eq_some_iff, lineLength?_eq_some_iff, GivesLength]
  constructor
  · rintro ⟨text, bytes, name, value, rest⟩
    exact ⟨text, name, value, bytes, rest⟩
  · rintro ⟨text, name, value, bytes, rest⟩
    exact ⟨text, bytes, name, value, rest⟩

theorem headerLines_eq_splitOn (header : List UInt8) : headerLines header = header.splitOn 0x0A := by
  induction header with
  | nil => rfl
  | cons b header ih =>
    simp only [headerLines, List.splitOn] at ih ⊢
    rw [List.foldr_cons, ih, List.splitOnP_cons_eq_if_modifyHead]
    by_cases feed : b = 0x0A
    · simp [feed]
    · cases lines : List.splitOnP (fun x => x == 0x0A) header with
      | nil => exact absurd lines (List.splitOnP_ne_nil _ _)
      | cons line more => simp [feed]

theorem bodyLength?_eq_some_iff {header : List UInt8} {n : Nat} :
    bodyLength? ⟨header.toArray⟩ = some n ↔ Announces header n := by
  have silent : ∀ line : List UInt8,
      (characters? ⟨line.toArray⟩).bind lineLength? = none ↔ ∀ m, ¬ GivesLength line m := by
    intro line
    simp only [Option.eq_none_iff_forall_ne_some, ne_eq, givesLength_iff]
  simp only [bodyLength?, headerLines_eq_splitOn, List.findSome?_eq_some_iff, givesLength_iff, silent,
    Announces]

theorem bodyLength?_eq_none_iff {header : List UInt8} :
    bodyLength? ⟨header.toArray⟩ = none ↔ ∀ n, ¬ Announces header n := by
  simp only [Option.eq_none_iff_forall_ne_some, ne_eq, bodyLength?_eq_some_iff]

/-! ## Segments -/

/-- No terminator starts before the one behind the header. -/
def Closed (header : List UInt8) : Prop :=
  ∀ i < header.length, ¬ terminator <+: (header ++ terminator).drop i

instance (header : List UInt8) : Decidable (Closed header) :=
  inferInstanceAs (Decidable (∀ i < header.length, _))

theorem cutHeader?_closed {header : List UInt8} (closed : Closed header) (more : List UInt8) :
    cutHeader? (header ++ (terminator ++ more)) = some (header, more) := by
  have cut : cutHeader? (header ++ terminator) = some (header, []) := by
    induction header with
    | nil => rfl
    | cons b header ih =>
      have inner : Closed header := by
        intro i inside
        have later := closed (i + 1) (Nat.succ_lt_succ inside)
        simpa using later
      rw [List.cons_append, cutHeader?_cons, ih inner]
      · rfl
      · intro behind front
        apply closed 0 (Nat.succ_pos _)
        exact ⟨behind, front.symm⟩
  have longer := cutHeader?_append more cut
  rwa [List.append_assoc] at longer

/-- A header block with the body behind it, if it announces one. -/
inductive Segment where
  | silent (header : List UInt8) (closed : Closed header) (lengthless : ∀ n, ¬ Announces header n)
  | framed (header body : List UInt8) (closed : Closed header)
      (announced : Announces header body.length) (fits : body.length ≤ maxBody)

namespace Segment

/-- The segment on the stream. -/
def bytes : Segment → List UInt8
  | silent header _ _ => header ++ terminator
  | framed header body _ _ _ => header ++ terminator ++ body

/-- The message of a segment: what its body is as JSON, if it has one that is. -/
def message? : Segment → Option Value
  | silent _ _ _ => none
  | framed _ body _ _ _ => bodyMessage? ⟨body.toArray⟩

end Segment

/-- The decoder takes one segment and leaves what is behind it. -/
theorem lead_segment (s : Segment) (more : List UInt8) :
    lead (s.bytes ++ more) =
      match s.message? with
      | some value => .message value more
      | none => .skipped more := by
  cases s with
  | silent header closed lengthless =>
    have cut := cutHeader?_closed closed more
    have none := bodyLength?_eq_none_iff.mpr lengthless
    simp [Segment.bytes, Segment.message?, lead, cut, none]
  | framed header body closed announced fits =>
    have cut := cutHeader?_closed closed (body ++ more)
    have length := bodyLength?_eq_some_iff.mpr announced
    have large : ¬ maxBody < body.length := by omega
    have short : ¬ body.length + more.length < body.length := by omega
    cases found : bodyMessage? ⟨body.toArray⟩ with
    | none => simp [Segment.bytes, Segment.message?, lead, cut, length, large, short, found]
    | some value => simp [Segment.bytes, Segment.message?, lead, cut, length, large, short, found]

theorem takeAll_segments (segments : List Segment) :
    takeAll (segments.flatMap Segment.bytes) =
      ⟨segments.filterMap Segment.message?, segments.countP fun s => s.message?.isNone, .waiting []⟩ := by
  -- on the segments: the first is at the front, whatever bytes its body and the others hold
  induction segments with
  | nil => exact takeAll_incomplete rfl
  | cons s segments ih =>
    have front := lead_segment s (segments.flatMap Segment.bytes)
    rw [List.flatMap_cons]
    cases found : s.message? with
    | some value =>
      simp only [found] at front
      rw [takeAll_message front, ih]
      simp [Taken.after, found]
    | none =>
      simp only [found] at front
      rw [takeAll_skipped front, ih]
      simp [Taken.after, found, Nat.add_comm]

/-- Malformed frames are dropped on their own.  Segments that are fed to a decoder with
an empty buffer, in one piece, give the messages of those that have one, in order; the
others are counted as dropped, and no byte is left over. -/
theorem feed_segments (segments : List Segment) (dropped : Nat) :
    FrameDecoder.feed ⟨ByteArray.empty, dropped⟩ ⟨(segments.flatMap Segment.bytes).toArray⟩ =
      (.ok (segments.filterMap Segment.message?),
        ⟨ByteArray.empty, dropped + segments.countP fun s => s.message?.isNone⟩) := by
  have taken := takeAll_segments segments
  rw [feed_eq]
  simp [FrameDecoder.bytes, taken, Taken.outcome]
  rfl

/-- A log line with a bad length, a body that is itself a frame but no JSON, and a frame
with a foreign header and an odd spelling: only the last has a message. -/
theorem feed_segments_noise :
    ∃ segments : List Segment,
      segments.flatMap Segment.bytes = ("ready\r\nContent-Length: -1\r\n\r\n" ++
        "Content-Length: 22\r\n\r\nContent-Length: 1\r\n\r\n7" ++
        "x-a: b\n CONTENT-length : +4\r\n\r\nnull").toUTF8.data.toList ∧
      segments.length = 3 ∧
      FrameDecoder.feed ⟨ByteArray.empty, 5⟩ ⟨(segments.flatMap Segment.bytes).toArray⟩ =
        (.ok [.null], ⟨ByteArray.empty, 7⟩) := by
  have lengthless : ∀ n, ¬ Announces "ready\r\nContent-Length: -1".toUTF8.data.toList n := by
    apply bodyLength?_eq_none_iff.mp
    decide +kernel
  have inner : Announces "Content-Length: 22".toUTF8.data.toList
      "Content-Length: 1\r\n\r\n7".toUTF8.data.toList.length := by
    apply bodyLength?_eq_some_iff.mp
    decide +kernel
  have last : Announces "x-a: b\n CONTENT-length : +4".toUTF8.data.toList
      "null".toUTF8.data.toList.length := by
    apply bodyLength?_eq_some_iff.mp
    decide +kernel
  let segments : List Segment :=
    [.silent _ (by decide +kernel) lengthless,
      .framed _ _ (by decide +kernel) inner (by decide +kernel),
      .framed _ _ (by decide +kernel) last (by decide +kernel)]
  have fed := feed_segments segments 5
  have messages : segments.filterMap Segment.message? = [.null] := by rfl
  have silent : segments.countP (fun s => s.message?.isNone) = 2 := by rfl
  rw [messages, silent] at fed
  exact ⟨segments, by rfl, rfl, fed⟩

end BlockDiscovery.Framing
