import Mathlib
import BlockDiscovery.Proofs.Framing.Segments

/-! # Lengths beyond the limit

A header block that announces more than a body may have ends the stream, and nothing behind it
is read.  But a length is read as a number of 64 bits before it is compared with the limit.  A
numeral that has no room there passes for no length at all: the block is dropped on its own, and what
was meant as its body is read as the next frame.

What a length line says is told by `StatesLength`, whatever the size of its numeral.
-/

namespace BlockDiscovery.Framing

open BlockDiscovery BlockDiscovery.Json

variable {header line rest : List UInt8} {digits value : List Char} {n dropped : Nat}

/-! ## Length lines -/

/-- A line of a header block with the name of the length, in any case, and the given value. -/
def NamesLength (line : List UInt8) (value : List Char) : Prop :=
  ∃ text name more, line = (bytesOf text).data.toList ∧ Text.trim text = name ++ ':' :: more ∧ ':' ∉ name ∧
    Text.asciiLower (Text.trim name) = Text.asciiLower "Content-Length".toList ∧ Text.trim more = value

/-- A header block has one length line, and its value is a decimal numeral of any length. -/
structure StatesLength (header : List UInt8) (digits : List Char) : Prop where
  filled : digits ≠ []
  decimal : ∀ d ∈ digits, '0' ≤ d ∧ d ≤ '9'
  only : ∃ front line back, header.splitOn 0x0A = front ++ line :: back ∧ NamesLength line digits ∧
    ∀ other ∈ front ++ back, ∀ value, ¬ NamesLength other value

theorem givesLength_iff_names : GivesLength line n ↔ ∃ value, NamesLength line value ∧ IsWord value n := by
  constructor
  · rintro ⟨text, name, more, bytes, whole, first, same, word⟩
    exact ⟨Text.trim more, ⟨text, name, more, bytes, whole, first, same, rfl⟩, word⟩
  · rintro ⟨value, ⟨text, name, more, bytes, whole, first, same, rfl⟩, word⟩
    exact ⟨text, name, more, bytes, whole, first, same, word⟩

/-- The value of a length line, as it is found. -/
def lengthValue? (line : List UInt8) : Option (List Char) :=
  (characters? ⟨line.toArray⟩).bind fun text =>
    (Text.cutAt? ':' (Text.trim text)).bind fun (name, more) =>
      if Text.sameIgnoringCase (Text.trim name) lengthName then some (Text.trim more) else none

theorem lengthValue?_eq_some_iff : lengthValue? line = some value ↔ NamesLength line value := by
  constructor
  · intro found
    obtain ⟨text, read, inside⟩ := Option.bind_eq_some_iff.mp found
    obtain ⟨⟨name, more⟩, cut, named⟩ := Option.bind_eq_some_iff.mp inside
    obtain ⟨same, told⟩ := Option.ite_none_right_eq_some.mp named
    obtain ⟨whole, first⟩ := Text.cutAt?_eq_some_iff.mp cut
    exact ⟨text, name, more, characters?_eq_some_iff.mp read, whole, first, eq_of_beq same, Option.some.inj told⟩
  · rintro ⟨text, name, more, bytes, whole, first, same, rfl⟩
    have named : Text.sameIgnoringCase (Text.trim name) lengthName = true := beq_iff_eq.mpr same
    rw [lengthValue?, characters?_eq_some_iff.mpr bytes, Option.bind_some,
      Text.cutAt?_eq_some_iff.mpr ⟨whole, first⟩, Option.bind_some]
    exact if_pos named

theorem lengthValue?_eq_none_iff : lengthValue? line = none ↔ ∀ value, ¬ NamesLength line value := by
  simp only [Option.eq_none_iff_forall_ne_some, ne_eq, lengthValue?_eq_some_iff]

/-- A line has one value at most. -/
theorem NamesLength.unique {other : List Char} (first : NamesLength line value) (second : NamesLength line other) :
    value = other := by
  rw [← lengthValue?_eq_some_iff] at first second
  exact Option.some.inj (first.symm.trans second)

/-- Decimal digits are a word just when their number has room in 64 bits. -/
theorem isWord_digits_iff (filled : digits ≠ []) (decimal : ∀ d ∈ digits, '0' ≤ d ∧ d ≤ '9') :
    IsWord digits n ↔ Text.digitsValue digits = n ∧ n < 2 ^ 64 := by
  constructor
  · rintro ⟨inner, rfl | rfl, _, _, word⟩
    · exact word
    · exact absurd (decimal '+' List.mem_cons_self) (by decide)
  · exact fun word => ⟨digits, .inl rfl, filled, decimal, word⟩

/-- Of a block with one length line, the length is the number of its numeral, if that has room. -/
theorem StatesLength.announces_iff (h : StatesLength header digits) :
    Announces header n ↔ Text.digitsValue digits = n ∧ n < 2 ^ 64 := by
  obtain ⟨front, line, back, split, names, others⟩ := h.only
  have silent : ∀ other ∈ front ++ back, ∀ m, ¬ GivesLength other m := by
    intro other member m gives
    obtain ⟨value, named, _⟩ := givesLength_iff_names.mp gives
    exact others other member value named
  rw [← isWord_digits_iff h.filled h.decimal]
  constructor
  · rintro ⟨before, giving, behind, split', gives, _⟩
    have member : giving ∈ front ++ line :: back := by
      rw [← split, split']
      exact List.mem_append_right _ List.mem_cons_self
    obtain rfl : giving = line := by
      by_contra differs
      refine silent giving ?_ n gives
      simpa [differs] using member
    obtain ⟨value, named, word⟩ := givesLength_iff_names.mp gives
    rwa [names.unique named]
  · intro word
    refine ⟨front, line, back, split, givesLength_iff_names.mpr ⟨digits, names, word⟩, fun other member => ?_⟩
    exact silent other (List.mem_append_left back member)

/-! ## Feeds -/

theorem feed_fatal {s : List UInt8} {error : FramingError} (front : lead s = .fatal error) :
    FrameDecoder.feed ⟨ByteArray.empty, dropped⟩ ⟨s.toArray⟩ = (.error error, ⟨ByteArray.empty, dropped⟩) := by
  have taken := takeAll_fatal front
  rw [feed_eq]
  simp [FrameDecoder.bytes, taken, Taken.outcome]

theorem feed_skipped {s : List UInt8} (front : lead s = .skipped rest) :
    FrameDecoder.feed ⟨ByteArray.empty, dropped⟩ ⟨s.toArray⟩ =
      FrameDecoder.feed ⟨ByteArray.empty, dropped + 1⟩ ⟨rest.toArray⟩ := by
  have taken := takeAll_skipped front
  rw [feed_eq, feed_eq]
  simp [FrameDecoder.bytes, taken, Taken.outcome_after]

theorem lead_of_room (closed : Closed header) (states : StatesLength header digits)
    (large : maxBody < Text.digitsValue digits) (room : Text.digitsValue digits < 2 ^ 64) (rest : List UInt8) :
    lead (header ++ (terminator ++ rest)) = .fatal (.frameTooLarge (Text.digitsValue digits) maxBody) := by
  have cut := cutHeader?_closed closed rest
  have length := bodyLength?_eq_some_iff.mpr (states.announces_iff.mpr ⟨rfl, room⟩)
  simp only [lead, cut, length, large, if_true]

theorem lead_of_no_room (closed : Closed header) (states : StatesLength header digits)
    (beyond : ¬ Text.digitsValue digits < 2 ^ 64) (rest : List UInt8) :
    lead (header ++ (terminator ++ rest)) = .skipped rest := by
  have cut := cutHeader?_closed closed rest
  have lengthless : bodyLength? ⟨header.toArray⟩ = none := by
    refine bodyLength?_eq_none_iff.mpr fun n announced => ?_
    obtain ⟨rfl, room⟩ := states.announces_iff.mp announced
    exact beyond room
  simp only [lead, cut, lengthless]

/-- A header block whose only length line has a numeral of a number above the limit, fed with anything
behind it to a decoder with an empty buffer, is fatal if the number has room in 64 bits: the number is
told, and nothing behind the block is read.  If it has not, the block is dropped, and what is behind
it is read as if it had been fed alone. -/
theorem oversized_word_is_fatal (closed : Closed header) (states : StatesLength header digits)
    (large : maxBody < Text.digitsValue digits) (rest : List UInt8) (dropped : Nat) :
    FrameDecoder.feed ⟨ByteArray.empty, dropped⟩ ⟨(header ++ (terminator ++ rest)).toArray⟩ =
      if Text.digitsValue digits < 2 ^ 64 then
        (.error (.frameTooLarge (Text.digitsValue digits) maxBody), ⟨ByteArray.empty, dropped⟩)
      else FrameDecoder.feed ⟨ByteArray.empty, dropped + 1⟩ ⟨rest.toArray⟩ := by
  split
  · next room => exact feed_fatal (lead_of_room closed states large room rest)
  · next beyond => exact feed_skipped (lead_of_no_room closed states beyond rest)

/-! ## At the word boundary -/

/-- A header block with a log line and a foreign header around a length line with the given numeral. -/
def blockWith (digits : String) : List UInt8 :=
  ("ready\r\n content-LENGTH :\t" ++ digits ++ "\r\nx: 1").toUTF8.data.toList

theorem statesLength_blockWith {digits : String} {line : List UInt8}
    (split : (blockWith digits).splitOn 0x0A = ["ready\r".toUTF8.data.toList, line, "x: 1".toUTF8.data.toList])
    (value : lengthValue? line = some digits.toList) (filled : digits.toList ≠ [])
    (decimal : (digits.toList.all fun d => '0' ≤ d && d ≤ '9') = true) :
    StatesLength (blockWith digits) digits.toList where
  filled := filled
  decimal := by simpa using decimal
  only := by
    refine ⟨["ready\r".toUTF8.data.toList], line, ["x: 1".toUTF8.data.toList], split,
      lengthValue?_eq_some_iff.mp value, ?_⟩
    have ready : ∀ value, ¬ NamesLength "ready\r".toUTF8.data.toList value :=
      lengthValue?_eq_none_iff.mp (by decide +kernel)
    have foreign : ∀ value, ¬ NamesLength "x: 1".toUTF8.data.toList value :=
      lengthValue?_eq_none_iff.mp (by decide +kernel)
    simpa using ⟨ready, foreign⟩

/-- The largest number of 64 bits, with leading zeros, before a frame. -/
theorem oversized_word_is_fatal_largest :
    Closed (blockWith "0018446744073709551615") ∧
    StatesLength (blockWith "0018446744073709551615") "0018446744073709551615".toList ∧
    FrameDecoder.feed ⟨ByteArray.empty, 3⟩
        ⟨(blockWith "0018446744073709551615" ++ (terminator ++ "Content-Length: 1\r\n\r\n7".toUTF8.data.toList)).toArray⟩ =
      (.error (.frameTooLarge 18446744073709551615 maxBody), ⟨ByteArray.empty, 3⟩) := by
  have closed : Closed (blockWith "0018446744073709551615") := by decide +kernel
  have states : StatesLength (blockWith "0018446744073709551615") "0018446744073709551615".toList :=
    @statesLength_blockWith "0018446744073709551615" " content-LENGTH :\t0018446744073709551615\r".toUTF8.data.toList
      (by decide +kernel) (by decide +kernel) (by decide +kernel) (by decide +kernel)
  have number : Text.digitsValue "0018446744073709551615".toList = 18446744073709551615 := by decide +kernel
  have fatal := oversized_word_is_fatal closed states (by rw [number]; decide)
    "Content-Length: 1\r\n\r\n7".toUTF8.data.toList 3
  rw [number, if_pos (by decide)] at fatal
  exact ⟨closed, states, fatal⟩

/-- The next number is no length: the block is dropped, and the frame behind it is read. -/
theorem numeral_beyond_word_is_dropped :
    Closed (blockWith "18446744073709551616") ∧
    StatesLength (blockWith "18446744073709551616") "18446744073709551616".toList ∧
    maxBody < Text.digitsValue "18446744073709551616".toList ∧
    FrameDecoder.feed .fresh
        ⟨(blockWith "18446744073709551616" ++ (terminator ++ "Content-Length: 1\r\n\r\n7".toUTF8.data.toList)).toArray⟩ =
      (.ok [.int 7], ⟨ByteArray.empty, 1⟩) := by
  have closed : Closed (blockWith "18446744073709551616") := by decide +kernel
  have states : StatesLength (blockWith "18446744073709551616") "18446744073709551616".toList :=
    @statesLength_blockWith "18446744073709551616" " content-LENGTH :\t18446744073709551616\r".toUTF8.data.toList
      (by decide +kernel) (by decide +kernel) (by decide +kernel) (by decide +kernel)
  have number : Text.digitsValue "18446744073709551616".toList = 18446744073709551616 := by decide +kernel
  have frame : FrameDecoder.feed ⟨ByteArray.empty, 1⟩ "Content-Length: 1\r\n\r\n7".toUTF8 =
      (.ok [.int 7], ⟨ByteArray.empty, 1⟩) := by cbv
  refine ⟨closed, states, by rw [number]; decide, ?_⟩
  rw [FrameDecoder.fresh, feed_skipped (lead_of_no_room closed states (by rw [number]; decide) _)]
  exact frame

end BlockDiscovery.Framing
