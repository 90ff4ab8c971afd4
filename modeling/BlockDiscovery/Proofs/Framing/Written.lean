import BlockDiscovery.Proofs.Framing.Buffer
import BlockDiscovery.Proofs.Json.RoundTrip

/-! # Written frames

What the decoder makes of the bytes that the encoder writes.  A written frame at the
front of some bytes is its message (`lead_frame`), and any proper start of one is the
start of a frame (`lead_frame_start`), so that no cut of written frames looks like a
broken stream.
-/

namespace BlockDiscovery.Framing

open BlockDiscovery BlockDiscovery.Json

/-! ## Characters as bytes -/

theorem bytesOf_toList (s : List Char) :
    (bytesOf s).data.toList = s.flatMap String.utf8EncodeChar := by
  simp [bytesOf, List.utf8Encode]

theorem characters?_bytesOf (s : List Char) : characters? (bytesOf s) = some s := by
  have valid : ByteArray.IsValidUTF8 (bytesOf s) := (String.ofList s).isValidUTF8
  simp only [characters?, String.fromUTF8?, dif_pos valid, Option.map_some, Option.some.injEq]
  exact String.toList_ofList

theorem utf8Size_ascii {c : Char} (ascii : c.toNat < 0x80) : c.utf8Size = 1 := by
  have : c.val ≤ 0x7f := UInt32.le_iff_toNat_le.mpr (Nat.le_of_lt_succ ascii)
  simp [Char.utf8Size, this]

theorem utf8EncodeChar_ascii {c : Char} {b : UInt8} (ascii : c.toNat < 0x80)
    (h : b ∈ String.utf8EncodeChar c) : b.toNat = c.toNat := by
  rw [String.utf8EncodeChar_eq_singleton (utf8Size_ascii ascii), List.mem_singleton] at h
  subst h
  change c.val.toNat % 256 = c.val.toNat
  exact Nat.mod_eq_of_lt (Nat.lt_trans ascii (by decide))

/-! ## The header block -/

/-- The header that announces a body, without the empty line. -/
def headerText (length : Nat) : List Char := lengthName ++ ':' :: ' ' :: Text.decimal length

/-- The bytes of the header that announces a body, without the empty line. -/
def headerBytes (length : Nat) : List UInt8 := (bytesOf (headerText length)).data.toList

theorem headerOf_eq (length : Nat) :
    (headerOf length).data.toList = headerBytes length ++ terminator := by
  have text : "Content-Length: ".toList ++ Text.decimal length ++ ['\r', '\n', '\r', '\n'] =
      headerText length ++ ['\r', '\n', '\r', '\n'] := by
    rfl
  rw [headerOf, text, headerBytes, bytesOf_toList, bytesOf_toList, List.flatMap_append]
  rfl

theorem headerText_printable {length : Nat} {c : Char} (h : c ∈ headerText length) :
    0x20 ≤ c.toNat ∧ c.toNat < 0x80 := by
  rw [headerText, List.mem_append, List.mem_cons, List.mem_cons] at h
  have letters : lengthName.all (fun c => 0x20 ≤ c.toNat && c.toNat < 0x80) = true := by decide
  obtain name | rfl | rfl | digit := h
  · simpa using List.all_eq_true.mp letters c name
  · decide
  · decide
  · have bounds := Char.isDigit_iff_toNat.mp (Text.isDigit_of_mem_decimal digit)
    have low : '0'.toNat = 0x30 := rfl
    have high : '9'.toNat = 0x39 := rfl
    omega

theorem headerBytes_printable {length : Nat} {b : UInt8} (h : b ∈ headerBytes length) :
    0x20 ≤ b.toNat := by
  rw [headerBytes, bytesOf_toList] at h
  obtain ⟨c, member, byte⟩ := List.mem_flatMap.mp h
  obtain ⟨low, high⟩ := headerText_printable member
  rwa [utf8EncodeChar_ascii high byte]

theorem headerLines_single {header : List UInt8} (h : 0x0A ∉ header) :
    headerLines header = [header] := by
  induction header with
  | nil => rfl
  | cons b header ih =>
    simp only [List.mem_cons, not_or] at h
    have rest := ih h.2
    rw [headerLines] at rest ⊢
    rw [List.foldr_cons, rest, if_neg (Ne.symm h.1)]

theorem wordOf?_decimal {n : Nat} (h : n < 0x1_0000_0000_0000_0000) : wordOf? (Text.decimal n) = some n := by
  obtain ⟨d, ds, text, digit⟩ := decimal_head n
  have unsigned : d ≠ '+' := by
    rintro rfl
    exact absurd digit (by decide)
  have digits : (Text.decimal n).all (fun c => '0' ≤ c && c ≤ '9') = true :=
    List.all_eq_true.mpr isDigit_of_mem_decimal
  have value := Text.digitsValue_decimal n
  rw [text] at digits value ⊢
  simpa [wordOf?, unsigned, digits, value] using h

theorem lineLength?_headerText {length : Nat} (h : length < 0x1_0000_0000_0000_0000) :
    lineLength? (headerText length) = some length := by
  have last : (headerText length).getLast? =
      some ((Text.decimal length).getLast (Text.decimal_ne_nil _)) := by
    rw [headerText, List.getLast?_append]
    simp [List.getLast?_cons, List.getLast?_eq_some_getLast (Text.decimal_ne_nil length)]
  have line : Text.trim (headerText length) = headerText length :=
    Text.trim_of_edges (c := 'C') rfl last (by decide)
      (Text.isBlank_of_isDigit (Text.isDigit_of_mem_decimal (List.getLast_mem _)))
  have cut : Text.cutAt? ':' (headerText length) = some (lengthName, ' ' :: Text.decimal length) :=
    Text.cutAt?_append _ (by decide)
  have name : Text.sameIgnoringCase (Text.trim lengthName) lengthName = true := by decide
  simp only [lineLength?, line, cut, name, if_true]
  rw [Text.trim_cons (by decide), Text.trim_decimal, wordOf?_decimal h]

theorem bodyLength?_headerBytes {length : Nat} (h : length < 0x1_0000_0000_0000_0000) :
    bodyLength? ⟨(headerBytes length).toArray⟩ = some length := by
  have line : headerLines (headerBytes length) = [headerBytes length] :=
    headerLines_single fun member => absurd (headerBytes_printable member) (by decide)
  have text : characters? ⟨(headerBytes length).toArray⟩ = some (headerText length) :=
    characters?_bytesOf (headerText length)
  simp [bodyLength?, line, text, lineLength?_headerText h]

theorem cutHeader?_headerBytes (length : Nat) (behind : List UInt8) :
    cutHeader? (headerBytes length ++ (terminator ++ behind)) = some (headerBytes length, behind) :=
  cutHeader?_header behind fun member => absurd (headerBytes_printable member) (by decide)

theorem length_utf8_ascii {s : List Char} (h : ∀ c ∈ s, c.toNat < 0x80) :
    (s.flatMap String.utf8EncodeChar).length = s.length := by
  induction s with
  | nil => rfl
  | cons c s ih =>
    rw [List.flatMap_cons, List.length_append, String.length_utf8EncodeChar,
      utf8Size_ascii (h c List.mem_cons_self), ih fun c member => h c (List.mem_cons_of_mem _ member),
      List.length_cons, Nat.add_comm]

theorem length_headerBytes {length : Nat} (h : length ≤ maxBody) :
    (headerBytes length).length + 4 ≤ maxHeader := by
  -- the name, the separator and the terminator add 20 to at most seven digits
  have digits : (Text.decimal length).length ≤ 7 :=
    (Nat.length_toDigits_le_iff (by decide) (by decide)).mpr (Nat.lt_of_le_of_lt h (by decide))
  have chars : (headerBytes length).length = (headerText length).length := by
    rw [headerBytes, bytesOf_toList]
    exact length_utf8_ascii fun c member => (headerText_printable member).2
  have name : lengthName.length = 14 := rfl
  simp only [chars, headerText, List.length_append, List.length_cons, name, maxHeader]
  omega

/-! ## One frame -/

/-- What one frame carries: a value whose numbers are exact integers, whose members are
in order, and whose nesting and text are within the limits. -/
structure Carried (v : Value) : Prop where
  exact : v.Integral
  ordered : v.Ordered
  shallow : v.nesting ≤ nestingLimit
  fits : (bytesOf v.render).size ≤ maxBody

/-- The bytes of a message without its header. -/
def bodyBytes (v : Value) : List UInt8 := (bytesOf v.render).data.toList

/-- The bytes of a message with its header. -/
def frameBytes (v : Value) : List UInt8 := (encodeFrame v).data.toList

theorem frameBytes_eq (v : Value) :
    frameBytes v = headerBytes (bodyBytes v).length ++ (terminator ++ bodyBytes v) := by
  rw [frameBytes, encodeFrame, frameOf, ByteArray.toList_data_append, headerOf_eq, List.append_assoc]
  rfl

theorem bodyMessage?_bodyBytes {v : Value} (h : Carried v) :
    bodyMessage? ⟨(bodyBytes v).toArray⟩ = some v := by
  have text : characters? ⟨(bodyBytes v).toArray⟩ = some v.render := characters?_bytesOf v.render
  simp [bodyMessage?, text, ofText_render h.exact h.ordered h.shallow, Except.toOption]

theorem length_bodyBytes {v : Value} (h : Carried v) : (bodyBytes v).length ≤ maxBody := h.fits

/-- A written frame at the front is its message. -/
theorem lead_frame {v : Value} (h : Carried v) (more : List UInt8) :
    lead (frameBytes v ++ more) = .message v more := by
  have fits := length_bodyBytes h
  have cut := cutHeader?_headerBytes (bodyBytes v).length (bodyBytes v ++ more)
  have announced := bodyLength?_headerBytes (Nat.lt_of_le_of_lt fits (by decide))
  have large : ¬ maxBody < (bodyBytes v).length := by omega
  have short : ¬ (bodyBytes v ++ more).length < (bodyBytes v).length := by
    rw [List.length_append]
    omega
  rw [frameBytes_eq, List.append_assoc, List.append_assoc]
  simp only [lead, cut, announced, large, short, if_false, List.take_left, List.drop_left,
    bodyMessage?_bodyBytes h]

/-- A proper start of a written frame is the start of a frame. -/
theorem lead_frame_start {v : Value} (h : Carried v) {start missing : List UInt8}
    (split : start ++ missing = frameBytes v) (proper : missing ≠ []) : lead start = .incomplete := by
  have fits := length_bodyBytes h
  have whole := cutHeader?_headerBytes (bodyBytes v).length (bodyBytes v)
  rw [← frameBytes_eq, ← split] at whole
  cases cut : cutHeader? start with
  | none =>
    have short : start.length < (headerBytes (bodyBytes v).length).length + 4 := by
      by_contra long
      have header : headerBytes (bodyBytes v).length ++ terminator <+: frameBytes v :=
        ⟨bodyBytes v, by rw [frameBytes_eq, List.append_assoc]⟩
      obtain ⟨behind, inside⟩ := List.prefix_of_prefix_length_le header ⟨missing, split⟩ (by
        rw [List.length_append]
        exact Nat.le_of_not_lt long)
      rw [← inside, List.append_assoc, cutHeader?_headerBytes] at cut
      cases cut
    have := length_headerBytes fits
    have inside : ¬ maxHeader < start.length := by omega
    simp only [lead, cut, inside, if_false]
  | some pair =>
    obtain ⟨header, behind⟩ := pair
    rw [cutHeader?_append missing cut] at whole
    obtain ⟨rfl, body⟩ :
        header = headerBytes (bodyBytes v).length ∧ behind ++ missing = bodyBytes v := by
      simpa using whole
    have announced := bodyLength?_headerBytes (Nat.lt_of_le_of_lt fits (by decide))
    have large : ¬ maxBody < (bodyBytes v).length := by omega
    have short : behind.length < (bodyBytes v).length := by
      have := List.length_pos_iff.mpr proper
      rw [← body, List.length_append]
      omega
    simp only [lead, cut, announced, large, short, if_true, if_false]

/-! ## Frames one after another -/

/-- The bytes of messages written one after another. -/
def framesBytes (messages : List Value) : List UInt8 := messages.flatMap frameBytes

theorem foldl_encodeFrame (messages : List Value) (done : ByteArray) :
    (messages.foldl (fun done message => done ++ encodeFrame message) done).data.toList =
      done.data.toList ++ framesBytes messages := by
  induction messages generalizing done with
  | nil => simp [framesBytes]
  | cons v messages ih =>
    rw [List.foldl_cons, ih, ByteArray.toList_data_append, List.append_assoc]
    rfl

theorem encodeFrames_toList (messages : List Value) :
    (encodeFrames messages).data.toList = framesBytes messages :=
  foldl_encodeFrame messages ByteArray.empty

theorem takeAll_frames {messages : List Value} (h : ∀ v ∈ messages, Carried v) :
    takeAll (framesBytes messages) = ⟨messages, 0, .waiting []⟩ := by
  induction messages with
  | nil => exact takeAll_incomplete rfl
  | cons v messages ih =>
    have front := lead_frame (h v List.mem_cons_self) (framesBytes messages)
    rw [framesBytes, List.flatMap_cons, ← framesBytes, takeAll_message front,
      ih fun w member => h w (List.mem_cons_of_mem _ member)]
    rfl

/-- No start of written frames breaks the stream. -/
theorem takeAll_frames_start {messages : List Value} (h : ∀ v ∈ messages, Carried v)
    {start missing : List UInt8} (split : start ++ missing = framesBytes messages) :
    ∃ rest, (takeAll start).ending = .waiting rest := by
  induction messages generalizing start with
  | nil =>
    obtain ⟨rfl, _⟩ := List.append_eq_nil_iff.mp split
    exact ⟨[], congrArg Taken.ending (takeAll_incomplete rfl)⟩
  | cons v messages ih =>
    rw [framesBytes, List.flatMap_cons, ← framesBytes] at split
    have carried := h v List.mem_cons_self
    obtain ⟨inner, frame, _⟩ | ⟨behind, rfl, more⟩ := List.append_eq_append_iff.mp split
    · by_cases whole : inner = []
      · have front := lead_frame carried []
        rw [List.append_nil, frame, whole, List.append_nil] at front
        exact ⟨[], by rw [takeAll_message front, takeAll_incomplete rfl]; rfl⟩
      · exact ⟨start, by rw [takeAll_incomplete (lead_frame_start carried frame.symm whole)]⟩
    · obtain ⟨rest, waits⟩ := ih (fun w member => h w (List.mem_cons_of_mem _ member)) more.symm
      exact ⟨rest, by rw [takeAll_message (lead_frame carried behind)]; exact waits⟩

end BlockDiscovery.Framing
