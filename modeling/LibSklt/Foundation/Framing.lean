import Mathlib.Data.List.Basic

/-!
# Length-prefixed framing

A frame is a header of fixed size, a body whose size the header announces,
and a trailer of fixed size.  A `FrameFormat` fixes these sizes, how a header
is read, and the largest body-with-trailer a receiver is willing to take.

`decode` is the reference decoder: it takes frames off the front of a stream
until a frame is incomplete or too large.  It is defined without reference to
any receiver, so a receiver can be compared with it.
-/

namespace LibSklt.Foundation.Framing

variable {Symbol Tag : Type}

/-- The layout of the frames of a stream of symbols. -/
structure FrameFormat (Symbol Tag : Type) where
  headerSize : Nat
  headerSize_pos : 0 < headerSize
  trailerSize : Nat
  /-- The largest admitted size of body and trailer together. -/
  limit : Nat
  /-- The body size that a header announces. -/
  bodySize : List Symbol → Nat
  /-- What a header says the body is about. -/
  tag : List Symbol → Tag

namespace FrameFormat

/-- The size of what follows a header. -/
def payloadSize
    (format : FrameFormat Symbol Tag) (header : List Symbol) : Nat :=
  format.bodySize header + format.trailerSize

/-! ## Frames -/

/-- A well-formed frame of admitted size. -/
structure Frame (format : FrameFormat Symbol Tag) where
  header : List Symbol
  body : List Symbol
  trailer : List Symbol
  header_length : header.length = format.headerSize
  body_length : body.length = format.bodySize header
  trailer_length : trailer.length = format.trailerSize
  fits : format.payloadSize header ≤ format.limit

variable {format : FrameFormat Symbol Tag}

/-- What follows the header of a frame. -/
def Frame.payload (frame : Frame format) : List Symbol :=
  frame.body ++ frame.trailer

/-- The symbols of a frame, as they stand in the stream. -/
def Frame.symbols (frame : Frame format) : List Symbol :=
  frame.header ++ frame.payload

/-- What a receiver of the frame has to deliver. -/
def Frame.message (frame : Frame format) : Tag × List Symbol :=
  (format.tag frame.header, frame.body)

@[simp]
theorem Frame.payload_length (frame : Frame format) :
    frame.payload.length = format.payloadSize frame.header := by
  simp [Frame.payload, payloadSize, frame.body_length,
    frame.trailer_length]

/-- A header and the right number of symbols after it make a frame. -/
def Frame.ofParts
    (header payload : List Symbol)
    (header_length : header.length = format.headerSize)
    (payload_length : payload.length = format.payloadSize header)
    (fits : format.payloadSize header ≤ format.limit) :
    Frame format where
  header := header
  body := payload.take (format.bodySize header)
  trailer := payload.drop (format.bodySize header)
  header_length := header_length
  body_length := by
    simp [payload_length, payloadSize]
  trailer_length := by
    simp [payload_length, payloadSize]
  fits := fits

@[simp]
theorem Frame.symbols_ofParts
    (header payload : List Symbol)
    (header_length : header.length = format.headerSize)
    (payload_length : payload.length = format.payloadSize header)
    (fits : format.payloadSize header ≤ format.limit) :
    (Frame.ofParts header payload
        header_length payload_length fits).symbols =
      header ++ payload := by
  simp [Frame.ofParts, Frame.symbols, Frame.payload]

@[simp]
theorem Frame.message_ofParts
    (header payload : List Symbol)
    (header_length : header.length = format.headerSize)
    (payload_length : payload.length = format.payloadSize header)
    (fits : format.payloadSize header ≤ format.limit) :
    (Frame.ofParts header payload
        header_length payload_length fits).message =
      (format.tag header, payload.take (format.bodySize header)) :=
  rfl

/-- The stream of a list of frames. -/
def encode (frames : List (Frame format)) : List Symbol :=
  frames.flatMap Frame.symbols

@[simp]
theorem encode_nil : encode ([] : List (Frame format)) = [] :=
  rfl

@[simp]
theorem encode_cons
    (frame : Frame format) (frames : List (Frame format)) :
    encode (frame :: frames) = frame.symbols ++ encode frames :=
  rfl

@[simp]
theorem encode_append
    (first second : List (Frame format)) :
    encode (first ++ second) = encode first ++ encode second := by
  simp [encode]

/-! ## The reference decoder -/

/-- Take one frame off the front of a stream. -/
def unframe
    (format : FrameFormat Symbol Tag) (stream : List Symbol) :
    Option ((Tag × List Symbol) × List Symbol) :=
  let header := stream.take format.headerSize
  let rest := stream.drop format.headerSize
  if stream.length < format.headerSize then
    none
  else if format.limit < format.payloadSize header then
    none
  else if rest.length < format.payloadSize header then
    none
  else
    some ((format.tag header, rest.take (format.bodySize header)),
      rest.drop (format.payloadSize header))

theorem unframe_eq_some_iff
    {stream rest : List Symbol} {message : Tag × List Symbol} :
    format.unframe stream = some (message, rest) ↔
      ∃ frame : Frame format,
        stream = frame.symbols ++ rest ∧ message = frame.message := by
  constructor
  · intro taken
    simp only [unframe] at taken
    split at taken
    · simp at taken
    split at taken
    · simp at taken
    split at taken
    · simp at taken
    rename_i headerFits admitted payloadFits
    simp only [Option.some.injEq, Prod.mk.injEq] at taken
    obtain ⟨messageEq, restEq⟩ := taken
    refine
      ⟨Frame.ofParts (stream.take format.headerSize)
          ((stream.drop format.headerSize).take
            (format.payloadSize (stream.take format.headerSize)))
          (by simp; omega) (by simp at payloadFits ⊢; omega)
          (by omega), ?_, ?_⟩
    · rw [Frame.symbols_ofParts, ← restEq, List.append_assoc,
        List.take_append_drop, List.take_append_drop]
    · rw [Frame.message_ofParts, ← messageEq, List.take_take]
      congr 2
      simp [payloadSize]
  · rintro ⟨frame, rfl, rfl⟩
    have headerTaken :
        (frame.symbols ++ rest).take format.headerSize = frame.header := by
      rw [Frame.symbols, List.append_assoc, ← frame.header_length,
        List.take_left]
    have headerDropped :
        (frame.symbols ++ rest).drop format.headerSize =
          frame.payload ++ rest := by
      rw [Frame.symbols, List.append_assoc, ← frame.header_length,
        List.drop_left]
    have headerFits :
        ¬ (frame.symbols ++ rest).length < format.headerSize := by
      simp [Frame.symbols, frame.header_length]
    simp only [unframe, headerTaken, headerDropped, headerFits,
      if_false, Nat.not_lt.mpr frame.fits]
    rw [if_neg (by simp), ← frame.payload_length, List.drop_left]
    rw [Frame.payload, List.append_assoc, ← frame.body_length,
      List.take_left]
    rfl

/-- Every frame is at least as long as its header. -/
theorem Frame.symbols_length_pos (frame : Frame format) :
    0 < frame.symbols.length := by
  have headerPos := format.headerSize_pos
  simp only [Frame.symbols, List.length_append, frame.header_length]
  omega

theorem unframe_shortens
    {stream rest : List Symbol} {message : Tag × List Symbol}
    (taken : format.unframe stream = some (message, rest)) :
    rest.length < stream.length := by
  obtain ⟨frame, rfl, -⟩ := unframe_eq_some_iff.mp taken
  have positive := frame.symbols_length_pos
  simp only [List.length_append]
  omega

/--
The reference decoder: frames are taken off the front until one is
incomplete or too large.
-/
def decode
    (format : FrameFormat Symbol Tag) (stream : List Symbol) :
    List (Tag × List Symbol) :=
  match _taken : format.unframe stream with
  | none => []
  | some (message, rest) => message :: format.decode rest
termination_by stream.length
decreasing_by exact unframe_shortens _taken

theorem decode_of_unframe_some
    {stream rest : List Symbol} {message : Tag × List Symbol}
    (taken : format.unframe stream = some (message, rest)) :
    format.decode stream = message :: format.decode rest := by
  rw [decode]
  split
  · rename_i stops
    simp [stops] at taken
  · rename_i taken'
    rw [taken] at taken'
    simp only [Option.some.injEq, Prod.mk.injEq] at taken'
    obtain ⟨rfl, rfl⟩ := taken'
    rfl

/-- Whole frames are decoded one by one. -/
theorem decode_encode_append
    (frames : List (Frame format)) (rest : List Symbol) :
    format.decode (encode frames ++ rest) =
      frames.map Frame.message ++ format.decode rest := by
  induction frames with
  | nil => simp
  | cons frame frames inductionHypothesis =>
      have taken :
          format.unframe (frame.symbols ++ (encode frames ++ rest)) =
            some (frame.message, encode frames ++ rest) :=
        unframe_eq_some_iff.mpr ⟨frame, rfl, rfl⟩
      rw [encode_cons, List.append_assoc, decode_of_unframe_some taken,
        inductionHypothesis]
      rfl

/-- What has been decoded stays decoded when more of the stream arrives. -/
theorem decode_mono
    {received stream : List Symbol} (arrived : received <+: stream) :
    format.decode received <+: format.decode stream := by
  fun_induction FrameFormat.decode format received
    generalizing stream with
  | case1 received stops => exact List.nil_prefix
  | case2 received message rest taken inductionHypothesis =>
      obtain ⟨frame, rfl, rfl⟩ := unframe_eq_some_iff.mp taken
      obtain ⟨later, rfl⟩ := arrived
      have takenLater :
          format.unframe (frame.symbols ++ rest ++ later) =
            some (frame.message, rest ++ later) :=
        unframe_eq_some_iff.mpr ⟨frame, by simp, rfl⟩
      rw [decode_of_unframe_some takenLater, List.prefix_cons_inj]
      exact inductionHypothesis (List.prefix_append rest later)

/-! ## Other limits -/

/-- The same layout with another limit. -/
def withLimit
    (format : FrameFormat Symbol Tag) (limit : Nat) :
    FrameFormat Symbol Tag :=
  { format with limit := limit }

theorem unframe_withLimit
    {stream rest : List Symbol} {message : Tag × List Symbol} {limit : Nat}
    (taken : format.unframe stream = some (message, rest))
    (short : message.2.length + format.trailerSize ≤ limit) :
    (format.withLimit limit).unframe stream = some (message, rest) := by
  obtain ⟨frame, rfl, rfl⟩ := unframe_eq_some_iff.mp taken
  have fits :
      (format.withLimit limit).payloadSize frame.header ≤ limit := by
    rw [Frame.message, frame.body_length] at short
    exact short
  exact unframe_eq_some_iff.mpr
    ⟨⟨frame.header, frame.body, frame.trailer, frame.header_length,
      frame.body_length, frame.trailer_length, fits⟩, rfl, rfl⟩

/-- Messages that are small enough are decoded under another limit too. -/
theorem isPrefix_decode_withLimit
    {messages : List (Tag × List Symbol)} {stream : List Symbol}
    {limit : Nat}
    (short :
      ∀ message ∈ messages, message.2.length + format.trailerSize ≤ limit)
    (decoded : messages <+: format.decode stream) :
    messages <+: (format.withLimit limit).decode stream := by
  induction messages generalizing stream with
  | nil => exact List.nil_prefix
  | cons message messages inductionHypothesis =>
      rw [List.forall_mem_cons] at short
      cases taken : format.unframe stream with
      | none =>
          rw [decode] at decoded
          split at decoded
          · simp at decoded
          · simp_all
      | some front =>
          obtain ⟨first, rest⟩ := front
          rw [decode_of_unframe_some taken, List.cons_prefix_cons] at decoded
          obtain ⟨rfl, later⟩ := decoded
          rw [decode_of_unframe_some (unframe_withLimit taken short.1),
            List.prefix_cons_inj]
          exact inductionHypothesis short.2 later

end FrameFormat

end LibSklt.Foundation.Framing
