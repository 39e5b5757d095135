import LibSklt.DummyServer.Main

/-!
# The receive loop of one session

`RecvProcess` receives a header, receives a body, and starts again.  This
module states what the two receive operations do in terms of the frame
format of the header object, and runs the loop of a session on a stream that
arrives in pieces.

Neither operation collects: each expects its whole header or body in a
single completion.  With `HEX_CODE=Y` a body also has to fit the log line of
`MakeHexCode`, or the program ends.  The loop therefore delivers a stream of
frames exactly when the stream arrives cut at the frames' headers and bodies
and no body is too long for that line.
-/

namespace LibSklt.Net

open LibSklt.Foundation.Framing
open LibSklt.Foundation.MachineWord
open LibSklt.Foundation.Transition
open LibSklt.Util

variable {H : Type}

/-- What a packet delivers: protocol number and body bytes. -/
def Packet.message (packet : Packet) : UInt16 × List UInt8 :=
  (packet.protocolNo, packet.content)

/-! ## The two receive operations -/

/-- The session has read the header `image` and waits for its body. -/
structure AwaitsBody [Header H] (cfg : Config)
    (format : FrameFormat UInt8 UInt16) (image : List UInt8)
    (session : AsyncSessionImpl H) : Prop where
  whole : image.length = format.headerSize
  fits : format.payloadSize image ≤ format.limit
  noOverflow : format.payloadSize image < 2 ^ cfg.build.sizeBits
  bodySize : Header.getBodySize session.header = format.bodySize image
  enderSize : Header.getEnderSize session.header = format.trailerSize
  protocolNo : Header.getProtocolNo session.header = format.tag image
  requested : session.sizeOfBodyBuffer = format.payloadSize image
  held : 0 < format.payloadSize image → session.bodyBuffer ≠ none

section

variable [Header H] {cfg : Config} {format : FrameFormat UInt8 UInt16}
  {good : H → Prop}

variable (cfg) in
theorem Speaks.good_measured
    (speaks : Speaks format good) {session : AsyncSessionImpl H}
    (isGood : good session.header) (bytes : List UInt8) :
    good (session.measured cfg bytes).header :=
  speaks.good_deserialize _ _ _ isGood

/-- The header object after a whole header image was stored. -/
theorem Speaks.header_measured
    (speaks : Speaks format good) {session : AsyncSessionImpl H}
    (isGood : good session.header) (image : List UInt8) :
    (session.measured cfg image).header =
      (Header.deserialize session.header
        (image ++ (session.headerBuffer.getD []).drop image.length)
        format.headerSize).1 := by
  rw [← speaks.headerSize _ isGood]
  rfl

theorem Speaks.bodySize_measured
    (speaks : Speaks format good) {session : AsyncSessionImpl H}
    (isGood : good session.header) {image : List UInt8}
    (whole : image.length = format.headerSize) :
    Header.getBodySize (session.measured cfg image).header =
      format.bodySize image := by
  rw [speaks.header_measured isGood]
  exact speaks.bodySize _ _ _ isGood whole

/-- The sum of the two sizes, as a `size_t`. -/
theorem Speaks.sizeOfBodyBuffer_measured
    (speaks : Speaks format good) {session : AsyncSessionImpl H}
    (isGood : good session.header) {image : List UInt8}
    (whole : image.length = format.headerSize) :
    (session.measured cfg image).sizeOfBodyBuffer =
      addWord cfg.build.sizeBits (format.bodySize image)
        format.trailerSize := by
  change
    addWord cfg.build.sizeBits
        (Header.getBodySize (session.measured cfg image).header)
        (Header.getEnderSize (session.measured cfg image).header) = _
  rw [speaks.bodySize_measured isGood whole,
    speaks.enderSize _ (speaks.good_measured cfg isGood image)]

/-- What `ReadHeader` makes of a whole header image. -/
theorem Speaks.measured
    (speaks : Speaks format good) {session : AsyncSessionImpl H}
    (isGood : good session.header) {image : List UInt8}
    (whole : image.length = format.headerSize)
    (noOverflow : format.payloadSize image < 2 ^ cfg.build.sizeBits) :
    Header.getBodySize (session.measured cfg image).header =
        format.bodySize image ∧
      Header.getProtocolNo (session.measured cfg image).header =
        format.tag image ∧
      (session.measured cfg image).sizeOfBodyBuffer =
        format.payloadSize image := by
  refine ⟨speaks.bodySize_measured isGood whole, ?_, ?_⟩
  · rw [speaks.header_measured isGood]
    exact speaks.protocolNo _ _ _ isGood whole
  · rw [speaks.sizeOfBodyBuffer_measured isGood whole]
    exact addWord_of_lt noOverflow

/-- A whole header is accepted by the sum as a `size_t`, and no other. -/
theorem Speaks.admits_iff_addWord
    (speaks : Speaks format good)
    {session : AsyncSessionImpl H} (isGood : good session.header)
    (bytes : List UInt8) :
    session.admits cfg (.received bytes) = true ↔
      bytes.length = format.headerSize ∧
        addWord cfg.build.sizeBits (format.bodySize bytes)
            format.trailerSize ≤
          cfg.sessionBufferMax := by
  have valid :=
    speaks.validate _ (speaks.good_measured cfg isGood bytes)
  simp only [AsyncSessionImpl.admits, valid, Bool.and_true,
    Bool.and_eq_true, beq_iff_eq, decide_eq_true_eq,
    speaks.headerSize _ isGood]
  refine and_congr_right fun whole => ?_
  rw [speaks.sizeOfBodyBuffer_measured isGood whole]

/-- A whole header of admitted size is accepted, and no other. -/
theorem Speaks.admits_iff
    (speaks : Speaks format good)
    (limit : format.limit = cfg.sessionBufferMax)
    {session : AsyncSessionImpl H} (isGood : good session.header)
    {bytes : List UInt8}
    (noOverflow :
      bytes.length = format.headerSize →
        format.payloadSize bytes < 2 ^ cfg.build.sizeBits) :
    session.admits cfg (.received bytes) = true ↔
      bytes.length = format.headerSize ∧
        format.payloadSize bytes ≤ format.limit := by
  rw [speaks.admits_iff_addWord isGood, limit]
  refine and_congr_right fun whole => ?_
  rw [addWord_of_lt (noOverflow whole)]
  rfl

/-- After an accepted header the session waits for the announced body. -/
theorem Speaks.awaitsBody
    (speaks : Speaks format good)
    {session : AsyncSessionImpl H} (isGood : good session.header)
    {image : List UInt8}
    (whole : image.length = format.headerSize)
    (fits : format.payloadSize image ≤ format.limit)
    (noOverflow : format.payloadSize image < 2 ^ cfg.build.sizeBits)
    (serial : Nat) :
    AwaitsBody cfg format image
      ((session.measured cfg image).allocateBody serial).session := by
  obtain ⟨bodySize, protocolNo, requested⟩ :=
    speaks.measured isGood whole noOverflow
  have enderSize :=
    speaks.enderSize _ (speaks.good_measured cfg isGood image)
  rw [AsyncSessionImpl.allocateBody]
  split
  case isTrue =>
    exact ⟨whole, fits, noOverflow, bodySize, enderSize, protocolNo,
      requested, by simp⟩
  case isFalse empty =>
    rw [requested] at empty
    exact ⟨whole, fits, noOverflow, bodySize, enderSize, protocolNo,
      requested, fun positive => absurd positive empty⟩

/-- The packet made of a complete body. -/
theorem AwaitsBody.message_packet
    {image : List UInt8} {session : AsyncSessionImpl H}
    (awaits : AwaitsBody cfg format image session)
    (this : Nat) (bytes : List UInt8) :
    (session.packet cfg this bytes).message =
      (format.tag image, bytes.take (format.bodySize image)) := by
  have summand :
      session.sizeOfBodyBuffer =
        addWord cfg.build.sizeBits (format.bodySize image)
          format.trailerSize := by
    rw [awaits.requested]
    exact (addWord_of_lt awaits.noOverflow).symm
  have bounded : format.bodySize image < 2 ^ cfg.build.sizeBits :=
    Nat.lt_of_le_of_lt (Nat.le_add_right _ _) awaits.noOverflow
  simp only [Packet.message, AsyncSessionImpl.packet, awaits.protocolNo,
    awaits.enderSize, summand, subWord_addWord bounded]

/--
Whether `ReadBody` comes past `MakeHexCode` for a frame: with `HEX_CODE=Y` the
line with header and body has to fit the array of the logger.
-/
def FitsHexCode (cfg : Config) {format : FrameFormat UInt8 UInt16}
    (frame : format.Frame) : Prop :=
  cfg.hexCode = true →
    AsyncSessionImpl.hexLength format.headerSize +
          AsyncSessionImpl.hexLength (format.bodySize frame.header) + 21 <
      Logger.kMaxBufferLength

/-- `MakeHexCode` finds a block for the body that the header announced. -/
theorem AwaitsBody.endsInHexCode_iff
    (speaks : Speaks format good) {session : AsyncSessionImpl H}
    (isGood : good session.header) {image : List UInt8}
    (awaits : AwaitsBody cfg format image session) :
    session.endsInHexCode = true ↔
      Logger.kMaxBufferLength ≤
        AsyncSessionImpl.hexLength format.headerSize +
          AsyncSessionImpl.hexLength (format.bodySize image) + 21 := by
  have held :
      (session.bodyBuffer.isNone &&
        decide (0 < format.bodySize image)) = false := by
    rcases Nat.eq_zero_or_pos (format.bodySize image) with
      empty | positive
    · simp [empty]
    · have block :=
        awaits.held (Nat.lt_of_lt_of_le positive (Nat.le_add_right _ _))
      simp [block]
  rw [AsyncSessionImpl.endsInHexCode, awaits.bodySize, held,
    speaks.headerSize _ isGood, Bool.false_or, decide_eq_true_iff]

theorem AwaitsBody.survives_iff
    (speaks : Speaks format good) {session : AsyncSessionImpl H}
    (isGood : good session.header) {frame : format.Frame}
    (awaits : AwaitsBody cfg format frame.header session) :
    (cfg.hexCode && session.endsInHexCode) = false ↔
      FitsHexCode cfg frame := by
  rw [FitsHexCode, ← not_le, ← awaits.endsInHexCode_iff speaks isGood]
  cases cfg.hexCode <;> simp

/-- The frame that a header image and a complete body make up. -/
def AwaitsBody.frame
    {image : List UInt8} {session : AsyncSessionImpl H}
    (awaits : AwaitsBody cfg format image session)
    {bytes : List UInt8}
    (complete : session.sizeOfBodyBuffer = bytes.length) :
    format.Frame :=
  .ofParts image bytes awaits.whole
    (complete.symm.trans awaits.requested) awaits.fits

end

/-! ## The loop -/

/--
A session while it receives: the receive operation that is outstanding, none
after the coroutine or the program ended, and the packets inserted so far.
-/
structure ReceiveLoop (H : Type) where
  session : AsyncSessionImpl H
  stage : Option Stage
  inserted : List Packet

namespace ReceiveLoop

/-- The call of `Recv` after a connection was accepted. -/
def start (session : AsyncSessionImpl H) : ReceiveLoop H where
  session := session.recv
  stage := some .header
  inserted := []

/--
The outstanding receive operation completes with `bytes`: at least one,
unless none was asked for, and at most as many as were asked for.
-/
def receive [Header H] (cfg : Config) (this : Nat) (closeFails : Bool)
    (loop : ReceiveLoop H) (bytes : List UInt8) :
    Option (ReceiveLoop H) :=
  match loop.stage with
  | none => none
  | some stage =>
      if bytes.length ≤ loop.session.requested stage ∧
          (0 < bytes.length ∨ loop.session.requested stage = 0) then
        match
          loop.session.recvProcess cfg this loop.inserted.length closeFails
            stage (.received bytes) with
        | none => some { loop with stage := none }
        | some (outcome, next) =>
            some
              { session := outcome.session
                stage := next
                inserted := loop.inserted ++ outcome.inserted }
      else
        none

/-- What the packets of the loop deliver. -/
def messages (loop : ReceiveLoop H) : List (UInt16 × List UInt8) :=
  loop.inserted.map Packet.message

end ReceiveLoop

/-- The split of a stream at the headers and bodies of its frames. -/
def aligned {format : FrameFormat UInt8 UInt16}
    (frames : List format.Frame) : List (List UInt8) :=
  frames.flatMap fun frame => [frame.header, frame.payload]

section

variable {format : FrameFormat UInt8 UInt16}

@[simp]
theorem aligned_cons (frame : format.Frame) (frames : List format.Frame) :
    aligned (frame :: frames) =
      frame.header :: frame.payload :: aligned frames :=
  rfl

@[simp]
theorem aligned_append (first second : List format.Frame) :
    aligned (first ++ second) = aligned first ++ aligned second := by
  simp [aligned]

@[simp]
theorem flatten_aligned (frames : List format.Frame) :
    (aligned frames).flatten = FrameFormat.encode frames := by
  induction frames with
  | nil => rfl
  | cons frame frames inductionHypothesis =>
      simp [inductionHypothesis, FrameFormat.Frame.symbols]

/-! ## One completion -/

variable [Header H] {cfg : Config} {good : H → Prop}
  {this : Nat} {closeFails : Bool} {bytes : List UInt8}
  {loop next : ReceiveLoop H}

/-- A completion of the header operation. -/
theorem ReceiveLoop.receive_header
    (stage : loop.stage = some .header)
    (taken : loop.receive cfg this closeFails bytes = some next) :
    (bytes.length ≤ Header.getHeaderSize loop.session.header ∧
        (0 < bytes.length ∨
          Header.getHeaderSize loop.session.header = 0)) ∧
      ((loop.session.admits cfg (.received bytes) = false ∧
          next.stage = none ∧ next.messages = loop.messages) ∨
        (loop.session.admits cfg (.received bytes) = true ∧
          next.stage = some .body ∧ next.messages = loop.messages ∧
          next.session =
            ((loop.session.measured cfg bytes).allocateBody
              loop.inserted.length).session)) := by
  simp only [receive, stage] at taken
  split at taken
  case isFalse => simp at taken
  case isTrue admissible =>
    refine ⟨admissible, ?_⟩
    rcases loop.session.readHeader_cases cfg loop.inserted.length closeFails
        (.received bytes) with
      ⟨session, givesUp, equal⟩ | ⟨bytes', same, admitted, equal⟩
    · rw [AsyncSessionImpl.recvProcess, equal, Option.some.injEq] at taken
      subst next
      refine Or.inl ⟨givesUp.refused, rfl, ?_⟩
      have nothing :=
        (AsyncSessionImpl.abandon_closing givesUp.same closeFails).inserted
      simp [messages, nothing]
    · cases same
      have accepting :=
        AsyncSessionImpl.allocateBody_accepting loop.inserted.length
          (loop.session.measured cfg bytes)
      rw [AsyncSessionImpl.recvProcess, equal, accepting.result, if_pos rfl,
        Option.some.injEq] at taken
      subst next
      refine Or.inr ⟨admitted, rfl, ?_, rfl⟩
      simp [messages, accepting.inserted]

/--
A completion of the body operation: the loop ends, with the program or with
its session closed, or hands a complete body over.
-/
theorem ReceiveLoop.receive_body
    (stage : loop.stage = some .body)
    (endmarker :
      Header.checkEndmarker loop.session.header bytes bytes.length = true)
    (taken : loop.receive cfg this closeFails bytes = some next) :
    bytes.length ≤ loop.session.sizeOfBodyBuffer ∧
      ((((cfg.hexCode && loop.session.endsInHexCode) = true ∨
            loop.session.sizeOfBodyBuffer ≠ bytes.length) ∧
          next.stage = none ∧ next.messages = loop.messages) ∨
        ((cfg.hexCode && loop.session.endsInHexCode) = false ∧
          loop.session.sizeOfBodyBuffer = bytes.length ∧
          next.stage = some .header ∧
          next.session = { loop.session with bodyBuffer := none } ∧
          next.messages =
            loop.messages ++
              [(loop.session.packet cfg this bytes).message])) := by
  simp only [receive, stage] at taken
  split at taken
  case isFalse => simp at taken
  case isTrue admissible =>
    refine ⟨admissible.1, ?_⟩
    cases logged : cfg.hexCode && loop.session.endsInHexCode with
    | true =>
        simp only [AsyncSessionImpl.recvProcess, AsyncSessionImpl.readBody,
          logged, if_true, Option.map_none, Option.some.injEq] at taken
        subst next
        exact Or.inl ⟨Or.inl rfl, rfl, rfl⟩
    | false =>
        simp only [AsyncSessionImpl.recvProcess, AsyncSessionImpl.readBody,
          logged, Bool.false_eq_true, if_false, Option.map_some,
          Option.some.injEq] at taken
        subst next
        rcases loop.session.checkBody_cases cfg this closeFails
            (.received bytes) with
          ⟨partly, equal⟩ | ⟨bytes', same, complete, equal⟩
        · simp only [AsyncSessionImpl.completes, endmarker, Bool.true_and,
            beq_eq_false_iff_ne] at partly
          have nothing :=
            (AsyncSessionImpl.abandon_closing
              (⟨rfl, rfl, rfl, rfl⟩ :
                AsyncSessionImpl.SameCustody loop.session loop.session)
              closeFails).inserted
          refine Or.inl ⟨Or.inr partly, ?_, ?_⟩
          · simp [equal, AsyncSessionImpl.abandon]
          · simp [messages, equal, nothing]
        · cases same
          refine Or.inr ⟨rfl, AsyncSessionImpl.whole_of_completes complete,
            ?_, ?_, ?_⟩
          · simp [equal, AsyncSessionImpl.handOver]
          · simp [equal, AsyncSessionImpl.handOver]
          · simp [messages, equal, AsyncSessionImpl.handOver]

/-! ## The loop on a stream of frames -/

/-- Where the loop is after it received `chunks` of a stream of frames. -/
inductive Progress (cfg : Config) (good : H → Prop)
    (frames : List format.Frame) (loop : ReceiveLoop H) :
    List (List UInt8) → Prop where
  | atHeader (finished todo : List format.Frame)
      (split : frames = finished ++ todo)
      (stage : loop.stage = some .header)
      (isGood : good loop.session.header)
      (isOpen : loop.session.tcpSocket.isOpen = true)
      (messages :
        loop.messages = finished.map FrameFormat.Frame.message)
      (fits : ∀ frame ∈ finished, FitsHexCode cfg frame) :
      Progress cfg good frames loop (aligned finished)
  | atBody (finished : List format.Frame) (frame : format.Frame)
      (todo : List format.Frame)
      (split : frames = finished ++ frame :: todo)
      (stage : loop.stage = some .body)
      (isGood : good loop.session.header)
      (isOpen : loop.session.tcpSocket.isOpen = true)
      (awaits : AwaitsBody cfg format frame.header loop.session)
      (messages :
        loop.messages = finished.map FrameFormat.Frame.message)
      (fits : ∀ frame ∈ finished, FitsHexCode cfg frame) :
      Progress cfg good frames loop (aligned finished ++ [frame.header])
  | stopped (finished : List format.Frame) (frame : format.Frame)
      (todo : List format.Frame) (chunks : List (List UInt8))
      (split : frames = finished ++ frame :: todo)
      (stage : loop.stage = none)
      (messages :
        loop.messages = finished.map FrameFormat.Frame.message)
      (refused :
        ¬ (chunks = aligned frames ∧
          ∀ frame ∈ frames, FitsHexCode cfg frame)) :
      Progress cfg good frames loop chunks

/-- A piece of the stream as long as its next part is that part. -/
theorem eq_of_isPrefix_of_length
    {piece part rest : List UInt8}
    (arrived : piece <+: part ++ rest)
    (length : piece.length = part.length) :
    piece = part := by
  have both :=
    List.prefix_of_prefix_length_le arrived (List.prefix_append part rest)
      (Nat.le_of_eq length)
  exact both.eq_of_length length

/-- What the loop received so far and the next piece, against the stream. -/
theorem isPrefix_todo
    {frames finished todo : List format.Frame}
    (sent : List UInt8) {bytes : List UInt8}
    (split : frames = finished ++ todo)
    (arrived :
      (aligned finished).flatten ++ (sent ++ bytes) <+:
        FrameFormat.encode frames) :
    sent ++ bytes <+: FrameFormat.encode todo := by
  rw [split, FrameFormat.encode_append, flatten_aligned] at arrived
  exact (List.prefix_append_right_inj _).mp arrived

/-- The next piece while the loop waits for a header. -/
theorem progress_header
    (speaks : Speaks format good)
    (limit : format.limit = cfg.sessionBufferMax)
    (word : cfg.sessionBufferMax < 2 ^ cfg.build.sizeBits)
    {frames finished todo : List format.Frame}
    (split : frames = finished ++ todo)
    (stage : loop.stage = some .header)
    (isGood : good loop.session.header)
    (isOpen : loop.session.tcpSocket.isOpen = true)
    (messages : loop.messages = finished.map FrameFormat.Frame.message)
    (fits : ∀ frame ∈ finished, FitsHexCode cfg frame)
    (arrived : bytes <+: FrameFormat.encode todo)
    (taken : loop.receive cfg this closeFails bytes = some next) :
    Progress cfg good frames next (aligned finished ++ [bytes]) := by
  obtain ⟨⟨bounded, nonempty⟩, outcome⟩ :=
    ReceiveLoop.receive_header stage taken
  rw [speaks.headerSize _ isGood] at bounded nonempty
  have positive := format.headerSize_pos
  cases todo with
  | nil =>
      have nothing := List.prefix_nil.mp arrived
      simp only [nothing, List.length_nil] at nonempty
      omega
  | cons frame todo =>
      rw [FrameFormat.encode_cons, FrameFormat.Frame.symbols,
        List.append_assoc] at arrived
      have noOverflow :
          format.payloadSize frame.header < 2 ^ cfg.build.sizeBits := by
        have fits := frame.fits
        omega
      by_cases whole : bytes.length = format.headerSize
      · have image : bytes = frame.header :=
          eq_of_isPrefix_of_length arrived
            (whole.trans frame.header_length.symm)
        subst bytes
        have accepted :=
          (speaks.admits_iff limit isGood fun _ => noOverflow).mpr
            ⟨whole, frame.fits⟩
        rcases outcome with
          ⟨refused, -⟩ | ⟨-, stage', messages', session⟩
        · rw [accepted] at refused
          simp at refused
        · have awaits :=
            speaks.awaitsBody isGood whole frame.fits
              noOverflow loop.inserted.length
          have accepting := AsyncSessionImpl.allocateBody_accepting
            loop.inserted.length (loop.session.measured cfg frame.header)
          rw [← session] at awaits
          refine .atBody finished frame todo split stage' ?_ ?_ awaits
            (messages'.trans messages) fits
          · rw [session, accepting.header]
            exact speaks.good_measured cfg isGood frame.header
          · rw [session, accepting.tcpSocket]
            exact isOpen
      · rcases outcome with ⟨-, stage', messages'⟩ | ⟨accepted, -⟩
        · refine .stopped finished frame todo _ split stage'
            (messages'.trans messages) ?_
          rintro ⟨same, -⟩
          rw [split, aligned_append, aligned_cons,
            List.append_cancel_left_eq] at same
          simp at same
        · exact absurd (AsyncSessionImpl.whole_of_admits accepted)
            (by rwa [speaks.headerSize _ isGood])

/-- The next piece while the loop waits for a body. -/
theorem progress_body
    (speaks : Speaks format good)
    {frames finished todo : List format.Frame} {frame : format.Frame}
    (split : frames = finished ++ frame :: todo)
    (stage : loop.stage = some .body)
    (isGood : good loop.session.header)
    (isOpen : loop.session.tcpSocket.isOpen = true)
    (awaits : AwaitsBody cfg format frame.header loop.session)
    (messages : loop.messages = finished.map FrameFormat.Frame.message)
    (fits : ∀ frame ∈ finished, FitsHexCode cfg frame)
    (arrived :
      frame.header ++ bytes <+: FrameFormat.encode (frame :: todo))
    (taken : loop.receive cfg this closeFails bytes = some next) :
    Progress cfg good frames next
      (aligned finished ++ [frame.header] ++ [bytes]) := by
  have endmarker :=
    speaks.checkEndmarker _ bytes bytes.length isGood
  obtain ⟨-, outcome⟩ := ReceiveLoop.receive_body stage endmarker taken
  rw [FrameFormat.encode_cons, FrameFormat.Frame.symbols,
    List.append_assoc, List.prefix_append_right_inj] at arrived
  rcases outcome with
    ⟨ended, stage', messages'⟩ |
    ⟨survives, complete, stage', session, messages'⟩
  · refine .stopped finished frame todo _ split stage'
      (messages'.trans messages) ?_
    rintro ⟨same, fits'⟩
    have survives :=
      (awaits.survives_iff speaks isGood).mpr (fits' frame (by simp [split]))
    rw [survives] at ended
    rcases ended with logged | partly
    · simp at logged
    · rw [split, aligned_append, aligned_cons, List.append_assoc,
        List.append_cancel_left_eq] at same
      simp only [List.cons_append, List.nil_append, List.cons.injEq,
        true_and] at same
      refine partly ?_
      rw [awaits.requested, same.1, frame.payload_length]
  · have payload : bytes = frame.payload := by
      refine eq_of_isPrefix_of_length arrived ?_
      rw [← complete, awaits.requested, frame.payload_length]
    subst bytes
    have extended :
        aligned finished ++ [frame.header] ++ [frame.payload] =
          aligned (finished ++ [frame]) := by
      simp [aligned]
    rw [extended]
    refine .atHeader (finished ++ [frame]) todo (by simp [split]) stage'
      ?_ ?_ ?_ ?_
    · rw [session]
      exact isGood
    · rw [session]
      exact isOpen
    · have delivered :
          frame.payload.take (format.bodySize frame.header) =
            frame.body := by
        rw [FrameFormat.Frame.payload, ← frame.body_length,
          List.take_left]
      rw [messages', messages, awaits.message_packet, delivered,
        List.map_append]
      rfl
    · intro other member
      rcases List.mem_append.mp member with earlier | last
      · exact fits other earlier
      · obtain rfl := List.mem_singleton.mp last
        exact (awaits.survives_iff speaks isGood).mp survives

/-- What a run of the loop on a stream of frames comes to. -/
theorem progress_of_run
    (speaks : Speaks format good)
    (limit : format.limit = cfg.sessionBufferMax)
    (word : cfg.sessionBufferMax < 2 ^ cfg.build.sizeBits)
    {session : AsyncSessionImpl H} (isGood : good session.header)
    (isOpen : session.tcpSocket.isOpen = true)
    {frames : List format.Frame} {chunks : List (List UInt8)}
    (run :
      Run (ReceiveLoop.receive cfg this closeFails)
        (ReceiveLoop.start session) chunks loop)
    (split : chunks.flatten <+: FrameFormat.encode frames) :
    Progress cfg good frames loop chunks := by
  induction run with
  | start =>
      exact .atHeader [] frames rfl rfl isGood isOpen rfl (by simp)
  | @snoc chunks before after bytes _ _ taken inductionHypothesis =>
      rw [List.flatten_append, List.flatten_singleton] at split
      have earlier :=
        inductionHypothesis ((List.prefix_append _ _).trans split)
      cases earlier with
      | atHeader finished todo parts stage isGood' isOpen' messages fits =>
          exact progress_header speaks limit word parts stage isGood'
            isOpen' messages fits (isPrefix_todo [] parts split) taken
      | atBody finished frame todo parts stage isGood' isOpen' awaits
          messages fits =>
          rw [List.flatten_append, List.flatten_singleton,
            List.append_assoc] at split
          exact progress_body speaks parts stage isGood' isOpen' awaits
            messages fits (isPrefix_todo frame.header parts split) taken
      | stopped finished frame todo _ _ stage =>
          simp [ReceiveLoop.receive, stage] at taken

/--
A loop that received all it can get delivered the frames, and keeps its
session open, exactly when every header and every body came in one piece
and no body is too long for the log.
-/
theorem Progress.delivers_iff
    {frames : List format.Frame} {chunks : List (List UInt8)}
    (progress : Progress cfg good frames loop chunks)
    (maximal :
      loop.stage = none ∨
        chunks.flatten = FrameFormat.encode frames) :
    (loop.messages = frames.map FrameFormat.Frame.message ∧
        loop.session.tcpSocket.isOpen = true) ↔
      chunks = aligned frames ∧
        ∀ frame ∈ frames, FitsHexCode cfg frame := by
  cases progress with
  | atHeader finished todo split stage _ isOpen messages fits =>
      have nothingLeft : todo = [] := by
        rcases maximal with ended | all
        · simp [stage] at ended
        · rw [flatten_aligned, split, FrameFormat.encode_append,
            List.self_eq_append_right] at all
          cases todo with
          | nil => rfl
          | cons frame todo =>
              have positive := frame.symbols_length_pos
              rw [FrameFormat.encode_cons, List.append_eq_nil_iff] at all
              simp [all.1] at positive
      rw [split, nothingLeft, List.append_nil]
      exact iff_of_true ⟨messages, isOpen⟩ ⟨rfl, fits⟩
  | atBody finished frame todo split _ _ _ _ messages =>
      refine iff_of_false ?_ ?_
      · rintro ⟨all, -⟩
        have lengths := congrArg List.length (messages.symm.trans all)
        simp [split] at lengths
      · rintro ⟨same, -⟩
        have lengths := congrArg List.length same
        simp [split] at lengths
  | stopped finished frame todo _ split _ messages refused =>
      refine iff_of_false ?_ refused
      rintro ⟨all, -⟩
      have lengths := congrArg List.length (messages.symm.trans all)
      simp [split] at lengths

end

/-- The longest body whose line still fits, after the 33 bytes of a header. -/
def hexCodeLimit : Nat :=
  301

theorem fitsHexCode_iff
    {cfg : Config} {limit : Nat}
    (frame : (DummyServer.wireFormat cfg.build limit).Frame) :
    FitsHexCode cfg frame ↔
      (cfg.hexCode = true → frame.body.length ≤ hexCodeLimit) := by
  refine imp_congr_right fun _ => ?_
  rw [← frame.body_length]
  simp only [AsyncSessionImpl.hexLength, DummyServer.wireFormat,
    DummyServer.sizeOfSdHeader, Logger.kMaxBufferLength, hexCodeLimit]
  omega

/--
The receive loop of the server delivers a stream of frames, whatever its
session served before, exactly when each header and each body with its ender
arrives in a single completion and, with `HEX_CODE=Y`, no body is longer than
301 bytes.
-/
theorem receiveLoop_delivers_iff
    {cfg : Config} (wide : 6 ≤ cfg.build.sizeBits)
    (word : cfg.sessionBufferMax < 2 ^ cfg.build.sizeBits)
    {session : AsyncSessionImpl (DummyServer.HeaderCct cfg.build)}
    (sized : session.header.Sized)
    (isOpen : session.tcpSocket.isOpen = true)
    (this : Nat) (closeFails : Bool)
    (frames :
      List (DummyServer.wireFormat cfg.build cfg.sessionBufferMax).Frame)
    {chunks : List (List UInt8)}
    {loop : ReceiveLoop (DummyServer.HeaderCct cfg.build)}
    (run :
      Run (ReceiveLoop.receive cfg this closeFails)
        (ReceiveLoop.start session) chunks loop)
    (split : chunks.flatten <+: FrameFormat.encode frames)
    (maximal :
      loop.stage = none ∨
        chunks.flatten = FrameFormat.encode frames) :
    (loop.messages = frames.map FrameFormat.Frame.message ∧
        loop.session.tcpSocket.isOpen = true) ↔
      chunks = aligned frames ∧
        (cfg.hexCode = true →
          ∀ frame ∈ frames, frame.body.length ≤ hexCodeLimit) := by
  have progress :=
    progress_of_run
      (DummyServer.headerCct_speaks wide cfg.sessionBufferMax) rfl word
      sized isOpen run split
  rw [progress.delivers_iff maximal]
  refine and_congr_right fun _ => ?_
  simp only [fitsHexCode_iff]
  exact ⟨fun fits logs frame member => fits frame member logs,
    fun fits frame member logs => fits logs frame member⟩

/-- A message of one byte, as a frame of the wire. -/
def oneByteFrame :
    (DummyServer.wireFormat DummyServer.libraryBuild 32768).Frame :=
  .ofParts (DummyServer.headerImage 1) (DummyServer.bodyImage 1)
    (by decide) (by decide) (by decide)

/-- A session of the server with a connection. -/
def connectedSession :
    AsyncSessionImpl (DummyServer.HeaderCct DummyServer.libraryBuild) :=
  { AsyncSessionImpl.make DummyServer.HeaderCct.make 0 with
    tcpSocket := ⟨true, 1⟩ }

theorem receiveLoop_delivers_iff_one_byte :
    ∃ loop,
      Run (ReceiveLoop.receive (DummyServer.configureIni 2) 0 false)
          (ReceiveLoop.start connectedSession) (aligned [oneByteFrame])
          loop ∧
        loop.messages = [oneByteFrame].map FrameFormat.Frame.message ∧
        loop.session.tcpSocket.isOpen = true := by
  have executed :
      (execWhere
        (ReceiveLoop.receive (DummyServer.configureIni 2) 0 false)
        (fun _ _ => True) (ReceiveLoop.start connectedSession)
        (aligned [oneByteFrame])).isSome = true := by
    decide
  obtain ⟨loop, run⟩ := exists_runWhere_of_exec executed
  refine ⟨loop, run, ?_⟩
  have whole := flatten_aligned [oneByteFrame]
  exact (@receiveLoop_delivers_iff (DummyServer.configureIni 2)
    (by decide) (by decide) connectedSession
    DummyServer.HeaderCct.make_sized rfl 0 false [oneByteFrame] _ _ run
    (whole ▸ List.prefix_rfl) (Or.inr whole)).mpr ⟨rfl, by decide⟩

/-- A first piece of one byte makes the loop close its session. -/
theorem receiveLoop_stops_after_one_byte :
    ∃ loop,
      Run (ReceiveLoop.receive (DummyServer.configureIni 2) 0 false)
          (ReceiveLoop.start connectedSession)
          [(DummyServer.headerImage 1).take 1] loop ∧
        [(DummyServer.headerImage 1).take 1].flatten <+:
          FrameFormat.encode [oneByteFrame] ∧
        loop.stage = none ∧
        loop.session.tcpSocket.isOpen = false ∧
        loop.messages ≠ [oneByteFrame].map FrameFormat.Frame.message := by
  have executed :
      (execWhere
        (ReceiveLoop.receive (DummyServer.configureIni 2) 0 false)
        (fun _ _ => True) (ReceiveLoop.start connectedSession)
        [(DummyServer.headerImage 1).take 1]).map
          (fun loop =>
            (loop.stage, loop.session.tcpSocket.isOpen,
              loop.messages)) =
        some (none, false, []) := by
    decide
  obtain ⟨loop, run, values⟩ := exists_runWhere_of_map_exec executed
  simp only [Prod.mk.injEq] at values
  obtain ⟨stage, closed, messages⟩ := values
  refine ⟨loop, run, by decide, stage, closed, ?_⟩
  simp [messages]

end LibSklt.Net
