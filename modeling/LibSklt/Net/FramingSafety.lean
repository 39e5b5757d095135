import LibSklt.Net.ReceiveLoop
import LibSklt.Net.ReceiveOperations

/-!
# What a connection delivers

A peer may send anything, in any pieces, and receive operations may fail at
any point.  Whatever the interleaving with other connections, earlier users
of the session and late completions, the packets of a connection are the
first messages that the reference decoder finds in what the peer sent.
-/

namespace LibSklt.Net

open LibSklt.Foundation.Framing
open LibSklt.Foundation.Transition

variable {H : Type} [Header H] {cfg : Config}
  {format : FrameFormat UInt8 UInt16} {good : H → Prop}

/-! ## The invariant -/

/-- The messages of the packets that a connection delivered. -/
def Server.messages (server : Server H) (connection : Nat) :
    List (UInt16 × List UInt8) :=
  (server.delivered connection).map Packet.message

/--
A current operation waits at a frame boundary, or behind the header of a
frame that is not complete yet.
-/
def InStep (cfg : Config) (format : FrameFormat UInt8 UInt16)
    (server : Server H) (receive : Receive) : Prop :=
  ∃ frames : List format.Frame,
    server.messages receive.connection =
        frames.map FrameFormat.Frame.message ∧
      match receive.stage with
      | .header =>
          server.received receive.connection = FrameFormat.encode frames
      | .body =>
          ∃ image,
            server.received receive.connection =
                FrameFormat.encode frames ++ image ∧
              AwaitsBody cfg format image
                (server.sessions receive.session)

/-- All receive loops agree with the reference decoder. -/
structure Faithful (cfg : Config) (format : FrameFormat UInt8 UInt16)
    (good : H → Prop) (server : Server H) : Prop where
  headers : ∀ session, good (server.sessions session).header
  inStep :
    ∀ receive, server.Current receive → InStep cfg format server receive
  decoded :
    ∀ connection,
      server.messages connection <+:
        format.decode (server.received connection)

/-! ## Current operations -/

/-- A session that waits for a body waits for it in any equal receiver. -/
theorem AwaitsBody.sameReceiver
    {image : List UInt8} {before after : AsyncSessionImpl H}
    (awaits : AwaitsBody cfg format image before)
    (same : AsyncSessionImpl.SameReceiver before after) :
    AwaitsBody cfg format image after where
  whole := awaits.whole
  fits := awaits.fits
  noOverflow := awaits.noOverflow
  bodySize := by rw [same.header, awaits.bodySize]
  enderSize := by rw [same.header, awaits.enderSize]
  protocolNo := by rw [same.header, awaits.protocolNo]
  requested := by rw [same.sizeOfBodyBuffer, awaits.requested]
  held := by
    rw [same.bodyBuffer]
    exact awaits.held

/-- A complete body makes the frame whose header was read before. -/
theorem InStep.frames_body
    {server : Server H} {receive : Receive} {bytes : List UInt8}
    (inStep : InStep cfg format server receive)
    (stage : receive.stage = .body)
    (complete :
      (server.sessions receive.session).sizeOfBodyBuffer =
        bytes.length) :
    ∃ frames : List format.Frame,
      server.received receive.connection ++ bytes =
          FrameFormat.encode frames ∧
        server.messages receive.connection ++
            [((server.sessions receive.session).packet cfg
              receive.session bytes).message] =
          frames.map FrameFormat.Frame.message := by
  obtain ⟨frames, messages, position⟩ := inStep
  rw [stage] at position
  obtain ⟨image, received, awaits⟩ := position
  refine ⟨frames ++ [awaits.frame complete], ?_, ?_⟩
  · simp [received, AwaitsBody.frame]
  · rw [messages, awaits.message_packet]
    simp [AwaitsBody.frame]

theorem Continued.inStep
    {before after : Server H} {receive : Receive}
    (speaks : Speaks format good)
    (limit : format.limit = cfg.sessionBufferMax)
    (noOverflow :
      ∀ image, format.payloadSize image < 2 ^ cfg.build.sizeBits)
    (numbered : Numbered before)
    (faithful : Faithful cfg format good before)
    (continued : Continued cfg before after receive) :
    InStep cfg format after receive := by
  cases continued with
  | untouched current same received delivered =>
      obtain ⟨frames, messages, position⟩ :=
        faithful.inStep receive current
      refine ⟨frames, ?_, ?_⟩
      · rw [Server.messages, delivered]
        exact messages
      · rw [received]
        cases stage : receive.stage with
        | header =>
            rw [stage] at position
            exact position
        | body =>
            rw [stage] at position
            obtain ⟨image, split, awaits⟩ := position
            exact ⟨image, split, awaits.sameReceiver same⟩
  | accepted stage fresh received delivered =>
      have unused : before.accepted < receive.connection := by omega
      refine ⟨[], ?_, ?_⟩
      · rw [Server.messages, delivered,
          numbered.delivered _ unused]
        rfl
      · rw [stage, received, numbered.received _ unused]
        rfl
  | headerRead old bytes current stages same admitted session received
      delivered =>
      obtain ⟨frames, messages, position⟩ := faithful.inStep old current
      rw [stages.1] at position
      have isGood := faithful.headers old.session
      obtain ⟨whole, fits⟩ :=
        (speaks.admits_iff limit isGood fun _ => noOverflow bytes).mp
          admitted
      refine ⟨frames, ?_, ?_⟩
      · rw [Server.messages, delivered]
        exact messages
      · rw [stages.2]
        refine ⟨bytes, ?_, ?_⟩
        · rw [received, position]
        · rw [session]
          exact speaks.awaitsBody isGood whole fits (noOverflow bytes)
            before.ledger.length
  | bodyRead old bytes current stages same complete received delivered =>
      obtain ⟨frames, split, messages⟩ :=
        (faithful.inStep old current).frames_body stages.1 complete
      refine ⟨frames, ?_, ?_⟩
      · rw [← messages, Server.messages, delivered, List.map_append]
        rfl
      · rw [stages.2]
        exact received.trans split

/-! ## Delivered messages -/

theorem Streamed.decoded
    {before after : Server H} {connection : Nat}
    (faithful : Faithful cfg format good before)
    (streamed : Streamed cfg before after connection) :
    after.messages connection <+:
      format.decode (after.received connection) := by
  have known := faithful.decoded connection
  cases streamed with
  | unchanged received delivered =>
      rw [Server.messages, delivered, received]
      exact known
  | extended old bytes _ _ received delivered =>
      rw [Server.messages, delivered, received]
      exact known.trans
        (FrameFormat.decode_mono (List.prefix_append _ _))
  | delivered old bytes current number stage complete received delivered =>
      obtain ⟨frames, split, messages⟩ :=
        (faithful.inStep old current).frames_body stage complete
      rw [number] at split messages
      have all : after.messages connection =
          frames.map FrameFormat.Frame.message := by
        rw [← messages, Server.messages, delivered, List.map_append]
        rfl
      have decoding :=
        FrameFormat.decode_encode_append frames []
      rw [List.append_nil] at decoding
      rw [all, received, split, decoding]
      exact List.prefix_append _ _

theorem Faithful.stepped
    {before after : Server H} {event : Event}
    (speaks : Speaks format good)
    (limit : format.limit = cfg.sessionBufferMax)
    (noOverflow :
      ∀ image, format.payloadSize image < 2 ^ cfg.build.sizeBits)
    (numbered : Numbered before)
    (faithful : Faithful cfg format good before)
    (stepped : Stepped cfg before event after) :
    Faithful cfg format good after where
  headers := stepped.headers speaks.good_deserialize faithful.headers
  inStep _ current :=
    (stepped.continued numbered current).inStep speaks limit noOverflow
      numbered faithful
  decoded connection := (stepped.streamed connection).decoded faithful

theorem start_faithful
    {header : H} (isGood : good header) (cfg : Config)
    (format : FrameFormat UInt8 UInt16) :
    Faithful cfg format good (Server.start cfg header) := by
  have fresh := Server.start_fresh cfg header
  constructor
  · intro session
    rw [start_sessions]
    exact isGood
  · intro receive current
    have member := current.1
    simp [fresh.receives] at member
  · intro connection
    have none :
        (Server.start cfg header).messages connection = [] := by
      simp [Server.messages, Server.delivered, fresh.inserted]
    rw [none]
    exact List.nil_prefix

/-- Every run keeps the receive loops in agreement with the decoder. -/
theorem faithful
    (speaks : Speaks format good)
    (limit : format.limit = cfg.sessionBufferMax)
    (noOverflow :
      ∀ image, format.payloadSize image < 2 ^ cfg.build.sizeBits)
    {header : H} (isGood : good header)
    {events : List Event} {server : Server H}
    (run : Run (step cfg) (Server.start cfg header) events server) :
    Faithful cfg format good server := by
  refine RunWhere.invariant Numbered (Faithful cfg format good)
    numbered (start_faithful isGood cfg format) ?_ run
  intro before event after known held _ taken
  exact held.stepped speaks limit noOverflow known (stepped_of_step taken)

/-! ## The server's wire format -/

/--
The second client of a session that was closed in the middle of a body: one
message arrives, and a header that announces too much ends the connection.
-/
def hostileEvents : List Event :=
  [.acceptDone false,
    .receiveDone 0 (.received (DummyServer.headerImage 1)) false,
    .receiveDone 0 .failed false, .acceptDone false,
    .receiveDone 0 .failed false, .acceptDone false,
    .receiveDone 0 (.received (DummyServer.headerImage 1)) false,
    .receiveDone 0 (.received (DummyServer.bodyImage 1)) false,
    .receiveDone 0 (.received (List.replicate 33 255)) false]

end LibSklt.Net
