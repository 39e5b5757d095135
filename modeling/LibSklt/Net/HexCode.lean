import LibSklt.Foundation.Hex
import LibSklt.Foundation.Separated
import LibSklt.Net.FramingSafety
import LibSklt.Net.PacketPipeline
import LibSklt.Util.Logger
import Mathlib.Data.List.TakeWhile

/-!
# The bytes in the log (`AsyncSessionImpl::MakeHexCode`)

With `HEX_CODE=Y`, as in `bin/Configure.ini`, `ReadBody` begins with a line
of the logger that has all bytes of the header and of the body in it.  For
the 33 bytes of the server's header the array of the logger has room for a
body of 301 bytes.  A longer body ends the program, though
`SESSION_BUFFER_MAX` admits it.
-/

namespace LibSklt.Net

open LibSklt.Foundation.Framing
open LibSklt.Foundation.Hex
open LibSklt.Foundation.Printf
open LibSklt.Foundation.Separated
open LibSklt.Foundation.Transition
open LibSklt.Util
open LibSklt.Util.Logger

variable {H : Type}

/-- The bytes as two digits each, with blanks between them. -/
def hexDigits (bytes : List UInt8) : List UInt8 :=
  [32].intercalate (bytes.map fun byte => hexText 2 byte.toNat)

namespace AsyncSessionImpl

/-- The text in `hexCode`, for the contents of `m_szBodyBuffer`. -/
def hexCode [Header H] (self : AsyncSessionImpl H) (body : Nat → UInt8) :
    List UInt8 :=
  hexDigits
      ((List.range (Header.getHeaderSize self.header)).map fun idx =>
        (self.headerBuffer.getD []).getD idx 0) ++
    124 :: hexDigits ((List.range (Header.getBodySize self.header)).map body)

/--
`MakeHexCode`, as the call of the logger; `enabled` says whether
`CONFIGURE.HEX_CODE` is `Y`.  A null pointer may be read only by a loop
without rounds.
-/
def logHexCode [Header H] (enabled : Bool) (self : AsyncSessionImpl H)
    (body : Nat → UInt8) : Option Logged :=
  if !enabled then
    none
  else if self.bodyBuffer = none ∧ 0 < Header.getBodySize self.header then
    some .undefined
  else
    some (Logger.trace "[PACKET HEX CODE] [%s]"
      [.chars (self.hexCode body ++ [0])])

end AsyncSessionImpl

/--
The line of the logger in a step: `ReadBody` calls `MakeHexCode` for every
completion.  Behind the bytes that arrived, the block has its old contents.
-/
def Server.hexCodeLog [Header H] (enabled : Bool) (stale : Nat → UInt8)
    (server : Server H) : Event → Option Logged
  | .receiveDone index completion _ =>
      match server.receives[index]? with
      | none => none
      | some receive =>
          match receive.stage with
          | .header => none
          | .body =>
              (server.sessions receive.session).logHexCode enabled fun idx =>
                (transferred completion).getD idx (stale idx)
  | _ => none

/-! ## The length of the line -/

theorem length_hexDigits (bytes : List UInt8) :
    (hexDigits bytes).length = 2 * bytes.length + (bytes.length - 1) := by
  have each :
      (bytes.map fun byte => hexText 2 byte.toNat).map List.length =
        bytes.map fun _ => 2 := by
    rw [List.map_map]
    apply List.map_congr_left
    intro byte _
    rw [Function.comp_apply, hexText_of_byte byte.toNat_lt]
    rfl
  rw [hexDigits, length_intercalate, each, List.length_map]
  simp
  omega

theorem zero_not_mem_hexDigits (bytes : List UInt8) :
    (0 : UInt8) ∉ hexDigits bytes := by
  refine not_mem_intercalate (by decide) ?_
  intro piece member
  obtain ⟨byte, -, rfl⟩ := List.mem_map.mp member
  have bounded := byte.toNat_lt
  have upper : hexDigit (byte.toNat / 16) ≠ 0 :=
    hexDigit_ne_zero (by omega)
  have lower : hexDigit (byte.toNat % 16) ≠ 0 :=
    hexDigit_ne_zero (by omega)
  rw [hexText_of_byte bounded]
  simp [upper.symm, lower.symm]

theorem format_hexCode {text : List UInt8} (clean : (0 : UInt8) ∉ text) :
    format "[PACKET HEX CODE] [%s]" [.chars (text ++ [0])] =
      some (bytesOf "[PACKET HEX CODE] [" ++ (text ++ bytesOf "]"), []) := by
  have split :
      "[PACKET HEX CODE] [%s]" =
        "[PACKET HEX CODE] [" ++ (Conversion.string.text ++ "]") := by
    decide
  have parses :=
    @Parses.cons_string "[PACKET HEX CODE] [" _ _ (by decide)
      (@parses_literals "]" (by decide))
  have shown : (text ++ [0]).takeWhile (· ≠ 0) = text := by
    have zeroes := takeWhile_append_zeroes text 1
    rw [List.replicate_one] at zeroes
    rw [zeroes, List.takeWhile_eq_self_iff]
    intro byte member
    simp only [ne_eq, decide_not, Bool.not_eq_true', decide_eq_false_iff_not]
    rintro rfl
    exact clean member
  rw [split, format_of_parses parses, render_cons_string _ (by simp), shown,
    render_literals]
  rfl

theorem trace_hexCode_eq_ended_iff {text : List UInt8}
    (clean : (0 : UInt8) ∉ text) :
    Logger.trace "[PACKET HEX CODE] [%s]" [.chars (text ++ [0])] = .ended ↔
      kMaxBufferLength ≤ text.length + 20 := by
  have front : (bytesOf "[PACKET HEX CODE] [").length = 19 := by decide
  have back : (bytesOf "]").length = 1 := by decide
  rw [Logger.trace, write_of_format (format_hexCode clean),
    List.length_append, List.length_append, front, back]
  split_ifs with fits
  · simp
    omega
  · simp
    omega

theorem zero_not_mem_hexCode [Header H] (session : AsyncSessionImpl H)
    (body : Nat → UInt8) : (0 : UInt8) ∉ session.hexCode body := by
  simp [AsyncSessionImpl.hexCode, zero_not_mem_hexDigits]

theorem trace_session_eq_ended_iff [Header H] (session : AsyncSessionImpl H)
    (body : Nat → UInt8) :
    Logger.trace "[PACKET HEX CODE] [%s]"
        [.chars (session.hexCode body ++ [0])] = .ended ↔
      kMaxBufferLength ≤
        AsyncSessionImpl.hexLength (Header.getHeaderSize session.header) +
            AsyncSessionImpl.hexLength (Header.getBodySize session.header) +
          21 := by
  rw [trace_hexCode_eq_ended_iff (zero_not_mem_hexCode session body)]
  simp only [AsyncSessionImpl.hexCode, AsyncSessionImpl.hexLength,
    List.length_append, List.length_cons, length_hexDigits, List.length_map,
    List.length_range]
  omega

theorem logHexCode_eq_undefined_iff [Header H]
    (session : AsyncSessionImpl H) (body : Nat → UInt8) :
    session.logHexCode true body = some .undefined ↔
      session.bodyBuffer = none ∧
        0 < Header.getBodySize session.header := by
  have defined :
      Logger.trace "[PACKET HEX CODE] [%s]"
        [.chars (session.hexCode body ++ [0])] ≠ .undefined := by
    rw [Logger.trace, write_of_format (format_hexCode
      (zero_not_mem_hexCode session body))]
    split_ifs <;> simp
  simp [AsyncSessionImpl.logHexCode, defined]

/-- `ReadBody` survives `MakeHexCode` unless its log call fails. -/
theorem endsInHexCode_iff [Header H] (session : AsyncSessionImpl H)
    (body : Nat → UInt8) :
    session.endsInHexCode = true ↔
      session.logHexCode true body = some .undefined ∨
        session.logHexCode true body = some .ended := by
  rw [logHexCode_eq_undefined_iff, AsyncSessionImpl.endsInHexCode,
    AsyncSessionImpl.logHexCode, Bool.or_eq_true, Bool.and_eq_true,
    Option.isNone_iff_eq_none, decide_eq_true_iff, decide_eq_true_iff,
    ← trace_session_eq_ended_iff session body]
  by_cases null :
      session.bodyBuffer = none ∧ 0 < Header.getBodySize session.header
  · simp [null]
  · simp [null]

/-- With a block for the body only the length of the line counts. -/
theorem logHexCode_eq_ended_iff [Header H] {session : AsyncSessionImpl H}
    (held :
      0 < Header.getBodySize session.header → session.bodyBuffer ≠ none)
    (body : Nat → UInt8) :
    session.logHexCode true body = some .ended ↔
      session.endsInHexCode = true := by
  have defined :
      session.logHexCode true body ≠ some .undefined := by
    intro undefined
    rw [logHexCode_eq_undefined_iff] at undefined
    exact held undefined.2 undefined.1
  rw [endsInHexCode_iff session body]
  simp [defined]

/-! ## Runs of the server -/

/-- What a step does to the packets that were inserted. -/
theorem Stepped.inserted_cases [Header H]
    {cfg : Config} {before after : Server H} {event : Event}
    (stepped : Stepped cfg before event after) :
    after.inserted = before.inserted ∨
      ∃ index receive bytes closeFails,
        event = .receiveDone index (.received bytes) closeFails ∧
          before.receives[index]? = some receive ∧
            receive.stage = .body ∧
              Server.permits (before.sessions receive.session).tcpSocket
                  receive (.received bytes) = true ∧
                after.inserted =
                  before.inserted ++
                    [(before.sessions receive.session).packet cfg
                      receive.session bytes] := by
  cases stepped with
  | rejected => exact .inl (packets_acquireSession cfg before).1
  | admitted session =>
      exact .inl (packets_acquireSession cfg (before.acceptClient session)).1
  | abandoned index receive completion closeFails session _ _ givesUp =>
      exact .inl (packets_apply cfg receive.session before
        (AsyncSessionImpl.abandon_closing givesUp.same
          closeFails).inserted).1
  | headerRead index receive bytes closeFails _ _ _ _ outcome allocated =>
      subst outcome
      exact .inl (packets_apply cfg receive.session before
        (AsyncSessionImpl.allocateBody_accepting _ _).inserted).1
  | bodyRead index receive bytes closeFails outstanding permitted stage _ _
      outcome handed =>
      subst outcome
      exact .inr ⟨index, receive, bytes, closeFails, rfl, outstanding, stage,
        permitted, rfl⟩
  | writeFailed index write closeFails =>
      exact .inl (packets_apply cfg write.session before
        ((before.sessions write.session).close_closing
          closeFails).inserted).1
  | closed session closeFails =>
      exact .inl (packets_apply cfg session before
        ((before.sessions session).close_closing closeFails).inserted).1
  | wrote | writeDelivered | taken | processed | sent => exact .inl rfl

section

variable {cfg : Config}

/--
The completion of a body on a connection: the peer has sent some frames and
the header of the next one, and the log call fails and ends the program
exactly if this header announces a body that does not fit the line.
-/
def EndsByLength (stale : Nat → UInt8)
    (server : Server (DummyServer.HeaderCct cfg.build)) : Prop :=
  ∀ index receive bytes closeFails,
    server.receives[index]? = some receive → receive.stage = .body →
      Server.permits (server.sessions receive.session).tcpSocket receive
          (.received bytes) = true →
        ∃ (frames :
            List
              (DummyServer.wireFormat cfg.build cfg.sessionBufferMax).Frame)
          (image : List UInt8),
          server.received receive.connection =
              FrameFormat.encode frames ++ image ∧
            server.messages receive.connection =
                frames.map FrameFormat.Frame.message ∧
              AwaitsBody cfg
                  (DummyServer.wireFormat cfg.build cfg.sessionBufferMax)
                  image (server.sessions receive.session) ∧
                (server.hexCodeLog cfg.hexCode stale
                    (.receiveDone index (.received bytes) closeFails) =
                    some .ended ↔
                  hexCodeLimit <
                    (DummyServer.wireFormat cfg.build
                      cfg.sessionBufferMax).bodySize image) ∧
                  (step cfg server
                      (.receiveDone index (.received bytes) closeFails) =
                      none ↔
                    hexCodeLimit <
                      (DummyServer.wireFormat cfg.build
                        cfg.sessionBufferMax).bodySize image)

variable {events : List Event}
  {server : Server (DummyServer.HeaderCct cfg.build)}

/-- The completion of a body is no step exactly if the program ends. -/
theorem step_body_eq_none_iff
    {index : Nat} {receive : Receive} {bytes : List UInt8}
    (outstanding : server.receives[index]? = some receive)
    (stage : receive.stage = .body)
    (permitted :
      Server.permits (server.sessions receive.session).tcpSocket receive
        (.received bytes) = true)
    (closeFails : Bool) :
    step cfg server (.receiveDone index (.received bytes) closeFails) =
        none ↔
      (cfg.hexCode &&
        (server.sessions receive.session).endsInHexCode) = true := by
  simp only [step, Server.receiveDone, outstanding, permitted, if_true,
    Server.resume, stage, AsyncSessionImpl.recvProcess,
    AsyncSessionImpl.readBody, Option.map_eq_none_iff]
  cases cfg.hexCode && (server.sessions receive.session).endsInHexCode <;>
    simp

theorem endsByLength (wide : cfg.build.sizeBits = 64)
    (logs : cfg.hexCode = true) (stale : Nat → UInt8)
    (run :
      Run (step cfg) (Server.start cfg DummyServer.HeaderCct.make) events
        server) :
    EndsByLength stale server := by
  intro index receive bytes closeFails outstanding stage permitted
  have current := current_of_permits outstanding permitted
  have speaks :=
    @DummyServer.headerCct_speaks cfg.build (by omega) cfg.sessionBufferMax
  have agreement :=
    faithful speaks rfl
      (DummyServer.payloadSize_lt (by omega) cfg.sessionBufferMax)
      DummyServer.HeaderCct.make_sized run
  obtain ⟨frames, messages, position⟩ := agreement.inStep receive current
  rw [stage] at position
  obtain ⟨image, received, awaits⟩ := position
  have held :
      0 < Header.getBodySize (server.sessions receive.session).header →
        (server.sessions receive.session).bodyBuffer ≠ none :=
    fun _ =>
      awaits.held (Nat.lt_of_lt_of_le (by decide) (Nat.le_add_left 16 _))
  have ends :
      (server.sessions receive.session).endsInHexCode = true ↔
        hexCodeLimit <
          (DummyServer.wireFormat cfg.build
            cfg.sessionBufferMax).bodySize image := by
    rw [awaits.endsInHexCode_iff speaks (agreement.headers receive.session)]
    simp only [AsyncSessionImpl.hexLength, DummyServer.wireFormat,
      DummyServer.sizeOfSdHeader, kMaxBufferLength, hexCodeLimit]
    omega
  refine ⟨frames, image, received, messages, awaits, ?_, ?_⟩
  · simp only [Server.hexCodeLog, outstanding, stage, logs]
    exact (logHexCode_eq_ended_iff held _).trans ends
  · rw [step_body_eq_none_iff outstanding stage permitted, logs,
      Bool.true_and]
    exact ends

/-- In a run that goes on every delivered body fitted the line. -/
theorem short_of_run (wide : cfg.build.sizeBits = 64)
    (logs : cfg.hexCode = true)
    (run :
      Run (step cfg) (Server.start cfg DummyServer.HeaderCct.make) events
        server) :
    ∀ packet ∈ server.inserted, packet.content.length ≤ hexCodeLimit := by
  refine RunWhere.invariant (EndsByLength fun _ => 0)
    (fun server =>
      ∀ packet ∈ server.inserted, packet.content.length ≤ hexCodeLimit)
    (endsByLength wide logs _) ?_ ?_ run
  · have fresh := Server.start_fresh cfg (@DummyServer.HeaderCct.make cfg.build)
    simp [fresh.inserted]
  · intro before event after known held _ taken
    rcases (stepped_of_step taken).inserted_cases with
      same | ⟨index, receive, bytes, closeFails, rfl, outstanding, stage,
        permitted, inserted⟩
    · rw [same]
      exact held
    · obtain ⟨-, image, -, -, awaits, -, ends⟩ :=
        known index receive bytes closeFails outstanding stage permitted
      have short := not_lt.mp (mt ends.mpr (by simp [taken]))
      intro packet member
      rw [inserted, List.mem_append, List.mem_singleton] at member
      rcases member with old | rfl
      · exact held packet old
      · have content :=
          congrArg Prod.snd (awaits.message_packet receive.session bytes)
        simp only [Packet.message] at content
        rw [content]
        exact (List.length_take_le _ _).trans short

end

/-- A client that sends one message with a body of one byte. -/
def quietEvents : List Event :=
  [.acceptDone false,
    .receiveDone 0 (.received (DummyServer.headerImage 1)) false,
    .receiveDone 0 (.received (DummyServer.bodyImage 1)) false]

end LibSklt.Net
