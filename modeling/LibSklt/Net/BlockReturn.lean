import LibSklt.Net.BodyBlocks
import LibSklt.Util.CommonPool

/-!
# The pool that a body block goes back to

`COMMON_POOL::Delete` finds the pool of a block by the size it is told.
`Close` tells it the size with which the block was requested, body and ender;
a worker tells it the body size only.  This module says when the block goes
back to the pool it came from.
-/

namespace LibSklt.Net

open LibSklt.Foundation.Ledger
open LibSklt.Foundation.MachineWord
open LibSklt.Foundation.Transition
open LibSklt.Util

variable {H : Type}

/-! ## What the receiver of a body knows about its block -/

/--
The session waits for the body that its header announced, in the block that
was requested for it.
-/
structure Measured [Header H] (cfg : Config)
    (session : AsyncSessionImpl H) : Prop where
  size :
    session.sizeOfBodyBuffer =
      addWord cfg.build.sizeBits
        (Header.getBodySize session.header)
        (Header.getEnderSize session.header)
  fits : session.sizeOfBodyBuffer ≤ cfg.sessionBufferMax
  block :
    0 < session.sizeOfBodyBuffer →
      ∃ block, session.bodyBuffer = some block ∧
        block.bodySize = Header.getBodySize session.header

section

variable [Header H] {cfg : Config}

theorem Measured.sameReceiver
    {before after : AsyncSessionImpl H} (measured : Measured cfg before)
    (same : AsyncSessionImpl.SameReceiver before after) :
    Measured cfg after where
  size := by rw [same.sizeOfBodyBuffer, same.header, measured.size]
  fits := by
    rw [same.sizeOfBodyBuffer]
    exact measured.fits
  block := by
    rw [same.sizeOfBodyBuffer, same.bodyBuffer, same.header]
    exact measured.block

theorem measured_allocateBody
    {session : AsyncSessionImpl H} {bytes : List UInt8}
    (admitted : session.admits cfg (.received bytes) = true)
    (serial : Nat) :
    Measured cfg
      ((session.measured cfg bytes).allocateBody serial).session := by
  have fits := AsyncSessionImpl.fits_of_admits admitted
  rw [AsyncSessionImpl.allocateBody]
  split
  case isTrue => exact ⟨rfl, fits, fun _ => ⟨_, rfl, rfl⟩⟩
  case isFalse empty =>
    exact ⟨rfl, fits, fun positive => absurd positive empty⟩

/-- Every current body operation knows the size of its block. -/
theorem Continued.measured
    {before after : Server H} {receive : Receive}
    (known :
      ∀ receive, before.Current receive → receive.stage = .body →
        Measured cfg (before.sessions receive.session))
    (continued : Continued cfg before after receive)
    (stage : receive.stage = .body) :
    Measured cfg (after.sessions receive.session) := by
  cases continued with
  | untouched current same =>
      exact (known receive current stage).sameReceiver same
  | accepted isHeader =>
      rw [stage] at isHeader
      simp at isHeader
  | headerRead old bytes _ _ _ admitted session =>
      rw [session]
      exact measured_allocateBody admitted _
  | bodyRead old bytes _ stages =>
      rw [stage] at stages
      simp at stages

theorem bodies_measured
    {header : H} {events : List Event} {server : Server H}
    (run : Run (step cfg) (Server.start cfg header) events server) :
    ∀ receive, server.Current receive → receive.stage = .body →
      Measured cfg (server.sessions receive.session) := by
  refine RunWhere.invariant Numbered
    (fun server =>
      ∀ receive, server.Current receive → receive.stage = .body →
        Measured cfg (server.sessions receive.session))
    numbered ?_ ?_ run
  · intro receive current
    have member := current.1
    simp [(Server.start_fresh cfg header).receives] at member
  · intro before event after counted known _ taken receive current stage
    have stepped := stepped_of_step taken
    exact (stepped.continued counted current).measured known stage

end

/-! ## The sizes told to `Delete` -/

/-- The block was requested with a size within the limit of the server. -/
def Block.Admitted (cfg : Config) (block : Block) : Prop :=
  block.bodySize + block.enderSize ≤ cfg.sessionBufferMax

/-- The size with which a block is released on each path. -/
def Block.releaseSize (block : Block) : ReleasePath → Nat
  | .worker => block.bodySize
  | .close => block.bodySize + block.enderSize

/-- The blocks in custody are released with sizes that follow the path. -/
structure Blocks.Weighed (cfg : Config) (blocks : Blocks) : Prop where
  pointers :
    ∀ session block, blocks.pointer session = some block →
      block.Admitted cfg ∧
        blocks.prevSize session = block.bodySize + block.enderSize
  packets :
    ∀ packet ∈ blocks.pending, ∀ block, packet.buffer = some block →
      block.Admitted cfg ∧
        (packet.sizeOfBuffer = block.bodySize ∨ packet.sizeOfBuffer = 0)
  entries :
    ∀ block release, .released block release ∈ blocks.ledger →
      block.Admitted cfg ∧ release.size = block.releaseSize release.path

section

variable {cfg : Config} {blocks : Blocks}

theorem Blocks.Weighed.allocate
    (weighed : blocks.Weighed cfg) {block : Block}
    (admitted : block.Admitted cfg) (session : Nat) :
    (blocks.allocate session block
      (block.bodySize + block.enderSize)).Weighed cfg := by
  refine ⟨?_, weighed.packets, ?_⟩
  · intro holder other held
    by_cases own : holder = session
    · subst holder
      simp only [Blocks.allocate, Function.update_self,
        Option.some.injEq] at held
      subst other
      exact ⟨admitted, by simp [Blocks.allocate]⟩
    · simp only [Blocks.allocate, ne_eq, own, not_false_eq_true,
        Function.update_of_ne] at held ⊢
      exact weighed.pointers holder other held
  · intro other release member
    simp only [Blocks.allocate, List.mem_append, List.mem_singleton,
      reduceCtorEq, or_false] at member
    exact weighed.entries other release member

theorem Blocks.Weighed.handOver
    (weighed : blocks.Weighed cfg) {session : Nat} {packet : Packet}
    (own : packet.buffer = blocks.pointer session)
    (size :
      ∀ block, packet.buffer = some block →
        packet.sizeOfBuffer = block.bodySize ∨
          packet.sizeOfBuffer = 0) :
    (blocks.handOver session packet).Weighed cfg := by
  refine ⟨?_, ?_, weighed.entries⟩
  · intro holder block held
    by_cases same : holder = session
    · subst holder
      simp [Blocks.handOver] at held
    · simp only [Blocks.handOver, ne_eq, same, not_false_eq_true,
        Function.update_of_ne] at held
      exact weighed.pointers holder block held
  · intro other member block held
    rcases Multiset.mem_cons.mp member with rfl | old
    · exact ⟨(weighed.pointers session block (own.symm.trans held)).1,
        size block held⟩
    · exact weighed.packets other old block held

/-- A size within the limit survives the cast to `uint32_t`. -/
theorem cast_of_admitted
    (limit : cfg.sessionBufferMax < 2 ^ 32)
    {block : Block} (admitted : block.Admitted cfg) {size : Nat}
    (bounded : size ≤ block.bodySize + block.enderSize) :
    size % 2 ^ 32 = size :=
  Nat.mod_eq_of_lt
    (Nat.lt_of_le_of_lt (bounded.trans admitted) limit)

theorem Blocks.Weighed.release
    (weighed : blocks.Weighed cfg)
    (limit : cfg.sessionBufferMax < 2 ^ 32)
    {session : Nat} {block : Block}
    (own : blocks.pointer session = some block) :
    (blocks.release session block).Weighed cfg := by
  obtain ⟨admitted, prevSize⟩ := weighed.pointers session block own
  refine ⟨weighed.pointers, weighed.packets, ?_⟩
  intro other release member
  rcases List.mem_append.mp member with old | new
  · exact weighed.entries other release old
  · rw [List.mem_singleton, AsyncSessionImpl.bufferRelease,
      Entry.released.injEq] at new
    obtain ⟨rfl, rfl⟩ := new
    refine ⟨admitted, ?_⟩
    rw [prevSize, cast_of_admitted limit admitted (Nat.le_refl _)]
    rfl

theorem Blocks.Weighed.handle
    (weighed : blocks.Weighed cfg)
    (limit : cfg.sessionBufferMax < 2 ^ 32)
    {packet : Packet} {rest : Multiset Packet}
    (pending : blocks.pending = packet ::ₘ rest) :
    (blocks.handle packet rest).Weighed cfg := by
  refine ⟨weighed.pointers, ?_, ?_⟩
  · intro other member
    refine weighed.packets other ?_
    rw [pending]
    exact Multiset.mem_cons_of_mem member
  · intro block release member
    rcases List.mem_append.mp member with old | new
    · exact weighed.entries block release old
    · simp only [Server.processingEntries] at new
      split at new
      case h_2 => simp at new
      case h_1 buffer held =>
        split at new
        case isFalse => simp at new
        case isTrue positive =>
          rw [List.mem_singleton, AsyncSessionImpl.bufferRelease,
            Entry.released.injEq] at new
          obtain ⟨rfl, rfl⟩ := new
          have first : packet ∈ blocks.pending := by
            rw [pending]
            exact Multiset.mem_cons_self packet rest
          obtain ⟨admitted, size⟩ :=
            weighed.packets packet first block held
          refine ⟨admitted, ?_⟩
          rcases size with body | zero
          · rw [body, cast_of_admitted limit admitted
              (Nat.le_add_right _ _)]
            rfl
          · omega

/--
The limit of `ReadHeader` holds for the numbers: for the header objects in
use, no sum of body and ender size wraps around to an admitted one.
-/
structure SumsFit [Header H] (cfg : Config) (good : H → Prop) : Prop where
  deserialize :
    ∀ header buffer size, good header →
      good (Header.deserialize header buffer size).1
  sums :
    ∀ header, good header →
      addWord cfg.build.sizeBits (Header.getBodySize header)
          (Header.getEnderSize header) ≤ cfg.sessionBufferMax →
        Header.getBodySize header + Header.getEnderSize header ≤
          cfg.sessionBufferMax

variable {good : H → Prop}

/-- A body is handed over with its own size, or with none. -/
theorem Measured.sizeOfBuffer [Header H]
    {session : AsyncSessionImpl H} (measured : Measured cfg session)
    (fit : SumsFit cfg good) (isGood : good session.header)
    (word : cfg.sessionBufferMax < 2 ^ cfg.build.sizeBits)
    (this : Nat) (bytes : List UInt8) {block : Block}
    (held : session.bodyBuffer = some block) :
    (session.packet cfg this bytes).sizeOfBuffer = block.bodySize ∨
      (session.packet cfg this bytes).sizeOfBuffer = 0 := by
  have bounded :=
    fit.sums session.header isGood (measured.size ▸ measured.fits)
  have size :
      (session.packet cfg this bytes).sizeOfBuffer =
        Header.getBodySize session.header := by
    have small :
        Header.getBodySize session.header < 2 ^ cfg.build.sizeBits := by
      omega
    rw [AsyncSessionImpl.packet, measured.size]
    exact subWord_addWord small _
  rw [size]
  rcases Nat.eq_zero_or_pos session.sizeOfBodyBuffer with zero | positive
  · right
    rw [measured.size, addWord_of_lt (by omega)] at zero
    omega
  · left
    obtain ⟨own, here, bodySize⟩ := measured.block positive
    rw [held, Option.some.injEq] at here
    rw [here, bodySize]

theorem Blocks.Weighed.step [Header H]
    {before : Server H} {event : Event} {after : Blocks}
    (weighed : before.blocks.Weighed cfg)
    (fit : SumsFit cfg good)
    (headers : ∀ session, good (before.sessions session).header)
    (word : cfg.sessionBufferMax < 2 ^ cfg.build.sizeBits)
    (limit : cfg.sessionBufferMax < 2 ^ 32)
    (measured :
      ∀ receive, before.Current receive → receive.stage = .body →
        Measured cfg (before.sessions receive.session))
    (blockStep : BlockStep cfg before event after) :
    after.Weighed cfg := by
  cases blockStep with
  | allocated session block size header _ _ read sizes measure _ fits =>
      have isGood : good header := by
        obtain ⟨buffer, length, rfl⟩ := read
        exact fit.deserialize _ _ _ (headers session)
      have admitted : block.Admitted cfg := by
        rw [Block.Admitted, sizes.1, sizes.2]
        refine fit.sums header isGood ?_
        rw [← sizes.1, ← sizes.2, ← measure]
        exact fits
      have sum : size = block.bodySize + block.enderSize := by
        rw [measure]
        exact addWord_of_lt (Nat.lt_of_le_of_lt admitted word)
      rw [sum]
      exact weighed.allocate admitted session
  | handedOver index receive bytes closeFails _ _ current stage =>
      refine weighed.handOver rfl ?_
      intro block held
      exact (measured receive current stage).sizeOfBuffer fit
        (headers receive.session) word receive.session bytes held
  | released session block _ own => exact weighed.release limit own
  | handled packet rest waiting => exact weighed.handle limit waiting
  | kept => exact weighed

theorem blocks_weighed [Header H]
    (fit : SumsFit cfg good)
    (word : cfg.sessionBufferMax < 2 ^ cfg.build.sizeBits)
    (limit : cfg.sessionBufferMax < 2 ^ 32)
    {header : H} (isGood : good header)
    {events : List Event} {server : Server H}
    (run : Run (step cfg) (Server.start cfg header) events server) :
    server.blocks.Weighed cfg := by
  refine RunWhere.invariant
    (fun server =>
      (∀ receive, server.Current receive → receive.stage = .body →
        Measured cfg (server.sessions receive.session)) ∧
      ∀ session, good (server.sessions session).header)
    (fun server => server.blocks.Weighed cfg)
    (fun reached =>
      ⟨bodies_measured reached,
        headers_good fit.deserialize isGood reached⟩) ?_ ?_ run
  · rw [Server.start, blocks_acquireSession]
    constructor
    · intro session block held
      simp [Server.blocks, AsyncSessionImpl.make] at held
    · intro packet member
      simp [Server.blocks, handlingPackets] at member
    · intro block release member
      simp [Server.blocks] at member
  · rintro before event after ⟨measured, headers⟩ held _ taken
    exact held.step fit headers word limit measured
      (blockStep_of_stepped (stepped_of_step taken))

end

/-! ## The pool that a block goes back to -/

/--
A released body block goes back to the pool it was taken from exactly when
`Close` releases it, or when no bound of a size class lies between the body
size and the size with the ender.
-/
theorem released_to_own_pool_iff [Header H]
    {cfg : Config} (wide : cfg.build.sizeBits = 64)
    (shipped : cfg.sessionBufferMax ≤ 32768)
    {good : H → Prop} (fit : SumsFit cfg good)
    {header : H} (isGood : good header)
    {events : List Event} {server : Server H}
    (run : Run (step cfg) (Server.start cfg header) events server)
    {block : Block} {release : Release}
    (released : .released block release ∈ server.ledger) :
    (CommonPool.new cfg.build.sizeBits CommonPool.commonPoolSizeDefault
          (block.bodySize + block.enderSize)).pool =
        (CommonPool.delete cfg.build.sizeBits
          CommonPool.commonPoolSizeDefault release.size).pool ↔
      release.path = .close ∨
        CommonPool.SameClass CommonPool.commonPoolSizeDefault
          block.bodySize (block.bodySize + block.enderSize) := by
  have weighed :=
    blocks_weighed fit (by rw [wide]; omega) (by omega) isGood run
  obtain ⟨admitted, size⟩ := weighed.entries block release released
  have bounded :
      block.bodySize + block.enderSize ≤
        CommonPool.commonPoolSizeDefault * 128 :=
    admitted.trans shipped
  rw [wide, size]
  cases path : release.path with
  | close =>
      have same :=
        CommonPool.pool_new_eq_pool_delete 64
          CommonPool.commonPoolSizeDefault
          (block.bodySize + block.enderSize)
      exact iff_of_true same (Or.inl rfl)
  | worker =>
      have own :=
        CommonPool.pool_new_eq_pool_delete_iff
          (Nat.le_add_right block.bodySize block.enderSize) bounded
      rw [Block.releaseSize, own]
      simp

/-- The header objects of the server, with a wide `size_t`. -/
theorem headerCct_sumsFit
    {cfg : Config} (wide : 33 ≤ cfg.build.sizeBits) :
    SumsFit cfg (@DummyServer.HeaderCct.Sized cfg.build) where
  deserialize _ buffer size sized :=
    DummyServer.HeaderCct.deserialize_sized sized buffer size
  sums header sized admitted := by
    have range : (2 : Nat) ^ 33 ≤ 2 ^ cfg.build.sizeBits :=
      Nat.pow_le_pow_right (by omega) wide
    have length : Header.getBodySize header < 2 ^ 32 :=
      header.dataLen.toNat_lt
    have ender : Header.getEnderSize header = 16 := sized.ender
    rwa [addWord_of_lt (by omega)] at admitted

/-- A message whose body and ender do not fit the smallest pool together. -/
def boundaryEvents : List Event :=
  [.acceptDone false,
    .receiveDone 0 (.received (DummyServer.headerImage 250)) false,
    .receiveDone 0 (.received (DummyServer.bodyImage 250)) false,
    .getPacketInfo, .processing 0 none]

theorem exists_boundary_run :
    ∃ server,
      Run (step (DummyServer.configureIni 2)) (DummyServer.dummyServer 2)
          boundaryEvents server ∧
        .released ⟨0, 250, 16⟩ ⟨.worker, 250⟩ ∈ server.ledger := by
  have executed :
      (execWhere (step (DummyServer.configureIni 2)) (fun _ _ => True)
        (DummyServer.dummyServer 2) boundaryEvents).map Server.ledger =
          some
            [.acquired ⟨0, 250, 16⟩,
              .released ⟨0, 250, 16⟩ ⟨.worker, 250⟩] := by
    decide +kernel
  obtain ⟨server, run, ledger⟩ := exists_runWhere_of_map_exec executed
  exact ⟨server, run, by simp [ledger]⟩

theorem released_to_own_pool_iff_boundary :
    ∃ server,
      Run (step (DummyServer.configureIni 2)) (DummyServer.dummyServer 2)
          boundaryEvents server ∧
        .released ⟨0, 250, 16⟩ ⟨.worker, 250⟩ ∈ server.ledger ∧
        ((CommonPool.new 64 CommonPool.commonPoolSizeDefault
              (250 + 16)).pool =
            (CommonPool.delete 64 CommonPool.commonPoolSizeDefault
              250).pool ↔
          ReleasePath.worker = .close ∨
            CommonPool.SameClass CommonPool.commonPoolSizeDefault 250
              (250 + 16)) := by
  obtain ⟨server, run, released⟩ := exists_boundary_run
  exact ⟨server, run, released,
    @released_to_own_pool_iff _ _ (DummyServer.configureIni 2) rfl
      (by decide) _ (headerCct_sumsFit (by decide)) _
      DummyServer.HeaderCct.make_sized _ _ run _ _ released⟩

/-- The worker puts that block into another pool. -/
theorem released_to_other_pool :
    ∃ server,
      Run (step (DummyServer.configureIni 2)) (DummyServer.dummyServer 2)
          boundaryEvents server ∧
        ∃ block release,
          .released block release ∈ server.ledger ∧
            block.bodySize + block.enderSize ≤
              (DummyServer.configureIni 2).sessionBufferMax ∧
            (CommonPool.new 64 CommonPool.commonPoolSizeDefault
                (block.bodySize + block.enderSize)).pool ≠
              (CommonPool.delete 64 CommonPool.commonPoolSizeDefault
                release.size).pool := by
  obtain ⟨server, run, released⟩ := exists_boundary_run
  refine ⟨server, run, ⟨0, 250, 16⟩, ⟨.worker, 250⟩, released, ?_, ?_⟩
  · decide
  · decide

end LibSklt.Net
