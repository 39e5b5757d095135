import LibSklt.Net.ReceiveLoop
import LibSklt.Util.CommonPool

/-!
# The room in a body block

`ReadHeader` adds the sizes of body and ender as `size_t` values, compares
the sum with the limit, and requests a block of that size.  Three later
operations touch the block, each with a size of its own: `async_receive`
with the sum, `MakeHexCode` with the body size, and the handler with the sum
less the ender size.  All three stay inside of the block as long as the sum
does not wrap.
-/

namespace LibSklt.Net

open LibSklt.DummyServer
open LibSklt.Foundation.Framing
open LibSklt.Foundation.MachineWord
open LibSklt.Util
open LibSklt.Util.ByteOrder

variable {H : Type} [Header H] {cfg : Config}

/--
The indices of `m_szBodyBuffer` that `MakeHexCode` reads; `hexCode` says
whether `CONFIGURE.HEX_CODE` is `Y`.
-/
def AsyncSessionImpl.makeHexCode (hexCode : Bool)
    (self : AsyncSessionImpl H) : List Nat :=
  if hexCode then List.range (Header.getBodySize self.header) else []

/-- The capacity of a block that `COMMON_POOL::New` returned. -/
def Block.capacity (build : Build) (block : Block) : Nat :=
  (CommonPool.new build.sizeBits CommonPool.commonPoolSizeDefault
      (addWord build.sizeBits block.bodySize
        block.enderSize)).capacity
    build.sizeBits CommonPool.commonPoolSizeDefault

/-- The capacity of the block that a call took from the pool, if any. -/
def Outcome.bodyCapacity (build : Build) (outcome : Outcome H) : Nat :=
  match outcome.entries with
  | [.acquired block] => block.capacity build
  | _ => 0

/--
The announced sizes are within the limit, and nothing that follows an
accepted header touches more bytes than the body block has.
-/
structure Contained (cfg : Config) (hexCode : Bool)
    (outcome : Outcome H) : Prop where
  limited :
    Header.getBodySize outcome.session.header +
        Header.getEnderSize outcome.session.header ≤
      cfg.sessionBufferMax
  received :
    outcome.session.requested .body ≤ outcome.bodyCapacity cfg.build
  shown :
    ∀ index ∈ outcome.session.makeHexCode hexCode,
      index < outcome.bodyCapacity cfg.build
  handled :
    ∀ this closeFails completion,
      ∀ packet ∈
          (outcome.session.checkBody cfg this closeFails
            completion).inserted,
        packet.sizeOfBuffer ≤ outcome.bodyCapacity cfg.build

namespace AsyncSessionImpl

/-- `ReadHeader` returns `true` exactly for what it accepts. -/
theorem result_readHeader
    (serial : Nat) (closeFails : Bool) (completion : Completion)
    (self : AsyncSessionImpl H) :
    (self.readHeader cfg serial closeFails completion).result =
      self.admits cfg completion := by
  obtain ⟨session, givesUp, equal⟩ | ⟨bytes, -, admitted, equal⟩ :=
    self.readHeader_cases cfg serial closeFails completion
  · have refused := givesUp.refused
    rw [accepts] at refused
    rw [equal, refused]
    rfl
  · rw [equal, admitted]
    exact (allocateBody_accepting _ _).result

theorem readHeader_of_admits
    {bytes : List UInt8} {self : AsyncSessionImpl H}
    (admitted : self.admits cfg (.received bytes) = true)
    (serial : Nat) (closeFails : Bool) :
    self.readHeader cfg serial closeFails (.received bytes) =
      (self.measured cfg bytes).allocateBody serial := by
  obtain ⟨session, givesUp, -⟩ | ⟨bytes', same, -, equal⟩ :=
    self.readHeader_cases cfg serial closeFails (.received bytes)
  · have refused := givesUp.refused
    rw [accepts, admitted] at refused
    cases refused
  · cases same
    exact equal

/-- The packets of `ReadBody` have the size of the sum less the ender. -/
theorem sizeOfBuffer_of_inserted
    {this : Nat} {closeFails : Bool} {completion : Completion}
    {self : AsyncSessionImpl H} {packet : Packet}
    (inserted :
      packet ∈ (self.checkBody cfg this closeFails completion).inserted) :
    packet.sizeOfBuffer =
      subWord cfg.build.sizeBits self.sizeOfBodyBuffer
        (Header.getEnderSize self.header) := by
  obtain ⟨-, abandoned⟩ | ⟨bytes, -, -, handed⟩ :=
    self.checkBody_cases cfg this closeFails completion
  · have nothing :=
      (abandon_closing ⟨rfl, rfl, rfl, rfl⟩ closeFails :
        Closing closeFails self (self.abandon closeFails)).inserted
    rw [abandoned, nothing] at inserted
    cases inserted
  · rw [handed] at inserted
    obtain rfl := List.mem_singleton.mp inserted
    rfl

/-- The members that an accepted header sets, and the block. -/
theorem allocateBody_eq
    (build : Build) (serial : Nat) (self : AsyncSessionImpl H) :
    (self.allocateBody serial).session.header = self.header ∧
      (self.allocateBody serial).session.sizeOfBodyBuffer =
        self.sizeOfBodyBuffer ∧
      (self.allocateBody serial).bodyCapacity build =
        if self.sizeOfBodyBuffer > 0 then
          (self.bodyBlock serial).capacity build
        else 0 := by
  rw [allocateBody]
  split_ifs
  · exact ⟨rfl, rfl, rfl⟩
  · exact ⟨rfl, rfl, rfl⟩

end AsyncSessionImpl

section

variable {format : FrameFormat UInt8 UInt16} {good : H → Prop}
  {session : AsyncSessionImpl H} {image : List UInt8}

/-- A sum that does not wrap is contained in the block. -/
theorem Speaks.contained
    (speaks : Speaks format good) (isGood : good session.header)
    (wide : 15 < cfg.build.sizeBits)
    (whole : image.length = format.headerSize)
    (fits : format.payloadSize image ≤ cfg.sessionBufferMax)
    (noOverflow : format.payloadSize image < 2 ^ cfg.build.sizeBits)
    (serial : Nat) (hexCode : Bool) :
    Contained cfg hexCode
      ((session.measured cfg image).allocateBody serial) := by
  obtain ⟨bodySize, -, size⟩ := speaks.measured isGood whole noOverflow
  have enderSize :=
    speaks.enderSize _ (speaks.good_measured cfg isGood image)
  obtain ⟨header, sizeKept, capacity⟩ :=
    (session.measured cfg image).allocateBody_eq cfg.build serial
  rw [size] at sizeKept capacity
  -- The block has room for the sum, whether or not one was taken.
  have room :
      format.payloadSize image ≤
        ((session.measured cfg image).allocateBody
          serial).bodyCapacity cfg.build := by
    rw [capacity]
    split_ifs with positive
    · have requested :
          addWord cfg.build.sizeBits (format.bodySize image)
              format.trailerSize =
            format.payloadSize image :=
        addWord_of_lt noOverflow
      have power : (2 : Nat) ^ 16 ≤ 2 ^ cfg.build.sizeBits :=
        Nat.pow_le_pow_right (by decide) wide
      simp only [Block.capacity, AsyncSessionImpl.bodyBlock, bodySize,
        enderSize, requested]
      refine CommonPool.le_capacity_new (by decide) ?_ noOverflow
      exact Nat.lt_of_lt_of_le (by decide) power
    · omega
  refine ⟨?_, ?_, ?_, ?_⟩
  · rw [header, bodySize, enderSize]
    exact fits
  · change AsyncSessionImpl.sizeOfBodyBuffer _ ≤ _
    rw [sizeKept]
    exact room
  · intro index read
    rw [AsyncSessionImpl.makeHexCode, header, bodySize] at read
    split_ifs at read
    · rw [List.mem_range] at read
      rw [FrameFormat.payloadSize] at room
      omega
    · cases read
  · intro this closeFails completion packet inserted
    rw [AsyncSessionImpl.sizeOfBuffer_of_inserted inserted, sizeKept,
      header, enderSize]
    rw [FrameFormat.payloadSize] at noOverflow room ⊢
    rw [subWord_of_le (Nat.le_add_left _ _) noOverflow]
    omega

end

/-- The server's sessions: the length field, and both widths of `size_t`. -/
theorem readHeader_contained_iff
    {cfg : Config} {self : AsyncSessionImpl (HeaderCct cfg.build)}
    (width : cfg.build.sizeBits = 32 ∨ cfg.build.sizeBits = 64)
    (limit : cfg.sessionBufferMax < 2 ^ cfg.build.sizeBits)
    (sized : self.header.Sized)
    (serial : Nat) (closeFails hexCode : Bool) (completion : Completion) :
    ((self.readHeader cfg serial closeFails completion).result = true →
        Contained cfg hexCode
          (self.readHeader cfg serial closeFails completion)) ↔
      ∀ bytes, completion = .received bytes →
        bytes.length = sizeOfSdHeader →
          ((networkToHost32 cfg.build (doubleWordAt bytes 14)).toNat +
                sizeOfSdEnder) % 2 ^ cfg.build.sizeBits ≤
              cfg.sessionBufferMax →
            (networkToHost32 cfg.build (doubleWordAt bytes 14)).toNat +
                sizeOfSdEnder <
              2 ^ cfg.build.sizeBits := by
  have speaks :=
    @headerCct_speaks cfg.build (by omega) cfg.sessionBufferMax
  have admits :=
    @Speaks.admits_iff_addWord _ _ cfg _ _ speaks self sized
  rw [AsyncSessionImpl.result_readHeader]
  constructor
  · rintro contained bytes rfl whole accepted
    have admitted := (admits bytes).mpr ⟨whole, accepted⟩
    have limited := (contained admitted).limited
    rw [AsyncSessionImpl.readHeader_of_admits admitted,
      (AsyncSessionImpl.allocateBody_accepting _ _).header,
      speaks.bodySize_measured sized whole,
      speaks.enderSize _ (speaks.good_measured cfg sized bytes)]
      at limited
    exact limited.trans_lt limit
  · intro noWrap admitted
    cases completion with
    | failed => cases admitted
    | received bytes =>
        obtain ⟨whole, accepted⟩ := (admits bytes).mp admitted
        have noOverflow := noWrap bytes rfl whole accepted
        have sum :
            addWord cfg.build.sizeBits
                ((wireFormat cfg.build cfg.sessionBufferMax).bodySize bytes)
                sizeOfSdEnder =
              (wireFormat cfg.build cfg.sessionBufferMax).payloadSize
                bytes :=
          addWord_of_lt noOverflow
        replace accepted := sum.ge.trans accepted
        rw [AsyncSessionImpl.readHeader_of_admits admitted]
        exact speaks.contained sized (by omega) whole accepted noOverflow
          serial hexCode

/-- `Configure.ini` on a 64-bit machine, and a body of five bytes. -/
theorem readHeader_contained_five :
    (AsyncSessionImpl.readHeader (configureIni 2) 0 false
          (.received (headerImage 5))
          (.make (HeaderCct.make : HeaderCct libraryBuild) 0)).result =
        true ∧
      Contained (configureIni 2) true
        (AsyncSessionImpl.readHeader (configureIni 2) 0 false
          (.received (headerImage 5))
          (.make (HeaderCct.make : HeaderCct libraryBuild) 0)) := by
  have accepted :
      (AsyncSessionImpl.readHeader (configureIni 2) 0 false
          (.received (headerImage 5))
          (.make (HeaderCct.make : HeaderCct libraryBuild) 0)).result =
        true := by
    decide
  refine ⟨accepted, ?_⟩
  refine (readHeader_contained_iff (Or.inr rfl) (by decide)
    HeaderCct.make_sized 0 false true _).mpr ?_ accepted
  intro bytes same _ _
  cases same
  decide

/-- A 32-bit build with a limit of 1024 bytes, and no bytes in the log. -/
def narrowConfig : Config where
  build := ⟨true, 32⟩
  sessionBufferMax := 1024
  sessionPoolCount := 2
  workerCount := 8
  hexCode := false
  rawPrevSize _ := 0

/--
The length `0xFFFFFFFF`: the sum is 15, a chunk of 256 bytes is requested, and
the packet has `2 ^ 32 - 1` bytes.
-/
theorem not_contained_wrapped :
    ∃ outcome : Outcome (HeaderCct narrowConfig.build),
      AsyncSessionImpl.readHeader narrowConfig 0 false
            (.received
              (List.replicate 14 0 ++ [255, 255, 255, 255] ++
                List.replicate 15 0))
            (.make HeaderCct.make 0) =
          outcome ∧
        outcome.result = true ∧
        outcome.bodyCapacity narrowConfig.build = 256 ∧
        ((outcome.session.readBody narrowConfig 0 false
              (.received (List.replicate 15 0))).map fun outcome =>
            outcome.inserted.map fun packet => packet.sizeOfBuffer) =
          some [2 ^ 32 - 1] ∧
        ∀ hexCode, ¬ Contained narrowConfig hexCode outcome := by
  refine ⟨_, rfl, by decide, by decide, by decide, ?_⟩
  intro hexCode contained
  exact absurd contained.limited (by decide)

end LibSklt.Net
