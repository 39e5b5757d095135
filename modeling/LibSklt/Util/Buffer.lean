import LibSklt.Foundation.MachineWord
import LibSklt.Foundation.Ring

/-!
# The ring buffer `CBuffer` (`util/buffer.h`)

`CBuffer<size_of_buffer, type_of_buffer>` uses a block of memory as a ring.
The elements are bytes here, `m_pBuffer.size()` is the capacity
`size_of_buffer`, and all sums and differences are sums and differences of
`size_t` values.  A position that reached the end of the block stays there
until the next call of `GetReadPos` or `GetWritePos`.

A copy whose range leaves the block, or the object of the caller, has no
defined result: the call is `none`.  `Write` returns zero in any case, and
`Read` the size that it was given; both are left out.
-/

namespace LibSklt.Util.Buffer

open LibSklt.Foundation.MachineWord
open LibSklt.Foundation.Ring

/--
The template argument and the machine.  An object is smaller than half of the
address space (`PTRDIFF_MAX`).
-/
structure Template where
  sizeBits : Nat
  sizeOfBuffer : Nat
  fits : 2 * sizeOfBuffer < 2 ^ sizeBits

/-- The members of `CBuffer`, with the block that `m_pBuffer` points to. -/
structure CBuffer where
  memory : List UInt8
  sizeRead : Nat
  sizeWrite : Nat
deriving DecidableEq

/-! ## Copies -/

/--
`memcpy`: the destination after a copy of `count` bytes, `none` if a range
leaves its object.
-/
def memcpy (destination : List UInt8) (offset : Nat)
    (source : List UInt8) (sourceOffset count : Nat) :
    Option (List UInt8) :=
  if sourceOffset + count ≤ source.length ∧
      offset + count ≤ destination.length then
    some (store destination offset (load source sourceOffset count))
  else
    none

/--
`memcpy_s`: it copies exactly if the count fits in the given size of the
destination.  The Boolean says whether it returned zero.
-/
def memcpyS (destination : List UInt8) (offset sizeOfDestination : Nat)
    (source : List UInt8) (sourceOffset count : Nat) :
    Option (Bool × List UInt8) :=
  if count ≤ sizeOfDestination then
    (memcpy destination offset source sourceOffset count).map
      fun copied => (true, copied)
  else
    some (false, destination)

/-! ## Positions -/

section

variable (template : Template)

/-- `ReadsetRangeCheck(add)` and `WritesetRangeCheck(add)`. -/
def rangeCheck (position add : Nat) : Nat :=
  if addWord template.sizeBits position add < template.sizeOfBuffer then
    0
  else
    subWord template.sizeBits (addWord template.sizeBits position add)
      template.sizeOfBuffer

/-- `ReadsetRangeSet(size)` and `WritesetRangeSet(size)`. -/
def rangeSet (position size : Nat) : Nat :=
  if position < template.sizeOfBuffer then
    addWord template.sizeBits position size
  else
    subWord template.sizeBits (addWord template.sizeBits position size)
      template.sizeOfBuffer

namespace CBuffer

def readsetRangeCheck (self : CBuffer) (add : Nat) : Nat :=
  rangeCheck template self.sizeRead add

def writesetRangeCheck (self : CBuffer) (add : Nat) : Nat :=
  rangeCheck template self.sizeWrite add

def readsetRangeSet (self : CBuffer) (size : Nat) : CBuffer :=
  { self with sizeRead := rangeSet template self.sizeRead size }

def writesetRangeSet (self : CBuffer) (size : Nat) : CBuffer :=
  { self with sizeWrite := rangeSet template self.sizeWrite size }

/-- `GetReadPos`: the offset of the pointer is `m_sizeRead` afterwards. -/
def getReadPos (self : CBuffer) : CBuffer :=
  self.readsetRangeSet template 0

/-- `GetWritePos`: the offset of the pointer is `m_sizeWrite` afterwards. -/
def getWritePos (self : CBuffer) : CBuffer :=
  self.writesetRangeSet template 0

/-- `reset`, which clears the block if it is told to. -/
def reset (self : CBuffer) (bMemSet : Bool) : CBuffer where
  memory :=
    if bMemSet then
      store self.memory 0 (List.replicate template.sizeOfBuffer 0)
    else
      self.memory
  sizeRead := 0
  sizeWrite := 0

/-! ## `Write` and `Read` -/

/--
`if(!memcpy_s(GetWritePos(), m_pBuffer.size(), source + sourceOffset, count))
WritesetRangeSet(count);`
-/
def copyIn (self : CBuffer) (source : List UInt8)
    (sourceOffset count : Nat) : Option CBuffer :=
  let self := self.getWritePos template
  (memcpyS self.memory self.sizeWrite template.sizeOfBuffer source
      sourceOffset count).map fun (copied, memory) =>
    let self := { self with memory := memory }
    if copied then self.writesetRangeSet template count else self

/--
`if(!memcpy_s(target + targetOffset, sizeOfTarget, GetReadPos(), count))
ReadsetRangeSet(count);`
-/
def copyOut (self : CBuffer) (target : List UInt8)
    (targetOffset sizeOfTarget count : Nat) :
    Option (List UInt8 × CBuffer) :=
  let self := self.getReadPos template
  (memcpyS target targetOffset sizeOfTarget self.memory self.sizeRead
      count).map fun (copied, target) =>
    (target, if copied then self.readsetRangeSet template count else self)

/-- `Write(void* data, size_t size)`. -/
def write (self : CBuffer) (data : List UInt8) (size : Nat) :
    Option CBuffer :=
  let sizeRemain := self.writesetRangeCheck template size
  if sizeRemain = 0 then
    self.copyIn template data 0 size
  else
    let sizeTail := subWord template.sizeBits size sizeRemain
    (if sizeTail ≠ 0 then self.copyIn template data 0 sizeTail
      else some self).bind fun self =>
    self.copyIn template data sizeTail sizeRemain

/-- `Write(T& data)`, on the bytes of `data`. -/
def writeValue (self : CBuffer) (data : List UInt8) : Option CBuffer :=
  let size := data.length
  let sizeRemain := self.writesetRangeCheck template size
  if sizeRemain = 0 then
    self.copyIn template data 0 size
  else
    let sizeTail := subWord template.sizeBits size sizeRemain
    (if size ≠ 0 then self.copyIn template data 0 sizeTail
      else some self).bind fun self =>
    self.copyIn template data 0 sizeRemain

/-- `Read(void* data, size_t size)`. -/
def read (self : CBuffer) (data : List UInt8) (size : Nat) :
    Option (List UInt8 × CBuffer) :=
  let sizeRemain := self.readsetRangeCheck template size
  if sizeRemain = 0 then
    self.copyOut template data 0 size size
  else
    let sizeTail := subWord template.sizeBits size sizeRemain
    (if sizeTail ≠ 0 then
        self.copyOut template data 0 sizeTail sizeTail
      else some (data, self)).bind fun (data, self) =>
    self.copyOut template data sizeTail sizeRemain sizeRemain

/-- `Read(T& data)`, on the bytes of `data`. -/
def readValue (self : CBuffer) (data : List UInt8) :
    Option (List UInt8 × CBuffer) :=
  let size := data.length
  let sizeRemain := self.readsetRangeCheck template size
  if sizeRemain = 0 then
    self.copyOut template data 0 size size
  else
    let sizeTail := subWord template.sizeBits size sizeRemain
    (if sizeTail ≠ 0 then
        self.copyOut template data 0 size sizeTail
      else some (data, self)).bind fun (data, self) =>
    self.copyOut template data 0 size sizeRemain

/-- `ReadSet`. -/
def readSet (self : CBuffer) (size : Nat) : CBuffer :=
  { self with
    sizeRead := addWord template.sizeBits self.sizeRead size }

end CBuffer

end

/-! ## What the calls do -/

section

variable {template : Template} {position : Nat}

theorem rangeCheck_eq
    {add : Nat} (inside : position ≤ template.sizeOfBuffer)
    (bounded : add ≤ template.sizeOfBuffer) :
    rangeCheck template position add =
      position + add - template.sizeOfBuffer := by
  have fits := template.fits
  rw [rangeCheck, addWord_of_lt (by omega)]
  split_ifs with before
  · omega
  · exact subWord_of_le (by omega) (by omega)

/-- From the index of a position, `RangeSet` only counts on. -/
theorem rangeSet_wrap
    {size : Nat} (inside : position ≤ template.sizeOfBuffer)
    (bounded : size ≤ template.sizeOfBuffer) :
    rangeSet template (wrap template.sizeOfBuffer position) size =
      wrap template.sizeOfBuffer position + size := by
  have fits := template.fits
  have index :
      wrap template.sizeOfBuffer position ≤ template.sizeOfBuffer :=
    wrap_le inside
  rw [rangeSet, addWord_of_lt (by omega)]
  split_ifs with before
  · rfl
  · have empty : template.sizeOfBuffer = 0 := by
      rw [wrap] at before
      split_ifs at before <;> omega
    rw [subWord_of_le (by omega) (by omega), empty, Nat.sub_zero]

/-- Without a step, `RangeSet` goes from a position to its index. -/
theorem rangeSet_zero
    (inside : position ≤ template.sizeOfBuffer) :
    rangeSet template position 0 = wrap template.sizeOfBuffer position := by
  have fits := template.fits
  rw [rangeSet, addWord_of_lt (by omega), Nat.add_zero, wrap]
  split_ifs
  · rfl
  · exact subWord_of_le (by omega) (by omega)

end

namespace CBuffer

/-- The block has the size of the template, and no position is outside. -/
structure InRange (template : Template) (buffer : CBuffer) : Prop where
  memory : buffer.memory.length = template.sizeOfBuffer
  sizeRead : buffer.sizeRead ≤ template.sizeOfBuffer
  sizeWrite : buffer.sizeWrite ≤ template.sizeOfBuffer

variable {template : Template} {self : CBuffer}

theorem copyIn_eq
    {source : List UInt8} {sourceOffset count : Nat}
    (inRange : InRange template self)
    (given : sourceOffset + count ≤ source.length)
    (room :
      wrap template.sizeOfBuffer self.sizeWrite + count ≤
        template.sizeOfBuffer) :
    self.copyIn template source sourceOffset count =
      some
        { self with
          memory :=
            store self.memory
              (wrap template.sizeOfBuffer self.sizeWrite)
              (load source sourceOffset count)
          sizeWrite :=
            wrap template.sizeOfBuffer self.sizeWrite + count } := by
  have bounded : count ≤ template.sizeOfBuffer := by omega
  have ranges :
      sourceOffset + count ≤ source.length ∧
        wrap template.sizeOfBuffer self.sizeWrite + count ≤
          self.memory.length := by
    rw [inRange.memory]
    exact ⟨given, room⟩
  simp only [copyIn, getWritePos, writesetRangeSet,
    rangeSet_zero inRange.sizeWrite, memcpyS, if_pos bounded, memcpy,
    if_pos ranges, Option.map_some, if_true,
    rangeSet_wrap inRange.sizeWrite bounded]

theorem copyOut_eq
    {target : List UInt8} {targetOffset sizeOfTarget count : Nat}
    (inRange : InRange template self) (fits : count ≤ sizeOfTarget)
    (given : targetOffset + count ≤ target.length)
    (present :
      wrap template.sizeOfBuffer self.sizeRead + count ≤
        template.sizeOfBuffer) :
    self.copyOut template target targetOffset sizeOfTarget count =
      some
        (store target targetOffset
            (load self.memory
              (wrap template.sizeOfBuffer self.sizeRead) count),
          { self with
            sizeRead :=
              wrap template.sizeOfBuffer self.sizeRead + count }) := by
  have ranges :
      wrap template.sizeOfBuffer self.sizeRead + count ≤
          self.memory.length ∧
        targetOffset + count ≤ target.length := by
    rw [inRange.memory]
    exact ⟨present, given⟩
  simp only [copyOut, getReadPos, readsetRangeSet,
    rangeSet_zero inRange.sizeRead, memcpyS, if_pos fits, memcpy,
    if_pos ranges, Option.map_some, if_true,
    rangeSet_wrap inRange.sizeRead (show count ≤ _ by omega)]

/-- Whether a piece at a position would have to go on at the beginning. -/
def Straddles (template : Template) (position size : Nat) : Prop :=
  position < template.sizeOfBuffer ∧
    template.sizeOfBuffer < position + size

instance (template : Template) (position size : Nat) :
    Decidable (Straddles template position size) :=
  inferInstanceAs (Decidable (_ ∧ _))

/-- A piece that does not straddle the end fits behind the index. -/
theorem wrap_add_le
    {position size : Nat} (inside : position ≤ template.sizeOfBuffer)
    (bounded : size ≤ template.sizeOfBuffer)
    (whole : ¬ Straddles template position size) :
    wrap template.sizeOfBuffer position + size ≤
      template.sizeOfBuffer := by
  rw [Straddles] at whole
  rw [wrap]
  split_ifs <;> omega

/-- `Write` of a piece that does not straddle the end. -/
theorem write_of_whole
    {data : List UInt8} (inRange : InRange template self)
    (bounded : data.length ≤ template.sizeOfBuffer)
    (whole : ¬ Straddles template self.sizeWrite data.length) :
    self.write template data data.length =
      some
        { self with
          memory :=
            store self.memory
              (wrap template.sizeOfBuffer self.sizeWrite) data
          sizeWrite :=
            wrap template.sizeOfBuffer self.sizeWrite + data.length } := by
  have inside := inRange.sizeWrite
  have copied :=
    copyIn_eq inRange (show 0 + data.length ≤ data.length by omega)
      (wrap_add_le inside bounded whole)
  rw [load_all] at copied
  simp only [write, writesetRangeCheck, rangeCheck_eq inside bounded]
  by_cases fits : self.sizeWrite + data.length ≤ template.sizeOfBuffer
  · rw [if_pos (by omega)]
    exact copied
  · rw [Straddles] at whole
    -- The position rests at the end: nothing is copied there.
    have remain :
        self.sizeWrite + data.length - template.sizeOfBuffer =
          data.length := by
      omega
    have tail : subWord template.sizeBits data.length data.length = 0 := by
      have range := template.fits
      exact subWord_self (by omega)
    rw [remain, if_neg (by omega), tail, if_neg (by simp)]
    exact copied

/-- `Read` of a piece that does not straddle the end. -/
theorem read_of_whole
    {data : List UInt8} (inRange : InRange template self)
    (bounded : data.length ≤ template.sizeOfBuffer)
    (whole : ¬ Straddles template self.sizeRead data.length) :
    self.read template data data.length =
      some
        (load self.memory (wrap template.sizeOfBuffer self.sizeRead)
            data.length,
          { self with
            sizeRead :=
              wrap template.sizeOfBuffer self.sizeRead +
                data.length }) := by
  have inside := inRange.sizeRead
  have present := wrap_add_le inside bounded whole
  have copied :=
    copyOut_eq inRange (Nat.le_refl data.length)
      (show 0 + data.length ≤ data.length by omega) present
  rw [store_all (length_load (inRange.memory ▸ present))] at copied
  simp only [read, readsetRangeCheck, rangeCheck_eq inside bounded]
  by_cases fits : self.sizeRead + data.length ≤ template.sizeOfBuffer
  · rw [if_pos (by omega)]
    exact copied
  · rw [Straddles] at whole
    have remain :
        self.sizeRead + data.length - template.sizeOfBuffer =
          data.length := by
      omega
    have tail : subWord template.sizeBits data.length data.length = 0 := by
      have range := template.fits
      exact subWord_self (by omega)
    rw [remain, if_neg (by omega), tail, if_neg (by simp)]
    exact copied

/-! ### Pieces that straddle the end -/

/-- What remains behind the end, and what is left of the piece before it. -/
theorem remain_of_straddles
    {position size : Nat} (straddles : Straddles template position size)
    (bounded : size ≤ template.sizeOfBuffer) :
    rangeCheck template position size =
        position + size - template.sizeOfBuffer ∧
      subWord template.sizeBits size
          (position + size - template.sizeOfBuffer) =
        template.sizeOfBuffer - position := by
  obtain ⟨inside, outside⟩ := straddles
  have range := template.fits
  refine ⟨rangeCheck_eq inside.le bounded, ?_⟩
  rw [subWord_of_le (by omega) (by omega)]
  omega

/-- A copy up to the end and one at the beginning. -/
theorem copyIn_copyIn
    {data : List UInt8} {offset count : Nat}
    (inRange : InRange template self)
    (inside : self.sizeWrite < template.sizeOfBuffer)
    (first : template.sizeOfBuffer - self.sizeWrite ≤ data.length)
    (second : offset + count ≤ data.length)
    (bounded : count ≤ template.sizeOfBuffer) :
    ((self.copyIn template data 0
        (template.sizeOfBuffer - self.sizeWrite)).bind fun self =>
      self.copyIn template data offset count) =
      some
        { self with
          memory :=
            store
              (store self.memory self.sizeWrite
                (load data 0 (template.sizeOfBuffer - self.sizeWrite)))
              0 (load data offset count)
          sizeWrite := count } := by
  have index := wrap_of_lt inside
  have atEnd :
      self.sizeWrite + (template.sizeOfBuffer - self.sizeWrite) =
        template.sizeOfBuffer := by
    omega
  rw [copyIn_eq inRange (by omega) (by rw [index]; omega),
    Option.bind_some, index, atEnd, copyIn_eq _ second]
  · simp only [wrap_self, Nat.zero_add]
  · simp only [wrap_self, Nat.zero_add]
    exact bounded
  · refine ⟨?_, inRange.sizeRead, Nat.le_refl _⟩
    simp only
    rw [length_store, inRange.memory]
    rw [length_load (by omega), inRange.memory]
    omega

theorem copyOut_copyOut
    {data : List UInt8} {offset firstSize secondSize count : Nat}
    (inRange : InRange template self)
    (inside : self.sizeRead < template.sizeOfBuffer)
    (first : template.sizeOfBuffer - self.sizeRead ≤ data.length)
    (firstFits : template.sizeOfBuffer - self.sizeRead ≤ firstSize)
    (second : offset + count ≤ data.length)
    (secondFits : count ≤ secondSize)
    (bounded : count ≤ template.sizeOfBuffer) :
    ((self.copyOut template data 0 firstSize
        (template.sizeOfBuffer - self.sizeRead)).bind fun (data, self) =>
      self.copyOut template data offset secondSize count) =
      some
        (store
            (store data 0
              (load self.memory self.sizeRead
                (template.sizeOfBuffer - self.sizeRead)))
            offset (load self.memory 0 count),
          { self with sizeRead := count }) := by
  have index := wrap_of_lt inside
  have atEnd :
      self.sizeRead + (template.sizeOfBuffer - self.sizeRead) =
        template.sizeOfBuffer := by
    omega
  have loaded :
      (load self.memory self.sizeRead
          (template.sizeOfBuffer - self.sizeRead)).length =
        template.sizeOfBuffer - self.sizeRead := by
    apply length_load
    rw [inRange.memory]
    omega
  rw [copyOut_eq inRange firstFits (by omega) (by rw [index]; omega),
    Option.bind_some, index, atEnd]
  simp only
  rw [copyOut_eq _ secondFits]
  · simp only [wrap_self, Nat.zero_add]
  · rw [length_store (by omega)]
    exact second
  · simp only [wrap_self, Nat.zero_add]
    exact bounded
  · exact ⟨inRange.memory, Nat.le_refl _, inRange.sizeWrite⟩

theorem write_of_straddles
    {data : List UInt8} (inRange : InRange template self)
    (bounded : data.length ≤ template.sizeOfBuffer)
    (straddles : Straddles template self.sizeWrite data.length) :
    self.write template data data.length =
      some
        { self with
          memory :=
            store
              (store self.memory self.sizeWrite
                (load data 0 (template.sizeOfBuffer - self.sizeWrite)))
              0
              (load data (template.sizeOfBuffer - self.sizeWrite)
                (self.sizeWrite + data.length - template.sizeOfBuffer))
          sizeWrite :=
            self.sizeWrite + data.length - template.sizeOfBuffer } := by
  obtain ⟨remain, tail⟩ := remain_of_straddles straddles bounded
  obtain ⟨inside, outside⟩ := straddles
  simp only [write, writesetRangeCheck, remain, tail]
  rw [if_neg (by omega), if_pos (by omega)]
  exact copyIn_copyIn inRange inside (by omega) (by omega) (by omega)

theorem read_of_straddles
    {data : List UInt8} (inRange : InRange template self)
    (bounded : data.length ≤ template.sizeOfBuffer)
    (straddles : Straddles template self.sizeRead data.length) :
    self.read template data data.length =
      some
        (load self.memory self.sizeRead
              (template.sizeOfBuffer - self.sizeRead) ++
            load self.memory 0
              (self.sizeRead + data.length - template.sizeOfBuffer),
          { self with
            sizeRead :=
              self.sizeRead + data.length - template.sizeOfBuffer }) := by
  obtain ⟨remain, tail⟩ := remain_of_straddles straddles bounded
  obtain ⟨inside, outside⟩ := straddles
  have first :
      (load self.memory self.sizeRead
          (template.sizeOfBuffer - self.sizeRead)).length =
        template.sizeOfBuffer - self.sizeRead := by
    apply length_load
    rw [inRange.memory]
    omega
  have second :
      (load self.memory 0
          (self.sizeRead + data.length - template.sizeOfBuffer)).length =
        self.sizeRead + data.length - template.sizeOfBuffer := by
    apply length_load
    rw [inRange.memory]
    omega
  have filled := @store_store _ data
    (load self.memory self.sizeRead
      (template.sizeOfBuffer - self.sizeRead))
    (load self.memory 0
      (self.sizeRead + data.length - template.sizeOfBuffer)) (by omega)
  rw [first] at filled
  simp only [read, readsetRangeCheck, remain, tail]
  rw [if_neg (by omega), if_pos (by omega), ← filled]
  exact copyOut_copyOut inRange inside (by omega) (Nat.le_refl _)
    (by omega) (Nat.le_refl _) (by omega)

/-! ### Both cases -/

/-- `Write` stores around the end of the block. -/
theorem write_eq
    {data : List UInt8} (inRange : InRange template self)
    (bounded : data.length ≤ template.sizeOfBuffer) :
    self.write template data data.length =
      some
        { self with
          memory :=
            ringStore self.memory
              (wrap template.sizeOfBuffer self.sizeWrite) data
          sizeWrite :=
            advance template.sizeOfBuffer self.sizeWrite
              data.length } := by
  by_cases straddles : Straddles template self.sizeWrite data.length
  · have rest :
        load data (template.sizeOfBuffer - self.sizeWrite)
            (self.sizeWrite + data.length - template.sizeOfBuffer) =
          data.drop (template.sizeOfBuffer - self.sizeWrite) := by
      rw [load, List.take_of_length_le]
      rw [List.length_drop]
      omega
    rw [write_of_straddles inRange bounded straddles, rest]
    obtain ⟨inside, outside⟩ := straddles
    rw [wrap_of_lt inside, ringStore, inRange.memory, if_neg (by omega),
      advance, wrap_of_lt inside, if_neg (by omega)]
    rfl
  · have fits := wrap_add_le inRange.sizeWrite bounded straddles
    rw [write_of_whole inRange bounded straddles, ringStore,
      inRange.memory, if_pos fits, advance, if_pos fits]

/-- `Read` loads around the end of the block. -/
theorem read_eq
    {data : List UInt8} (inRange : InRange template self)
    (bounded : data.length ≤ template.sizeOfBuffer) :
    self.read template data data.length =
      some
        (ringLoad self.memory (wrap template.sizeOfBuffer self.sizeRead)
            data.length,
          { self with
            sizeRead :=
              advance template.sizeOfBuffer self.sizeRead
                data.length }) := by
  by_cases straddles : Straddles template self.sizeRead data.length
  · rw [read_of_straddles inRange bounded straddles]
    obtain ⟨inside, outside⟩ := straddles
    rw [wrap_of_lt inside, ringLoad, inRange.memory, if_neg (by omega),
      advance, wrap_of_lt inside, if_neg (by omega)]
  · have fits := wrap_add_le inRange.sizeRead bounded straddles
    rw [read_of_whole inRange bounded straddles, ringLoad,
      inRange.memory, if_pos fits, advance, if_pos fits]

end CBuffer

end LibSklt.Util.Buffer
