import LibSklt.Foundation.MachineWord

/-!
# Bounds-checked buffer access (`util/memory_manager.h`)

`MemoryManager::ReadFromBuffer` copies a number of bytes from a buffer at a
cursor and advances the cursor, after comparing the end of the copied range
with the buffer's size.  Both sums are `size_t` sums.  `WriteToBuffer` is the
same in the other direction.
-/

namespace LibSklt.Util.MemoryManager

open LibSklt.Foundation.MachineWord

/--
`MemoryManager::ReadFromBuffer`: the copied bytes and the new cursor, or
`none` where it returns `false`.
-/
def readFromBuffer
    (sizeBits : Nat) (buffer : List UInt8)
    (bufferSize bufferPos targetSize : Nat) :
    Option (List UInt8 × Nat) :=
  if bufferSize < addWord sizeBits bufferPos targetSize then
    none
  else
    some ((buffer.drop bufferPos).take targetSize,
      addWord sizeBits bufferPos targetSize)

/--
`MemoryManager::WriteToBuffer` of the bytes of the target: the buffer and the
new cursor, or `none` where it returns `false`.
-/
def writeToBuffer
    (sizeBits : Nat) (buffer : List UInt8) (bufferSize bufferPos : Nat)
    (target : List UInt8) : Option (List UInt8 × Nat) :=
  if bufferSize < addWord sizeBits bufferPos target.length then
    none
  else
    some
      (buffer.take bufferPos ++ target ++
          buffer.drop (bufferPos + target.length),
        addWord sizeBits bufferPos target.length)

section

variable {sizeBits : Nat}

/-- A read behind a prefix, as far as the buffer goes. -/
theorem readFromBuffer_of_le
    {buffer : List UInt8} {position size : Nat}
    (fits : position + size ≤ buffer.length)
    (bounded : buffer.length < 2 ^ sizeBits) :
    readFromBuffer sizeBits buffer buffer.length position size =
      some ((buffer.drop position).take size, position + size) := by
  rw [readFromBuffer, addWord_of_lt (by omega), if_neg (by omega)]

theorem readFromBuffer_of_lt
    {buffer : List UInt8} {position size : Nat}
    (short : buffer.length < position + size)
    (bounded : position + size < 2 ^ sizeBits) :
    readFromBuffer sizeBits buffer buffer.length position size = none := by
  rw [readFromBuffer, addWord_of_lt bounded, if_pos short]

/-- A write behind what was written already. -/
theorem writeToBuffer_append
    {written room target : List UInt8} (fits : target.length ≤ room.length)
    (bounded : written.length + room.length < 2 ^ sizeBits) :
    writeToBuffer sizeBits (written ++ room)
        (written.length + room.length) written.length target =
      some (written ++ target ++ room.drop target.length,
        (written ++ target).length) := by
  rw [writeToBuffer, addWord_of_lt (by omega), if_neg (by omega),
    List.take_left, List.length_append, ← List.drop_drop, List.drop_left]

end

end LibSklt.Util.MemoryManager
