import LibSklt.Util.BufferQueue

/-!
# Values in the ring buffer, and skipped bytes

`Write(T&)` and `Read(T&)` are copies of the functions for bytes.  Where a
value straddles the end of the block, they start again at the first byte of
the value instead of going on behind the part that was copied.

`ReadSet` skips bytes by moving the read position, also past the end of the
block.  A `Read` that starts from such a position computes a part before the
end that is negative, as a very large `size_t`.
-/

namespace LibSklt.Util.Buffer

open LibSklt.Foundation.MachineWord
open LibSklt.Foundation.Ring

variable {template : Template} {self : CBuffer}

/-! ## Values -/

namespace CBuffer

/-- `Write(T&)` of a value that does not straddle the end. -/
theorem writeValue_of_whole
    {value : List UInt8} (inRange : InRange template self)
    (bounded : value.length ≤ template.sizeOfBuffer)
    (whole : ¬ Straddles template self.sizeWrite value.length) :
    self.writeValue template value =
      self.write template value value.length := by
  have inside := inRange.sizeWrite
  simp only [writeValue, write, writesetRangeCheck,
    rangeCheck_eq inside bounded]
  by_cases fits : self.sizeWrite + value.length ≤ template.sizeOfBuffer
  · rw [if_pos (by omega), if_pos (by omega)]
  · rw [Straddles] at whole
    obtain ⟨atEnd, remain⟩ :
        self.sizeWrite = template.sizeOfBuffer ∧
          self.sizeWrite + value.length - template.sizeOfBuffer =
            value.length := by
      omega
    have tail :
        subWord template.sizeBits value.length value.length = 0 := by
      have range := template.fits
      exact subWord_self (by omega)
    have positive : value.length ≠ 0 := by omega
    simp only [remain, tail, positive, ne_eq, not_false_eq_true,
      not_true_eq_false, if_true, if_false, Option.bind_some]
    -- Copying nothing only moves the position from the end to the beginning.
    have nothing :=
      copyIn_eq inRange (show 0 + 0 ≤ value.length by omega)
        (show wrap template.sizeOfBuffer self.sizeWrite + 0 ≤ _ by
          rw [atEnd, wrap_self]
          omega)
    rw [load_zero, store_nil, atEnd, wrap_self] at nothing
    have again : InRange template { self with sizeWrite := 0 } :=
      ⟨inRange.memory, inRange.sizeRead, Nat.zero_le _⟩
    rw [nothing, Option.bind_some,
      copyIn_eq inRange (by omega) (by rw [atEnd, wrap_self]; omega),
      copyIn_eq again (by omega) (by simp only [wrap_zero]; omega)]
    simp only [atEnd, wrap_self, wrap_zero]

/-- `Read(T&)` of a value that does not straddle the end. -/
theorem readValue_of_whole
    {value : List UInt8} (inRange : InRange template self)
    (bounded : value.length ≤ template.sizeOfBuffer)
    (whole : ¬ Straddles template self.sizeRead value.length) :
    self.readValue template value =
      self.read template value value.length := by
  have inside := inRange.sizeRead
  simp only [readValue, read, readsetRangeCheck,
    rangeCheck_eq inside bounded]
  by_cases fits : self.sizeRead + value.length ≤ template.sizeOfBuffer
  · rw [if_pos (by omega), if_pos (by omega)]
  · rw [Straddles] at whole
    have remain :
        self.sizeRead + value.length - template.sizeOfBuffer =
          value.length := by
      omega
    have tail :
        subWord template.sizeBits value.length value.length = 0 := by
      have range := template.fits
      exact subWord_self (by omega)
    simp only [remain, tail, ne_eq, not_true_eq_false, if_false,
      Option.bind_some]

/-- `Write(T&)` starts again at the first byte of the value. -/
theorem writeValue_of_straddles
    {value : List UInt8} (inRange : InRange template self)
    (bounded : value.length ≤ template.sizeOfBuffer)
    (straddles : Straddles template self.sizeWrite value.length) :
    self.writeValue template value =
      some
        { self with
          memory :=
            store
              (store self.memory self.sizeWrite
                (load value 0 (template.sizeOfBuffer - self.sizeWrite)))
              0
              (load value 0
                (self.sizeWrite + value.length - template.sizeOfBuffer))
          sizeWrite :=
            self.sizeWrite + value.length - template.sizeOfBuffer } := by
  obtain ⟨remain, tail⟩ := remain_of_straddles straddles bounded
  obtain ⟨inside, outside⟩ := straddles
  simp only [writeValue, writesetRangeCheck, remain, tail]
  rw [if_neg (by omega), if_pos (by omega)]
  exact copyIn_copyIn inRange inside (by omega) (by omega) (by omega)

/-- `Read(T&)` overwrites the beginning of the value. -/
theorem readValue_of_straddles
    {value : List UInt8} (inRange : InRange template self)
    (bounded : value.length ≤ template.sizeOfBuffer)
    (straddles : Straddles template self.sizeRead value.length) :
    self.readValue template value =
      some
        (store
            (store value 0
              (load self.memory self.sizeRead
                (template.sizeOfBuffer - self.sizeRead)))
            0
            (load self.memory 0
              (self.sizeRead + value.length - template.sizeOfBuffer)),
          { self with
            sizeRead :=
              self.sizeRead + value.length -
                template.sizeOfBuffer }) := by
  obtain ⟨remain, tail⟩ := remain_of_straddles straddles bounded
  obtain ⟨inside, outside⟩ := straddles
  simp only [readValue, readsetRangeCheck, remain, tail]
  rw [if_neg (by omega), if_pos (by omega)]
  exact copyOut_copyOut inRange inside (by omega) (by omega) (by omega)
    (by omega) (by omega)

end CBuffer

/--
The functions for values of a size do the same as those for bytes, and a
value that was written is read back from the position it was written at.
-/
structure ValuesAgree (template : Template) (buffer : CBuffer)
    (size : Nat) : Prop where
  write :
    ∀ value : List UInt8, value.length = size →
      buffer.writeValue template value = buffer.write template value size
  read :
    ∀ value : List UInt8, value.length = size →
      buffer.readValue template value = buffer.read template value size
  roundTrip :
    ∀ value earlier : List UInt8, value.length = size →
      earlier.length = size →
        ∃ written final,
          buffer.writeValue template value = some written ∧
            CBuffer.readValue template
                { written with sizeRead := buffer.sizeWrite } earlier =
              some (value, final)

section

variable {size : Nat}

/--
Where both functions write the same, the value goes on behind the end as it
begins.
-/
theorem load_eq_of_writeValue_eq
    {value : List UInt8} (inRange : CBuffer.InRange template self)
    (bounded : value.length ≤ template.sizeOfBuffer)
    (straddles :
      CBuffer.Straddles template self.sizeWrite value.length)
    (same :
      self.writeValue template value =
        self.write template value value.length) :
    load value 0
        (self.sizeWrite + value.length - template.sizeOfBuffer) =
      load value (template.sizeOfBuffer - self.sizeWrite)
        (self.sizeWrite + value.length - template.sizeOfBuffer) := by
  have block := inRange.memory
  have between := straddles
  obtain ⟨inside, outside⟩ := between
  rw [CBuffer.writeValue_of_straddles inRange bounded straddles,
    CBuffer.write_of_straddles inRange bounded straddles] at same
  have before :
      self.sizeWrite +
          (load value 0
            (template.sizeOfBuffer - self.sizeWrite)).length ≤
        self.memory.length := by
    rw [length_load (by omega)]
    omega
  -- The beginning of the block holds what the second copy brought.
  have loaded :
      ∀ offset, offset ≤ template.sizeOfBuffer - self.sizeWrite →
        load
            (store
              (store self.memory self.sizeWrite
                (load value 0 (template.sizeOfBuffer - self.sizeWrite)))
              0
              (load value offset
                (self.sizeWrite + value.length - template.sizeOfBuffer)))
            0 (self.sizeWrite + value.length - template.sizeOfBuffer) =
          load value offset
            (self.sizeWrite + value.length - template.sizeOfBuffer) := by
    intro offset early
    have count :
        (load value offset
            (self.sizeWrite + value.length -
              template.sizeOfBuffer)).length =
          self.sizeWrite + value.length - template.sizeOfBuffer :=
      length_load (by omega)
    nth_rewrite 2 [← count]
    apply load_store
    rw [length_store before, count]
    omega
  have memories :=
    congrArg (Option.map fun buffer => load buffer.memory 0
      (self.sizeWrite + value.length - template.sizeOfBuffer)) same
  simpa only [Option.map_some, Option.some.injEq,
    loaded 0 (Nat.zero_le _), loaded _ (Nat.le_refl _)] using memories

/-- Some value that straddles the end is written differently. -/
theorem exists_writeValue_ne
    (inRange : CBuffer.InRange template self)
    (bounded : size ≤ template.sizeOfBuffer)
    (straddles : CBuffer.Straddles template self.sizeWrite size) :
    ∃ value : List UInt8,
      value.length = size ∧
        self.writeValue template value ≠
          self.write template value size := by
  have between := straddles
  obtain ⟨inside, outside⟩ := between
  obtain ⟨rest, rfl⟩ : ∃ rest, size = rest + 1 := ⟨size - 1, by omega⟩
  have length : ((1 : UInt8) :: List.replicate rest 0).length = rest + 1 := by
    simp
  refine ⟨1 :: List.replicate rest 0, length, ?_⟩
  rw [← length] at bounded straddles ⊢
  intro same
  have halves :=
    load_eq_of_writeValue_eq inRange bounded straddles same
  rw [length] at halves
  -- One half starts with the first byte of the value, the other one later.
  have firsts := congrArg (fun bytes : List UInt8 => bytes[0]?) halves
  obtain ⟨index, later⟩ :
      ∃ index, template.sizeOfBuffer - self.sizeWrite = index + 1 :=
    ⟨template.sizeOfBuffer - self.sizeWrite - 1, by omega⟩
  rw [getElem?_load (by omega), getElem?_load (by omega), later,
    Nat.zero_add, Nat.add_zero, List.getElem?_cons_zero,
    List.getElem?_cons_succ, List.getElem?_replicate,
    if_pos (by omega)] at firsts
  simp at firsts

/-- Some earlier value shows through where the end is straddled. -/
theorem exists_readValue_ne
    (inRange : CBuffer.InRange template self)
    (bounded : size ≤ template.sizeOfBuffer)
    (straddles : CBuffer.Straddles template self.sizeRead size) :
    ∃ value : List UInt8,
      value.length = size ∧
        self.readValue template value ≠
          self.read template value size := by
  have between := straddles
  obtain ⟨inside, outside⟩ := between
  have block := inRange.memory
  -- The last byte that `Read` takes from the block.
  obtain ⟨last, present⟩ :
      ∃ last,
        self.memory[self.sizeRead + size - template.sizeOfBuffer - 1]? =
          some last :=
    ⟨_, List.getElem?_eq_getElem (by omega)⟩
  have length : (List.replicate size (last + 1)).length = size :=
    List.length_replicate
  refine ⟨List.replicate size (last + 1), length, ?_⟩
  rw [← length] at bounded straddles
  intro same
  have typed :=
    CBuffer.readValue_of_straddles inRange bounded straddles
  have bytes := CBuffer.read_of_straddles inRange bounded straddles
  rw [length] at typed bytes bounded
  rw [typed, bytes] at same
  have values := congrArg (Option.map fun result => result.1[size - 1]?) same
  simp only [Option.map_some, Option.some.injEq] at values
  have firstLength :
      (load self.memory self.sizeRead
        (template.sizeOfBuffer - self.sizeRead)).length =
          template.sizeOfBuffer - self.sizeRead :=
    length_load (by omega)
  have secondLength :
      (load self.memory 0
        (self.sizeRead + size - template.sizeOfBuffer)).length =
          self.sizeRead + size - template.sizeOfBuffer :=
    length_load (by omega)
  have filled :
      0 + (load self.memory self.sizeRead
        (template.sizeOfBuffer - self.sizeRead)).length ≤
          (List.replicate size (last + 1)).length := by
    omega
  rw [getElem?_store (by rw [length_store filled]; omega),
    if_neg (Nat.not_lt_zero _), if_neg (by omega), getElem?_store filled,
    if_neg (Nat.not_lt_zero _), if_neg (by omega),
    List.getElem?_append_right (by omega), firstLength,
    getElem?_load (by omega), List.getElem?_replicate,
    if_pos (by omega)] at values
  have index :
      0 + (size - 1 - (template.sizeOfBuffer - self.sizeRead)) =
        self.sizeRead + size - template.sizeOfBuffer - 1 := by
    omega
  rw [index, present, Option.some.injEq] at values
  simp at values

/-- A value that does not straddle the end is read back. -/
theorem exists_roundTrip
    {value earlier : List UInt8} (inRange : CBuffer.InRange template self)
    (bounded : value.length ≤ template.sizeOfBuffer)
    (whole : ¬ CBuffer.Straddles template self.sizeWrite value.length)
    (same : earlier.length = value.length) :
    ∃ written final,
      self.writeValue template value = some written ∧
        CBuffer.readValue template
            { written with sizeRead := self.sizeWrite } earlier =
          some (value, final) := by
  have room := CBuffer.wrap_add_le inRange.sizeWrite bounded whole
  rw [← inRange.memory] at room
  have written := CBuffer.writeValue_of_whole inRange bounded whole
  rw [CBuffer.write_of_whole inRange bounded whole,
    ← inRange.memory] at written
  have inRange' :
      CBuffer.InRange template
        ⟨store self.memory (wrap self.memory.length self.sizeWrite) value,
          self.sizeWrite,
          wrap self.memory.length self.sizeWrite + value.length⟩ := by
    refine ⟨?_, inRange.sizeWrite, inRange.memory ▸ room⟩
    rw [length_store room, inRange.memory]
  rw [← same] at whole bounded
  have taken :=
    (CBuffer.readValue_of_whole inRange' bounded whole).trans
      (CBuffer.read_of_whole inRange' bounded whole)
  rw [same, ← inRange.memory, load_store room] at taken
  exact ⟨_, _, written, taken⟩

/--
The functions for values agree with those for bytes exactly if a value of the
size straddles the end at neither position.
-/
theorem valuesAgree_iff
    (inRange : CBuffer.InRange template self)
    (bounded : size ≤ template.sizeOfBuffer) :
    ValuesAgree template self size ↔
      ¬ CBuffer.Straddles template self.sizeWrite size ∧
        ¬ CBuffer.Straddles template self.sizeRead size := by
  constructor
  · intro agree
    constructor
    · intro straddles
      obtain ⟨value, length, different⟩ :=
        exists_writeValue_ne inRange bounded straddles
      exact different (agree.write value length)
    · intro straddles
      obtain ⟨value, length, different⟩ :=
        exists_readValue_ne inRange bounded straddles
      exact different (agree.read value length)
  · rintro ⟨wholeWrite, wholeRead⟩
    refine ⟨?_, ?_, ?_⟩
    · rintro value rfl
      exact CBuffer.writeValue_of_whole inRange bounded wholeWrite
    · rintro value rfl
      exact CBuffer.readValue_of_whole inRange bounded wholeRead
    · rintro value earlier rfl same
      exact exists_roundTrip inRange bounded wholeWrite same

/-- Both positions in the middle of a block of eight bytes. -/
theorem valuesAgree_in_middle :
    ValuesAgree ⟨64, 8, by decide⟩ ⟨List.replicate 8 0, 2, 4⟩ 4 :=
  (valuesAgree_iff ⟨rfl, by decide, by decide⟩ (by decide)).mpr (by decide)

/--
Behind three bytes that were written and read again, a value of two bytes
straddles the end: both of its bytes are the first one afterwards.
-/
theorem not_valuesAgree_around_end :
    ∃ buffer written,
      runCalls ⟨64, 4, by decide⟩
            (CBuffer.reset ⟨64, 4, by decide⟩ ⟨[0, 0, 0, 0], 0, 0⟩ true)
            [.write [1, 2, 3], .read [0, 0, 0]] =
          some ([1, 2, 3], buffer) ∧
        buffer.writeValue ⟨64, 4, by decide⟩ [7, 8] = some written ∧
        written.memory = [7, 2, 3, 7] ∧
        ¬ ValuesAgree ⟨64, 4, by decide⟩ buffer 2 := by
  refine ⟨⟨[1, 2, 3, 0], 3, 3⟩, ⟨[7, 2, 3, 7], 3, 1⟩, by decide, by decide,
    rfl, ?_⟩
  intro agree
  exact absurd (agree.write [7, 8] rfl) (by decide)

end

/-! ## Skipped bytes -/

namespace CBuffer

/-- A copy that would leave the block behind a position past its end. -/
theorem copyOut_of_past
    {target : List UInt8} {targetOffset sizeOfTarget count : Nat}
    (block : self.memory.length = template.sizeOfBuffer)
    (word : self.sizeRead < 2 ^ template.sizeBits)
    (past : template.sizeOfBuffer ≤ self.sizeRead)
    (fits : count ≤ sizeOfTarget)
    (leaves :
      template.sizeOfBuffer <
        self.sizeRead - template.sizeOfBuffer + count) :
    self.copyOut template target targetOffset sizeOfTarget count =
      none := by
  have index :
      rangeSet template self.sizeRead 0 =
        self.sizeRead - template.sizeOfBuffer := by
    rw [rangeSet, if_neg (by omega), addWord_of_lt (by omega),
      Nat.add_zero, subWord_of_le past word]
  simp only [copyOut, getReadPos, readsetRangeSet, index, memcpyS,
    if_pos fits, memcpy]
  rw [if_neg (by rw [block]; omega), Option.map_none, Option.map_none]

/-- `Read` from a position past the end leaves the block. -/
theorem read_of_past
    {data : List UInt8} {size : Nat}
    (block : self.memory.length = template.sizeOfBuffer)
    (word : self.sizeRead < 2 ^ template.sizeBits)
    (past : template.sizeOfBuffer < self.sizeRead)
    (bounded : size ≤ template.sizeOfBuffer) :
    self.read template data size = none := by
  have range := template.fits
  by_cases sum : self.sizeRead + size < 2 ^ template.sizeBits
  · -- The part before the end is negative, so that its size wraps.
    have remain :
        self.readsetRangeCheck template size =
          self.sizeRead + size - template.sizeOfBuffer := by
      rw [readsetRangeCheck, rangeCheck, addWord_of_lt sum,
        if_neg (by omega), subWord_of_le (by omega) sum]
    have tail :
        subWord template.sizeBits size
            (self.sizeRead + size - template.sizeOfBuffer) =
          2 ^ template.sizeBits -
            (self.sizeRead - template.sizeOfBuffer) := by
      rw [subWord_of_lt (by omega) (by omega)]
      omega
    simp only [read, remain, tail]
    rw [if_neg (by omega), if_pos (by omega),
      copyOut_of_past block word past.le (Nat.le_refl _) (by omega),
      Option.bind_none]
  · -- The sum wraps to the front of the block, so that all is copied at once.
    have remain : self.readsetRangeCheck template size = 0 := by
      rw [readsetRangeCheck, rangeCheck, if_pos]
      rw [addWord_of_ge (by omega) word (by omega)]
      omega
    simp only [read, remain, if_true]
    exact copyOut_of_past block word past.le (Nat.le_refl _) (by omega)

/-- The same memory, and positions that the calls do not tell apart. -/
structure Equivalent (template : Template) (left right : CBuffer) :
    Prop where
  memory : left.memory = right.memory
  sizeRead :
    wrap template.sizeOfBuffer left.sizeRead =
      wrap template.sizeOfBuffer right.sizeRead
  sizeWrite :
    wrap template.sizeOfBuffer left.sizeWrite =
      wrap template.sizeOfBuffer right.sizeWrite

end CBuffer

/--
`ReadSet(skipped)` and `Read` of `taken` bytes return the bytes that `Read`
of `skipped` and then of `taken` bytes does, and leave an equivalent buffer.
-/
def Skips (template : Template) (buffer : CBuffer) (skipped taken : Nat) :
    Prop :=
  ∀ dropped target : List UInt8, dropped.length = skipped →
    target.length = taken →
      ∃ lost between bytes final reached,
        buffer.read template dropped skipped = some (lost, between) ∧
          between.read template target taken = some (bytes, final) ∧
          (buffer.readSet template skipped).read template target taken =
            some (bytes, reached) ∧
          CBuffer.Equivalent template reached final

section

variable {skipped taken : Nat}

/-- A skip past the end, or from a position there, leaves the block. -/
theorem not_skips_of_past
    (block : self.memory.length = template.sizeOfBuffer)
    (readWord : self.sizeRead < 2 ^ template.sizeBits)
    (bounded : skipped + taken ≤ template.sizeOfBuffer)
    (past : template.sizeOfBuffer < self.sizeRead + skipped) :
    ¬ Skips template self skipped taken := by
  have range := template.fits
  intro skips
  obtain ⟨lost, between, bytes, final, reached, first, -, second, -⟩ :=
    skips (List.replicate skipped 0) (List.replicate taken 0)
      List.length_replicate List.length_replicate
  by_cases inside : self.sizeRead ≤ template.sizeOfBuffer
  · have position :
        (self.readSet template skipped).sizeRead =
          self.sizeRead + skipped :=
      addWord_of_lt (by omega)
    have nothing :=
      @CBuffer.read_of_past template (self.readSet template skipped)
        (List.replicate taken 0) taken block (by omega) (by omega)
        (by omega)
    rw [nothing] at second
    cases second
  · have nothing :=
      @CBuffer.read_of_past template self (List.replicate skipped 0)
        skipped block readWord (by omega) (by omega)
    rw [nothing] at first
    cases first

/-- A skip up to the end is a read. -/
theorem skips_of_le
    (inRange : CBuffer.InRange template self)
    (bounded : skipped + taken ≤ template.sizeOfBuffer)
    (inside : self.sizeRead + skipped ≤ template.sizeOfBuffer) :
    Skips template self skipped taken := by
  have range := template.fits
  rintro dropped target rfl rfl
  have moved :
      advance template.sizeOfBuffer self.sizeRead dropped.length ≤
        template.sizeOfBuffer :=
    advance_le inRange.sizeRead (by omega)
  have position :
      addWord template.sizeBits self.sizeRead dropped.length =
        self.sizeRead + dropped.length :=
    addWord_of_lt (by omega)
  -- Both ways the second `Read` starts from the same index.
  have index :
      wrap template.sizeOfBuffer
          (advance template.sizeOfBuffer self.sizeRead dropped.length) =
        wrap template.sizeOfBuffer (self.sizeRead + dropped.length) := by
    rw [wrap_advance inRange.sizeRead (by omega),
      wrap_wrap_add (by omega)]
  have first :=
    CBuffer.read_eq inRange (show dropped.length ≤ _ by omega)
  have second :=
    @CBuffer.read_eq template { self with
        sizeRead :=
          advance template.sizeOfBuffer self.sizeRead dropped.length }
      target ⟨inRange.memory, moved, inRange.sizeWrite⟩ (by omega)
  have direct :=
    @CBuffer.read_eq template
      { self with sizeRead := self.sizeRead + dropped.length } target
      ⟨inRange.memory, inside, inRange.sizeWrite⟩ (by omega)
  simp only [index, advance_congr index] at second
  refine ⟨_, _, _, _, _, first, second, ?_, ⟨rfl, rfl, rfl⟩⟩
  rw [CBuffer.readSet, position]
  exact direct

end

/--
Skipping is reading exactly if the read position does not go past the end of
the block.
-/
theorem skips_iff
    {skipped taken : Nat}
    (block : self.memory.length = template.sizeOfBuffer)
    (readWord : self.sizeRead < 2 ^ template.sizeBits)
    (writePosition : self.sizeWrite ≤ template.sizeOfBuffer)
    (bounded : skipped + taken ≤ template.sizeOfBuffer) :
    Skips template self skipped taken ↔
      self.sizeRead + skipped ≤ template.sizeOfBuffer := by
  constructor
  · intro skips
    by_contra past
    exact
      not_skips_of_past block readWord bounded (Nat.lt_of_not_le past) skips
  · intro inside
    exact skips_of_le ⟨block, by omega, writePosition⟩ bounded inside

/-- Three of five unread bytes lie before the end, and two are skipped. -/
theorem skips_before_end :
    Skips ⟨64, 8, by decide⟩ ⟨List.replicate 8 0, 5, 2⟩ 2 3 :=
  (skips_iff rfl (by decide) (by decide) (by decide)).mpr (by decide)

/--
Of three unread bytes one lies before the end: after two of them are skipped,
`Read` of the third one leaves the block.
-/
theorem not_skips_around_end :
    ∃ buffer,
      runCalls ⟨64, 4, by decide⟩
            (CBuffer.reset ⟨64, 4, by decide⟩ ⟨[0, 0, 0, 0], 0, 0⟩ true)
            [.write [1, 2, 3], .read [0, 0, 0], .write [4, 5, 6]] =
          some ([1, 2, 3], buffer) ∧
        (buffer.read ⟨64, 4, by decide⟩ [0, 0] 2).bind
            (fun (_, self) =>
              (self.read ⟨64, 4, by decide⟩ [0] 1).map Prod.fst) =
          some [6] ∧
        (buffer.readSet ⟨64, 4, by decide⟩ 2).read ⟨64, 4, by decide⟩
            [0] 1 =
          none ∧
        ¬ Skips ⟨64, 4, by decide⟩ buffer 2 1 := by
  have nothing :
      CBuffer.read ⟨64, 4, by decide⟩
          (CBuffer.readSet ⟨64, 4, by decide⟩ ⟨[5, 6, 3, 4], 3, 2⟩ 2)
          [0] 1 =
        none := by
    decide
  refine ⟨⟨[5, 6, 3, 4], 3, 2⟩, by decide, by decide, nothing, ?_⟩
  intro skips
  obtain ⟨lost, between, bytes, final, reached, -, -, taken, -⟩ :=
    skips [0, 0] [0] rfl rfl
  rw [nothing] at taken
  cases taken

end LibSklt.Util.Buffer
