import LibSklt.Util.Buffer

/-!
# The ring buffer as a queue

A queue of bytes is a list: `Write` appends to it and `Read` takes off its
beginning.  `Represents` relates a buffer to the list of its unread bytes.
The relation does not follow from the two positions, which are the same for
an empty and for a full buffer; the calls keep it as long as nobody writes
more than there is room for or reads more than is there.
-/

namespace LibSklt.Util.Buffer

open LibSklt.Foundation.Ring

/-! ## Sequences of calls -/

/-- A call of `Write(void*, size)` or `Read(void*, size)`. -/
inductive Call where
  /-- The bytes behind the pointer, as many as `size` says. -/
  | write (data : List UInt8)
  /-- What stood in the `size` bytes behind the pointer. -/
  | read (target : List UInt8)
deriving DecidableEq

/-- The bytes that are given to the buffer. -/
def Call.given : Call → List UInt8
  | .write data => data
  | .read _ => []

/-- The number of bytes that are asked for. -/
def Call.asked : Call → Nat
  | .write _ => 0
  | .read target => target.length

/--
Every size is between one and the capacity, no more bytes are unread than
fit, and no `Read` asks for more than is unread.
-/
def Permitted (capacity : Nat) : Nat → List Call → Prop
  | _, [] => True
  | unread, .write data :: calls =>
      0 < data.length ∧ data.length ≤ capacity ∧
        unread + data.length ≤ capacity ∧
          Permitted capacity (unread + data.length) calls
  | unread, .read target :: calls =>
      0 < target.length ∧ target.length ≤ capacity ∧
        target.length ≤ unread ∧
          Permitted capacity (unread - target.length) calls

section

variable (template : Template)

/-- One call: the bytes that it returns, and the buffer. -/
def Call.run (self : CBuffer) : Call → Option (List UInt8 × CBuffer)
  | .write data =>
      (self.write template data data.length).map fun self => ([], self)
  | .read target => self.read template target target.length

/-- The calls one after the other, with all bytes that they return. -/
def runCalls : CBuffer → List Call → Option (List UInt8 × CBuffer)
  | self, [] => some ([], self)
  | self, call :: calls =>
      (call.run template self).bind fun (bytes, self) =>
        (runCalls self calls).map fun (more, self) => (bytes ++ more, self)

end

/-! ## The queue -/

/-- The unread bytes of the buffer are the contents. -/
structure Represents (template : Template) (buffer : CBuffer)
    (contents : List UInt8) : Prop where
  inRange : CBuffer.InRange template buffer
  holds : Holds buffer.memory buffer.sizeRead contents
  behind :
    wrap template.sizeOfBuffer buffer.sizeWrite =
      wrap template.sizeOfBuffer
        (wrap template.sizeOfBuffer buffer.sizeRead + contents.length)

variable {template : Template} {self : CBuffer} {contents : List UInt8}

theorem represents_reset
    (block : self.memory.length = template.sizeOfBuffer)
    (bMemSet : Bool) :
    Represents template (self.reset template bMemSet) [] where
  inRange := by
    refine ⟨?_, Nat.zero_le _, Nat.zero_le _⟩
    rw [CBuffer.reset]
    split_ifs
    · simp only
      rw [length_store, block]
      rw [List.length_replicate, Nat.zero_add, block]
    · exact block
  holds := holds_nil _ _
  behind := by
    simp only [CBuffer.reset, List.length_nil, Nat.add_zero, wrap_zero]

/-- `Write` appends to the queue. -/
theorem Represents.write
    {data : List UInt8} (represents : Represents template self contents)
    (bounded : data.length ≤ template.sizeOfBuffer)
    (room : contents.length + data.length ≤ template.sizeOfBuffer) :
    ∃ next,
      self.write template data data.length = some next ∧
        Represents template next (contents ++ data) := by
  have inRange := represents.inRange
  have behind := represents.behind
  have appended :=
    @Holds.append _ self.memory contents data self.sizeRead
      represents.holds (inRange.memory ▸ inRange.sizeRead)
      (inRange.memory ▸ room) self.sizeWrite (inRange.memory ▸ behind)
  rw [inRange.memory] at appended
  refine ⟨_, CBuffer.write_eq inRange bounded, ?_, appended, ?_⟩
  · refine ⟨?_, inRange.sizeRead, advance_le inRange.sizeWrite bounded⟩
    simp only
    rw [length_ringStore, inRange.memory]
    · rw [inRange.memory]
      exact wrap_le inRange.sizeWrite
    · rw [inRange.memory]
      exact bounded
  · have start := inRange.sizeRead
    rw [List.length_append, wrap_advance inRange.sizeWrite bounded, behind,
      wrap_wrap_add, Nat.add_assoc]
    intro positive
    have index : wrap template.sizeOfBuffer self.sizeRead < _ :=
      wrap_lt (show self.sizeRead < 2 * template.sizeOfBuffer by omega)
    omega

/-- `Read` takes off the beginning of the queue. -/
theorem Represents.read
    {target : List UInt8} (represents : Represents template self contents)
    (enough : target.length ≤ contents.length) :
    ∃ next,
      self.read template target target.length =
          some (contents.take target.length, next) ∧
        Represents template next (contents.drop target.length) := by
  have inRange := represents.inRange
  have behind := represents.behind
  have inside : self.sizeRead ≤ self.memory.length :=
    inRange.memory ▸ inRange.sizeRead
  have bounded := represents.holds.bounded
  rw [inRange.memory] at bounded
  have loaded := represents.holds.ringLoad_eq inside enough
  have dropped := represents.holds.drop inside enough
  rw [inRange.memory] at loaded dropped
  have taken :=
    CBuffer.read_eq inRange (show target.length ≤ _ by omega)
  rw [loaded] at taken
  refine ⟨_, taken, ?_, dropped, ?_⟩
  · exact ⟨inRange.memory, advance_le inRange.sizeRead (by omega),
      inRange.sizeWrite⟩
  · simp only [List.length_drop]
    rw [wrap_advance_add inRange.sizeRead (by omega),
      Nat.add_sub_cancel' enough]
    exact behind

/-- All calls return, and what they returned and left is what they got. -/
theorem Represents.runCalls
    {calls : List Call} (represents : Represents template self contents)
    (permitted :
      Permitted template.sizeOfBuffer contents.length calls) :
    ∃ returned final left,
      runCalls template self calls = some (returned, final) ∧
        Represents template final left ∧
        returned ++ left = contents ++ calls.flatMap Call.given ∧
          returned.length = (calls.map Call.asked).sum := by
  induction calls generalizing self contents with
  | nil =>
      exact ⟨[], self, contents, rfl, represents, by simp, rfl⟩
  | cons call calls inductionHypothesis =>
      cases call with
      | write data =>
          obtain ⟨-, bounded, room, rest⟩ := permitted
          obtain ⟨next, written, represents⟩ :=
            represents.write bounded room
          rw [← List.length_append] at rest
          obtain ⟨returned, final, left, ran, represents, balance, length⟩ :=
            inductionHypothesis represents rest
          refine ⟨returned, final, left, ?_, represents, ?_, ?_⟩
          · simp [Buffer.runCalls, Call.run, written, ran]
          · rw [balance, List.flatMap_cons, Call.given,
              List.append_assoc]
          · rw [length, List.map_cons, List.sum_cons, Call.asked,
              Nat.zero_add]
      | read target =>
          obtain ⟨-, -, enough, rest⟩ := permitted
          obtain ⟨next, taken, represents⟩ := represents.read enough
          rw [← List.length_drop] at rest
          obtain ⟨returned, final, left, ran, represents, balance, length⟩ :=
            inductionHypothesis represents rest
          refine ⟨contents.take target.length ++ returned, final, left, ?_,
            represents, ?_, ?_⟩
          · simp [Buffer.runCalls, Call.run, taken, ran]
          · rw [List.append_assoc, balance, ← List.append_assoc,
              List.take_append_drop, List.flatMap_cons, Call.given,
              List.nil_append]
          · rw [List.length_append, length, List.length_take_of_le enough,
              List.map_cons, List.sum_cons, Call.asked]

/--
On a reset buffer every permitted sequence of calls copies only inside of the
block, and returns as many bytes as the `Read`s ask for, which are a beginning
of the bytes that were written.
-/
theorem calls_return_prefix_of_given
    {calls : List Call}
    (block : self.memory.length = template.sizeOfBuffer)
    (bMemSet : Bool)
    (permitted : Permitted template.sizeOfBuffer 0 calls) :
    ∃ returned final,
      Buffer.runCalls template (self.reset template bMemSet) calls =
          some (returned, final) ∧
        returned <+: calls.flatMap Call.given ∧
          returned.length = (calls.map Call.asked).sum := by
  obtain ⟨returned, final, left, ran, -, balance, length⟩ :=
    (represents_reset block bMemSet).runCalls permitted
  exact ⟨returned, final, ran, ⟨left, balance⟩, length⟩

/-- Four bytes of capacity, and writes and reads around the end. -/
theorem calls_return_prefix_of_given_around_end :
    ∃ returned final,
      Buffer.runCalls ⟨64, 4, by decide⟩
          (CBuffer.reset ⟨64, 4, by decide⟩ ⟨[9, 9, 9, 9], 3, 1⟩ false)
          [.write [1, 2, 3], .read [0, 0], .write [4, 5], .read [0, 0, 0],
            .write [6]] =
        some (returned, final) ∧
      returned <+: [1, 2, 3, 4, 5, 6] ∧ returned.length = 5 :=
  calls_return_prefix_of_given rfl false (by simp [Permitted])

end LibSklt.Util.Buffer
