import Mathlib.Data.List.Basic
import Mathlib.Tactic

/-!
# Sequences in circular memory

A block of memory is used as a ring: what does not fit before its end goes on
at its beginning.  A position is a number from `0` to the size of the block;
the size itself stands for the beginning, too, so that a position may rest at
the end of the block until it is used again.

`Holds memory start contents` says that the contents lie in the ring from a
start.  Storing behind the contents appends to them, and loading from the
start takes off their beginning.
-/

namespace LibSklt.Foundation.Ring

universe u

variable {Symbol : Type u}

/-! ## Positions -/

/-- The index of a position that has passed the end at most once. -/
def wrap (size position : Nat) : Nat :=
  if position < size then position else position - size

/-- The position behind so many cells. -/
def advance (size position count : Nat) : Nat :=
  if wrap size position + count ≤ size then
    wrap size position + count
  else
    wrap size position + count - size

theorem wrap_of_lt {size position : Nat} (inside : position < size) :
    wrap size position = position :=
  if_pos inside

theorem wrap_of_ge {size position : Nat} (outside : size ≤ position) :
    wrap size position = position - size :=
  if_neg (Nat.not_lt.mpr outside)

@[simp]
theorem wrap_zero (size : Nat) : wrap size 0 = 0 := by
  rw [wrap]
  split_ifs
  · rfl
  · exact Nat.zero_sub _

@[simp]
theorem wrap_self (size : Nat) : wrap size size = 0 := by
  rw [wrap_of_ge (Nat.le_refl _), Nat.sub_self]

theorem wrap_le {size position : Nat} (inside : position ≤ size) :
    wrap size position ≤ size := by
  rw [wrap]
  split_ifs <;> omega

theorem wrap_lt {size position : Nat} (once : position < 2 * size) :
    wrap size position < size := by
  rw [wrap]
  split_ifs <;> omega

/-- Counting on from the index, as long as the end is passed only once. -/
theorem wrap_wrap_add
    {size position more : Nat}
    (once : 0 < size → position + more < 2 * size) :
    wrap size (wrap size position + more) =
      wrap size (position + more) := by
  by_cases before : position < size
  · rw [wrap_of_lt before]
  · rw [wrap_of_ge (Nat.le_of_not_lt before),
      wrap_of_ge (show size ≤ position + more by omega), wrap]
    split_ifs <;> omega

/-- A cell of the filled part, counted from the end of that part. -/
theorem wrap_of_filled
    {size start filled distance : Nat} (inside : start < size)
    (old : distance < filled) (bounded : filled ≤ size) :
    wrap size (start + distance) =
      wrap size
        (wrap size (start + filled) + (size - filled + distance)) := by
  simp only [wrap]
  split_ifs <;> omega

/-- A cell behind the filled part, counted from the end of that part. -/
theorem wrap_of_free
    {size start filled distance : Nat} (inside : start < size)
    (later : filled ≤ distance) (bounded : distance < size) :
    wrap size (start + distance) =
      wrap size (wrap size (start + filled) + (distance - filled)) := by
  rw [wrap_wrap_add (by omega), Nat.add_assoc, Nat.add_sub_cancel' later]

theorem advance_le
    {size position count : Nat} (inside : position ≤ size)
    (bounded : count ≤ size) : advance size position count ≤ size := by
  have index := wrap_le inside
  rw [advance]
  split_ifs <;> omega

/-- How to go on depends only on the index. -/
theorem advance_congr
    {size left right : Nat} (same : wrap size left = wrap size right)
    (count : Nat) : advance size left count = advance size right count := by
  rw [advance, advance, same]

/-- The index behind so many cells. -/
theorem wrap_advance
    {size position count : Nat} (inside : position ≤ size)
    (bounded : count ≤ size) :
    wrap size (advance size position count) =
      wrap size (wrap size position + count) := by
  rw [advance]
  split_ifs with before
  · rfl
  · have small := wrap_le inside
    have index : wrap size position < size := wrap_lt (by omega)
    rw [wrap_of_ge (show size ≤ wrap size position + count by omega)]
    exact wrap_of_lt (by omega)

/-- Going on from a position, counted from its index. -/
theorem wrap_advance_add
    {size position count more : Nat} (inside : position ≤ size)
    (bounded : count + more ≤ size) :
    wrap size (wrap size (advance size position count) + more) =
      wrap size (wrap size position + (count + more)) := by
  rw [wrap_advance inside (by omega), wrap_wrap_add, Nat.add_assoc]
  intro positive
  have index : wrap size position < size := wrap_lt (by omega)
  omega

/-! ## Memory -/

/-- The block after some cells from an offset on were overwritten. -/
def store (memory : List Symbol) (offset : Nat) (cells : List Symbol) :
    List Symbol :=
  memory.take offset ++ cells ++ memory.drop (offset + cells.length)

/-- The cells from an offset on. -/
def load (memory : List Symbol) (offset count : Nat) : List Symbol :=
  (memory.drop offset).take count

theorem length_store
    {memory cells : List Symbol} {offset : Nat}
    (inside : offset + cells.length ≤ memory.length) :
    (store memory offset cells).length = memory.length := by
  simp only [store, List.length_append, List.length_take, List.length_drop]
  omega

theorem length_load
    {memory : List Symbol} {offset count : Nat}
    (inside : offset + count ≤ memory.length) :
    (load memory offset count).length = count := by
  simp only [load, List.length_take, List.length_drop]
  omega

theorem getElem?_store
    {memory cells : List Symbol} {offset : Nat}
    (inside : offset + cells.length ≤ memory.length) (index : Nat) :
    (store memory offset cells)[index]? =
      if index < offset then memory[index]?
      else if index < offset + cells.length then cells[index - offset]?
      else memory[index]? := by
  have front : (memory.take offset).length = offset := by
    rw [List.length_take]
    omega
  rw [store, List.append_assoc, List.getElem?_append, front]
  split_ifs with before within
  · exact List.getElem?_take_of_lt before
  · exact List.getElem?_append_left (by omega)
  · rw [List.getElem?_append_right (by omega), List.getElem?_drop]
    congr 1
    omega

theorem getElem?_load
    {memory : List Symbol} {offset count index : Nat}
    (within : index < count) :
    (load memory offset count)[index]? = memory[offset + index]? := by
  rw [load, List.getElem?_take_of_lt within, List.getElem?_drop]

/-- What was stored is loaded again. -/
theorem load_store
    {memory cells : List Symbol} {offset : Nat}
    (inside : offset + cells.length ≤ memory.length) :
    load (store memory offset cells) offset cells.length = cells := by
  have front : (memory.take offset).length = offset := by
    rw [List.length_take]
    omega
  rw [load, store, List.append_assoc]
  nth_rewrite 1 [← front]
  rw [List.drop_left, List.take_left]

@[simp]
theorem store_nil (memory : List Symbol) (offset : Nat) :
    store memory offset [] = memory := by
  rw [store, List.append_nil, List.length_nil, Nat.add_zero,
    List.take_append_drop]

@[simp]
theorem load_zero (memory : List Symbol) (offset : Nat) :
    load memory offset 0 = [] := by
  rw [load, List.take_zero]

@[simp]
theorem load_all (memory : List Symbol) :
    load memory 0 memory.length = memory := by
  rw [load, List.drop_zero, List.take_length]

theorem store_all
    {memory cells : List Symbol} (whole : cells.length = memory.length) :
    store memory 0 cells = cells := by
  rw [store, List.take_zero, List.nil_append, Nat.zero_add, whole,
    List.drop_length, List.append_nil]

/-- Two stores, one behind the other, that fill the block. -/
theorem store_store
    {memory first second : List Symbol}
    (whole : first.length + second.length = memory.length) :
    store (store memory 0 first) first.length second = first ++ second := by
  have nothing :
      (store memory 0 first).drop (first.length + second.length) = [] := by
    apply List.drop_eq_nil_of_le
    rw [length_store (by omega), whole]
  rw [store, nothing, List.append_nil, store, List.take_zero,
    List.nil_append, List.take_left]

/-! ## The ring -/

/-- The block after cells were stored around its end. -/
def ringStore (memory : List Symbol) (offset : Nat) (cells : List Symbol) :
    List Symbol :=
  if offset + cells.length ≤ memory.length then
    store memory offset cells
  else
    store
      (store memory offset (cells.take (memory.length - offset)))
      0 (cells.drop (memory.length - offset))

/-- The cells around the end of the block. -/
def ringLoad (memory : List Symbol) (offset count : Nat) : List Symbol :=
  if offset + count ≤ memory.length then
    load memory offset count
  else
    load memory offset (memory.length - offset) ++
      load memory 0 (offset + count - memory.length)

theorem length_ringStore
    {memory cells : List Symbol} {offset : Nat}
    (inside : offset ≤ memory.length)
    (bounded : cells.length ≤ memory.length) :
    (ringStore memory offset cells).length = memory.length := by
  rw [ringStore]
  split_ifs with fits
  · exact length_store fits
  · have first :
        (store memory offset
          (cells.take (memory.length - offset))).length =
            memory.length := by
      apply length_store
      rw [List.length_take]
      omega
    rw [length_store, first]
    rw [first, List.length_drop]
    omega

theorem length_ringLoad
    {memory : List Symbol} {offset count : Nat}
    (inside : offset ≤ memory.length) (bounded : count ≤ memory.length) :
    (ringLoad memory offset count).length = count := by
  rw [ringLoad]
  split_ifs with fits
  · exact length_load fits
  · rw [List.length_append, length_load (by omega), length_load (by omega)]
    omega

/-- The cells that `ringStore` writes, by their distance from the offset. -/
theorem getElem?_ringStore_of_lt
    {memory cells : List Symbol} {offset distance : Nat}
    (inside : offset < memory.length)
    (bounded : cells.length ≤ memory.length)
    (within : distance < cells.length) :
    (ringStore memory offset cells)[
      wrap memory.length (offset + distance)]? = cells[distance]? := by
  rw [ringStore]
  split_ifs with fits
  · rw [getElem?_store fits, wrap_of_lt (by omega), if_neg (by omega),
      if_pos (by omega), Nat.add_sub_cancel_left]
  · have first :
        offset + (cells.take (memory.length - offset)).length ≤
          memory.length := by
      rw [List.length_take]
      omega
    have second :
        0 + (cells.drop (memory.length - offset)).length ≤
          (store memory offset
            (cells.take (memory.length - offset))).length := by
      rw [length_store first, List.length_drop]
      omega
    rw [getElem?_store second, if_neg (Nat.not_lt_zero _), List.length_drop]
    by_cases before : offset + distance < memory.length
    · rw [wrap_of_lt before, if_neg (by omega), getElem?_store first,
        if_neg (by omega), List.length_take, if_pos (by omega),
        Nat.add_sub_cancel_left, List.getElem?_take_of_lt (by omega)]
    · rw [wrap_of_ge (by omega), if_pos (by omega), List.getElem?_drop]
      congr 1
      omega

/-- The other cells keep what they held. -/
theorem getElem?_ringStore_of_ge
    {memory cells : List Symbol} {offset distance : Nat}
    (inside : offset < memory.length)
    (behind : cells.length ≤ distance)
    (once : distance < memory.length) :
    (ringStore memory offset cells)[
        wrap memory.length (offset + distance)]? =
      memory[wrap memory.length (offset + distance)]? := by
  have place :
      wrap memory.length (offset + distance) < offset ∨
        offset + cells.length ≤
          wrap memory.length (offset + distance) := by
    rw [wrap]
    split_ifs <;> omega
  have low :
      ¬ offset + cells.length ≤ memory.length →
        offset + cells.length - memory.length ≤
          wrap memory.length (offset + distance) := by
    intro straddles
    rw [wrap]
    split_ifs <;> omega
  rw [ringStore]
  split_ifs with fits
  · rw [getElem?_store fits]
    split_ifs <;> first | rfl | omega
  · have around := low fits
    have first :
        offset + (cells.take (memory.length - offset)).length ≤
          memory.length := by
      rw [List.length_take]
      omega
    have second :
        0 + (cells.drop (memory.length - offset)).length ≤
          (store memory offset
            (cells.take (memory.length - offset))).length := by
      rw [length_store first, List.length_drop]
      omega
    rw [getElem?_store second, if_neg (Nat.not_lt_zero _), List.length_drop,
      if_neg (by omega), getElem?_store first]
    split_ifs with before within
    · rfl
    · rw [List.length_take] at within
      omega
    · rfl

theorem getElem?_ringLoad
    {memory : List Symbol} {offset count distance : Nat}
    (inside : offset < memory.length) (within : distance < count) :
    (ringLoad memory offset count)[distance]? =
      memory[wrap memory.length (offset + distance)]? := by
  rw [ringLoad]
  split_ifs with fits
  · rw [getElem?_load within, wrap_of_lt (by omega)]
  · rw [List.getElem?_append, length_load (by omega)]
    split_ifs with before
    · rw [getElem?_load before, wrap_of_lt (by omega)]
    · rw [getElem?_load (by omega), wrap_of_ge (by omega)]
      congr 1
      omega

/-! ## Contents of the ring -/

/-- The contents lie in the ring from the given position on. -/
structure Holds (memory : List Symbol) (position : Nat)
    (contents : List Symbol) : Prop where
  bounded : contents.length ≤ memory.length
  cell :
    ∀ distance < contents.length,
      memory[
          wrap memory.length (wrap memory.length position + distance)]? =
        contents[distance]?

variable {memory contents cells : List Symbol} {position count : Nat}

theorem holds_nil (memory : List Symbol) (position : Nat) :
    Holds memory position [] where
  bounded := Nat.zero_le _
  cell _ within := absurd within (Nat.not_lt_zero _)

/-- Loading from the start gives the beginning of the contents. -/
theorem Holds.ringLoad_eq
    (holds : Holds memory position contents)
    (inside : position ≤ memory.length) (enough : count ≤ contents.length) :
    ringLoad memory (wrap memory.length position) count =
      contents.take count := by
  have bounded := holds.bounded
  by_cases empty : memory.length = 0
  · obtain rfl : memory = [] := List.eq_nil_of_length_eq_zero empty
    obtain rfl : count = 0 := by
      simp only [List.length_nil] at bounded
      omega
    simp [ringLoad, load]
  have index : wrap memory.length position < memory.length :=
    wrap_lt (by omega)
  apply List.ext_getElem?
  intro distance
  by_cases within : distance < count
  · rw [getElem?_ringLoad index within, List.getElem?_take_of_lt within,
      holds.cell distance (by omega)]
  · rw [List.getElem?_eq_none, List.getElem?_eq_none]
    · rw [List.length_take]
      omega
    · rw [length_ringLoad index.le (by omega)]
      omega

/-- Taking off the beginning moves the start. -/
theorem Holds.drop
    (holds : Holds memory position contents)
    (inside : position ≤ memory.length) (enough : count ≤ contents.length) :
    Holds memory (advance memory.length position count)
      (contents.drop count) where
  bounded := by
    have bounded := holds.bounded
    rw [List.length_drop]
    omega
  cell distance within := by
    have bounded := holds.bounded
    rw [List.length_drop] at within
    rw [wrap_advance_add inside (by omega), List.getElem?_drop]
    exact holds.cell (count + distance) (by omega)

/-- Storing behind the contents appends to them. -/
theorem Holds.append
    (holds : Holds memory position contents)
    (inside : position ≤ memory.length)
    (room : contents.length + cells.length ≤ memory.length)
    {target : Nat}
    (behind :
      wrap memory.length target =
        wrap memory.length
          (wrap memory.length position + contents.length)) :
    Holds (ringStore memory (wrap memory.length target) cells) position
      (contents ++ cells) := by
  by_cases empty : memory.length = 0
  · have noContents : contents = [] :=
      List.eq_nil_of_length_eq_zero (by omega)
    have noCells : cells = [] := List.eq_nil_of_length_eq_zero (by omega)
    rw [noContents, noCells, List.append_nil]
    exact holds_nil _ _
  have start : wrap memory.length position < memory.length :=
    wrap_lt (by omega)
  have index : wrap memory.length target < memory.length := by
    rw [behind]
    exact wrap_lt (by omega)
  have length := @length_ringStore _ memory cells _ index.le (by omega)
  constructor
  · rw [length, List.length_append]
    exact room
  · intro distance within
    rw [List.length_append] at within
    rw [length]
    -- Counted from the target, the old contents lie behind the new cells.
    by_cases old : distance < contents.length
    · have around := wrap_of_filled start old holds.bounded
      rw [← behind] at around
      rw [List.getElem?_append_left old, around,
        getElem?_ringStore_of_ge index (by omega) (by omega), ← around]
      exact holds.cell distance old
    · have around :=
        wrap_of_free start (Nat.le_of_not_lt old) (by omega)
      rw [← behind] at around
      rw [List.getElem?_append_right (by omega), around,
        getElem?_ringStore_of_lt index (by omega) (by omega)]

end LibSklt.Foundation.Ring
