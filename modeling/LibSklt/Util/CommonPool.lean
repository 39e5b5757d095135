import Mathlib.Tactic

/-!
# The block allocator `Allocator` (`util/common_pool.h`)

`Allocator` keeps eight singleton pools of chunks of growing size.  `New` and
`Delete` each pick a pool by the size they are given, through two separately
written chains of comparisons; requests beyond the largest chunk take several
chunks of the last pool.  The two functions are embedded as the selection
they make: which pool, and how many chunks.
-/

namespace LibSklt.Util.CommonPool

/-- The tags of the eight singleton pools. -/
inductive PoolTag where
  | pooltag
  | pooltag4
  | pooltag8
  | pooltag12
  | pooltag16
  | pooltag24
  | pooltag32
  | pooltag128
deriving DecidableEq, Repr

/-- A pool, and the number of its chunks that are taken or given back. -/
structure Selection where
  pool : PoolTag
  chunks : Nat
deriving DecidableEq, Repr

section

variable (sizeBits sizeDefault : Nat)

/-- A template argument `size_default * factor`, a `size_t` expression. -/
def scaled (factor : Nat) : Nat :=
  sizeDefault * factor % 2 ^ sizeBits

/-- The selection of `Allocator::New`. -/
def new (sizeOfRequest : Nat) : Selection :=
  if sizeOfRequest ≤ sizeDefault then
    ⟨.pooltag, 1⟩
  else if sizeOfRequest ≤ scaled sizeBits sizeDefault 4 then
    ⟨.pooltag4, 1⟩
  else if sizeOfRequest ≤ scaled sizeBits sizeDefault 8 then
    ⟨.pooltag8, 1⟩
  else if sizeOfRequest ≤ scaled sizeBits sizeDefault 12 then
    ⟨.pooltag12, 1⟩
  else if sizeOfRequest ≤ scaled sizeBits sizeDefault 16 then
    ⟨.pooltag16, 1⟩
  else if sizeOfRequest ≤ scaled sizeBits sizeDefault 24 then
    ⟨.pooltag24, 1⟩
  else if sizeOfRequest ≤ scaled sizeBits sizeDefault 32 then
    ⟨.pooltag32, 1⟩
  else if sizeOfRequest ≤ scaled sizeBits sizeDefault 128 then
    ⟨.pooltag128, 1⟩
  else
    ⟨.pooltag128,
      (sizeOfRequest / scaled sizeBits sizeDefault 128 + 1) %
        2 ^ sizeBits⟩

/--
The selection of `Allocator::Delete`.  The chunk count of the last branch is
parsed as in the source: the division comes before the multiplication.
-/
def delete (responseSize : Nat) : Selection :=
  if responseSize ≤ sizeDefault then
    ⟨.pooltag, 1⟩
  else if responseSize ≤ scaled sizeBits sizeDefault 4 then
    ⟨.pooltag4, 1⟩
  else if responseSize ≤ scaled sizeBits sizeDefault 8 then
    ⟨.pooltag8, 1⟩
  else if responseSize ≤ scaled sizeBits sizeDefault 12 then
    ⟨.pooltag12, 1⟩
  else if responseSize ≤ scaled sizeBits sizeDefault 16 then
    ⟨.pooltag16, 1⟩
  else if responseSize ≤ scaled sizeBits sizeDefault 24 then
    ⟨.pooltag24, 1⟩
  else if responseSize ≤ scaled sizeBits sizeDefault 32 then
    ⟨.pooltag32, 1⟩
  else if responseSize ≤ scaled sizeBits sizeDefault 128 then
    ⟨.pooltag128, 1⟩
  else
    ⟨.pooltag128,
      (responseSize / sizeDefault * 128 + 1) % 2 ^ sizeBits⟩

end

/-! ## `COMMON_POOL` -/

/-- The `size_default` of `COMMON_POOL`, which is `Allocator<char>`. -/
def commonPoolSizeDefault : Nat := 256

/-- The factors of the chunk sizes, in the order of the comparisons. -/
def classFactors : List Nat := [1, 4, 8, 12, 16, 24, 32, 128]

/--
No upper bound of a size class separates the two sizes: every class that is
large enough for the smaller one is large enough for the larger one.
-/
def SameClass (sizeDefault small large : Nat) : Prop :=
  ∀ factor ∈ classFactors,
    ¬ (small ≤ sizeDefault * factor ∧ sizeDefault * factor < large)

instance (sizeDefault small large : Nat) :
    Decidable (SameClass sizeDefault small large) :=
  inferInstanceAs (Decidable (∀ factor ∈ classFactors, _))

/-- Given the same size, `New` and `Delete` pick the same pool. -/
theorem pool_new_eq_pool_delete (sizeBits sizeDefault size : Nat) :
    (new sizeBits sizeDefault size).pool =
      (delete sizeBits sizeDefault size).pool := by
  simp only [new, delete, apply_ite Selection.pool]

/-- The sizes that `COMMON_POOL` serves from a pool, up to `128 * 256`. -/
def servedSizes : PoolTag → Nat × Nat
  | .pooltag => (0, 256)
  | .pooltag4 => (257, 1024)
  | .pooltag8 => (1025, 2048)
  | .pooltag12 => (2049, 3072)
  | .pooltag16 => (3073, 4096)
  | .pooltag24 => (4097, 6144)
  | .pooltag32 => (6145, 8192)
  | .pooltag128 => (8193, 32768)

theorem mem_servedSizes_pool
    {size : Nat} (bounded : size ≤ commonPoolSizeDefault * 128) :
    (servedSizes (new 64 commonPoolSizeDefault size).pool).1 ≤ size ∧
      size ≤ (servedSizes (new 64 commonPoolSizeDefault size).pool).2 := by
  simp only [commonPoolSizeDefault] at bounded
  simp only [new, scaled, commonPoolSizeDefault]
  norm_num only
  iterate 7
    split
    · simp only [servedSizes]
      omega
  simp only [servedSizes]
  omega

/-- The size ranges of different pools are disjoint. -/
theorem pool_eq_of_mem_servedSizes
    {size : Nat} {left right : PoolTag}
    (inLeft :
      (servedSizes left).1 ≤ size ∧ size ≤ (servedSizes left).2)
    (inRight :
      (servedSizes right).1 ≤ size ∧ size ≤ (servedSizes right).2) :
    left = right := by
  cases left <;> cases right <;> simp only [servedSizes] at inLeft inRight <;>
    first
      | rfl
      | omega

/--
A block requested with a size of at most `128 * 256` goes back to its own
pool under a smaller size exactly when no class bound lies between the two.
-/
theorem pool_new_eq_pool_delete_iff
    {small large : Nat} (ordered : small ≤ large)
    (bounded : large ≤ commonPoolSizeDefault * 128) :
    (new 64 commonPoolSizeDefault large).pool =
        (delete 64 commonPoolSizeDefault small).pool ↔
      SameClass commonPoolSizeDefault small large := by
  rw [← pool_new_eq_pool_delete]
  have largeServed := mem_servedSizes_pool bounded
  have smallServed := mem_servedSizes_pool (ordered.trans bounded)
  have sameClass :
      SameClass commonPoolSizeDefault small large ↔
        (servedSizes (new 64 commonPoolSizeDefault large).pool).1 ≤
          small := by
    simp only [SameClass, classFactors, commonPoolSizeDefault,
      List.mem_cons, List.not_mem_nil, or_false, forall_eq_or_imp,
      forall_eq]
    simp only [commonPoolSizeDefault] at bounded largeServed
    generalize (new 64 256 large).pool = tag at largeServed ⊢
    cases tag <;> simp only [servedSizes] at largeServed ⊢ <;> omega
  rw [sameClass]
  constructor
  · intro equal
    rw [equal]
    exact smallServed.1
  · intro above
    exact pool_eq_of_mem_servedSizes
      ⟨above, ordered.trans largeServed.2⟩ smallServed

/-! ## The branch for the largest requests -/

/--
`Delete` gives a block back to the pool that `New` took it from, and beyond
the largest chunk the same number of chunks.
-/
structure Mirrors (sizeBits sizeDefault size : Nat) : Prop where
  pool :
    (new sizeBits sizeDefault size).pool =
      (delete sizeBits sizeDefault size).pool
  chunks :
    128 * sizeDefault < size →
      (new sizeBits sizeDefault size).chunks =
        (delete sizeBits sizeDefault size).chunks

section

variable {sizeBits sizeDefault size : Nat}

theorem scaled_of_lt
    {factor : Nat} (fits : sizeDefault * factor < 2 ^ sizeBits) :
    scaled sizeBits sizeDefault factor = sizeDefault * factor :=
  Nat.mod_eq_of_lt fits

/-- The chunk counts of both functions beyond the largest chunk. -/
theorem chunks_of_large
    (large : 128 * sizeDefault < size) (word : size < 2 ^ sizeBits) :
    (new sizeBits sizeDefault size).chunks =
        (size / (sizeDefault * 128) + 1) % 2 ^ sizeBits ∧
      (delete sizeBits sizeDefault size).chunks =
        (size / sizeDefault * 128 + 1) % 2 ^ sizeBits := by
  have beyond :
      ∀ factor ≤ 128, ¬ size ≤ scaled sizeBits sizeDefault factor := by
    intro factor small
    have product : sizeDefault * factor ≤ sizeDefault * 128 :=
      Nat.mul_le_mul_left _ small
    rw [scaled_of_lt (by omega)]
    omega
  constructor
  · rw [new, if_neg (by omega)]
    simp only [beyond _ (by decide : 4 ≤ 128), if_false,
      beyond _ (by decide : 8 ≤ 128), beyond _ (by decide : 12 ≤ 128),
      beyond _ (by decide : 16 ≤ 128), beyond _ (by decide : 24 ≤ 128),
      beyond _ (by decide : 32 ≤ 128), beyond _ (Nat.le_refl 128)]
    rw [scaled_of_lt (by omega)]
  · rw [delete, if_neg (by omega)]
    simp only [beyond _ (by decide : 4 ≤ 128), if_false,
      beyond _ (by decide : 8 ≤ 128), beyond _ (by decide : 12 ≤ 128),
      beyond _ (by decide : 16 ≤ 128), beyond _ (by decide : 24 ≤ 128),
      beyond _ (by decide : 32 ≤ 128), beyond _ (Nat.le_refl 128)]

/--
`Delete` mirrors `New` exactly up to the largest chunk, apart from requests so
large that the product in `Delete` wraps onto the count of `New`.
-/
theorem mirrors_iff
    (word : size < 2 ^ sizeBits) :
    Mirrors sizeBits sizeDefault size ↔
      size ≤ 128 * sizeDefault ∨
        2 ^ sizeBits ∣
          16383 * (size / sizeDefault / 128) +
            128 * (size / sizeDefault % 128) := by
  have counts :
      128 * sizeDefault < size →
        ((new sizeBits sizeDefault size).chunks =
            (delete sizeBits sizeDefault size).chunks ↔
          2 ^ sizeBits ∣
            16383 * (size / sizeDefault / 128) +
              128 * (size / sizeDefault % 128)) := by
    intro large
    obtain ⟨taken, given⟩ := chunks_of_large large word
    -- The count of `Delete` exceeds that of `New` by the dividend.
    have difference :
        size / sizeDefault * 128 + 1 - (size / sizeDefault / 128 + 1) =
          16383 * (size / sizeDefault / 128) +
            128 * (size / sizeDefault % 128) := by
      omega
    rw [taken, given, ← Nat.div_div_eq_div_mul, ← difference]
    exact Nat.modEq_iff_dvd' (by omega)
  constructor
  · intro mirrors
    by_cases large : 128 * sizeDefault < size
    · exact Or.inr ((counts large).mp (mirrors.chunks large))
    · exact Or.inl (Nat.le_of_not_lt large)
  · intro condition
    refine ⟨pool_new_eq_pool_delete sizeBits sizeDefault size, ?_⟩
    intro large
    obtain small | divides := condition
    · omega
    · exact (counts large).mpr divides

/-- The largest request that `COMMON_POOL` serves from a single chunk. -/
theorem mirrors_single_chunk : Mirrors 64 256 32768 :=
  (mirrors_iff (by decide)).mpr (Or.inl (by decide))

/-- One byte more takes two chunks, and gives 16385 of them back. -/
theorem not_mirrors_two_chunks :
    (new 64 256 32769).chunks = 2 ∧
      (delete 64 256 32769).chunks = 16385 ∧ ¬ Mirrors 64 256 32769 := by
  refine ⟨by decide, by decide, ?_⟩
  intro mirrors
  exact absurd (mirrors.chunks (by decide)) (by decide)

end

/-! ## The capacity of a block -/

/-- The `RequestedSize` of a pool, the size of its chunks. -/
def PoolTag.requestedSize (sizeBits sizeDefault : Nat) : PoolTag → Nat
  | .pooltag => sizeDefault
  | .pooltag4 => scaled sizeBits sizeDefault 4
  | .pooltag8 => scaled sizeBits sizeDefault 8
  | .pooltag12 => scaled sizeBits sizeDefault 12
  | .pooltag16 => scaled sizeBits sizeDefault 16
  | .pooltag24 => scaled sizeBits sizeDefault 24
  | .pooltag32 => scaled sizeBits sizeDefault 32
  | .pooltag128 => scaled sizeBits sizeDefault 128

/-- The bytes of the chunks that were taken together. -/
def Selection.capacity (sizeBits sizeDefault : Nat)
    (selection : Selection) : Nat :=
  selection.chunks * selection.pool.requestedSize sizeBits sizeDefault

/-- One chunk that is large enough, or several chunks of the last pool. -/
def Selection.Serves (sizeBits sizeDefault size : Nat)
    (selection : Selection) : Prop :=
  (∃ pool : PoolTag,
      selection = ⟨pool, 1⟩ ∧
        size ≤ pool.requestedSize sizeBits sizeDefault) ∨
    selection =
      ⟨.pooltag128,
        (size / scaled sizeBits sizeDefault 128 + 1) % 2 ^ sizeBits⟩

theorem serves_new (sizeBits sizeDefault size : Nat) :
    (new sizeBits sizeDefault size).Serves sizeBits sizeDefault size := by
  rw [new]
  -- One comparison of the chain after the other.
  iterate 8
    refine iteInduction (fun small => Or.inl ⟨_, rfl, small⟩) ?_
    intro _
  exact Or.inr rfl

/-- A block has room for the size it was requested with. -/
theorem le_capacity_new
    {sizeBits sizeDefault size : Nat} (positive : 0 < sizeDefault)
    (fits : sizeDefault * 128 < 2 ^ sizeBits)
    (word : size < 2 ^ sizeBits) :
    size ≤
      (new sizeBits sizeDefault size).capacity sizeBits sizeDefault := by
  obtain ⟨pool, single, fitsChunk⟩ | several :=
    serves_new sizeBits sizeDefault size
  · rw [single, Selection.capacity, Nat.one_mul]
    exact fitsChunk
  · have chunk : scaled sizeBits sizeDefault 128 = sizeDefault * 128 :=
      scaled_of_lt fits
    have count : size / (sizeDefault * 128) + 1 < 2 ^ sizeBits := by
      have half : size / (sizeDefault * 128) ≤ size / 128 :=
        Nat.div_le_div_left (by omega) (by decide)
      omega
    have rest :
        size < size / (sizeDefault * 128) * (sizeDefault * 128) +
          sizeDefault * 128 :=
      Nat.lt_div_mul_add (by omega)
    rw [several, Selection.capacity, PoolTag.requestedSize, chunk,
      Nat.mod_eq_of_lt count, Nat.add_mul, Nat.one_mul]
    exact rest.le

/-! ## The smallest class -/

/-- The factor of the chunk size of a pool. -/
def PoolTag.factor : PoolTag → Nat
  | .pooltag => 1
  | .pooltag4 => 4
  | .pooltag8 => 8
  | .pooltag12 => 12
  | .pooltag16 => 16
  | .pooltag24 => 24
  | .pooltag32 => 32
  | .pooltag128 => 128

/-- The pool that `New` compares with before this one. -/
def PoolTag.before : PoolTag → PoolTag
  | .pooltag => .pooltag
  | .pooltag4 => .pooltag
  | .pooltag8 => .pooltag4
  | .pooltag12 => .pooltag8
  | .pooltag16 => .pooltag12
  | .pooltag24 => .pooltag16
  | .pooltag32 => .pooltag24
  | .pooltag128 => .pooltag32

theorem PoolTag.factor_le (pool : PoolTag) : pool.factor ≤ 128 := by
  cases pool <;> decide

theorem PoolTag.factor_le_before
    {pool chosen : PoolTag} (smaller : pool.factor < chosen.factor) :
    pool.factor ≤ chosen.before.factor := by
  revert smaller
  cases pool <;> cases chosen <;> decide

section

variable {sizeBits sizeDefault size : Nat}
    (fits : sizeDefault * 128 < 2 ^ sizeBits)

include fits

theorem requestedSize_eq (pool : PoolTag) :
    pool.requestedSize sizeBits sizeDefault = sizeDefault * pool.factor := by
  have product : sizeDefault * pool.factor ≤ sizeDefault * 128 :=
    Nat.mul_le_mul_left _ pool.factor_le
  have unwrapped := scaled_of_lt (product.trans_lt fits)
  cases pool with
  | pooltag => exact (Nat.mul_one _).symm
  | _ => exact unwrapped

/-- With the chunks of the pool before, those of all smaller pools fail. -/
theorem lt_of_smaller
    {pool chosen : PoolTag}
    (beyond : ¬ size ≤ chosen.before.requestedSize sizeBits sizeDefault)
    (smaller :
      pool.requestedSize sizeBits sizeDefault <
        chosen.requestedSize sizeBits sizeDefault) :
    pool.requestedSize sizeBits sizeDefault < size := by
  rw [requestedSize_eq fits] at beyond
  rw [requestedSize_eq fits, requestedSize_eq fits] at smaller
  rw [requestedSize_eq fits]
  have below :=
    PoolTag.factor_le_before (Nat.lt_of_mul_lt_mul_left smaller)
  exact (Nat.mul_le_mul_left _ below).trans_lt (not_le.mp beyond)

omit fits in
/-- `New` takes a pool only if the one before is too small. -/
theorem beyond_before_of_new (large : sizeDefault < size) :
    ¬ size ≤
      (new sizeBits sizeDefault size).pool.before.requestedSize sizeBits
        sizeDefault := by
  have first := not_le.mpr large
  rw [new, if_neg first]
  split_ifs with four eight twelve sixteen twentyFour thirtyTwo last
  · exact first
  · exact four
  · exact eight
  · exact twelve
  · exact sixteen
  · exact twentyFour
  · exact thirtyTwo
  · exact thirtyTwo

/--
A block has room for the size it was requested with, and beyond the default
size the chunks of all smaller pools would not have.
-/
theorem new_smallest_adequate
    (positive : 0 < sizeDefault) (word : size < 2 ^ sizeBits) :
    size ≤
        (new sizeBits sizeDefault size).capacity sizeBits sizeDefault ∧
      (sizeDefault < size →
        ∀ pool : PoolTag,
          pool.requestedSize sizeBits sizeDefault <
              (new sizeBits sizeDefault size).pool.requestedSize sizeBits
                sizeDefault →
            pool.requestedSize sizeBits sizeDefault < size) := by
  refine ⟨le_capacity_new positive fits word, ?_⟩
  intro large pool smaller
  exact lt_of_smaller fits (beyond_before_of_new large) smaller

end

/-- A request between two classes of `COMMON_POOL`. -/
theorem new_smallest_adequate_of_2049 :
    2049 ≤ (new 64 256 2049).capacity 64 256 ∧
      ∀ pool : PoolTag,
        pool.requestedSize 64 256 <
            (new 64 256 2049).pool.requestedSize 64 256 →
          pool.requestedSize 64 256 < 2049 := by
  obtain ⟨room, smallest⟩ :=
    @new_smallest_adequate 64 256 2049 (by decide) (by decide) (by decide)
  exact ⟨room, smallest (by decide)⟩

end LibSklt.Util.CommonPool
