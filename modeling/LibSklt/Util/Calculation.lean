import LibSklt.Foundation.RunningMean

/-!
# Running statistics (`util/calculation.h`)

`ReinterationCalculation` keeps the minimum, the maximum, the mean and the
number of the values inserted since the last `Clear`.  `Clear` resets the
counter only, and the first value after it overwrites the rest.  The counter
stops at `m_constMaxCnt`; from then on the mean moves towards each new value
by a fixed part.

The values are of any ordered type with a conversion to `double` that keeps
the order; arithmetic on `double` is that of the rational numbers.  Each call
is taken to be atomic: a `scoped_lock` in the source is released at once.
-/

namespace LibSklt.Util.Calculation

open LibSklt.Foundation.RunningMean

variable {T : Type*} [LinearOrder T] (toDouble : T →o ℚ)

/-- The members of `ReinterationCalculation`. -/
structure ReinterationCalculation (T : Type*) where
  /-- `m_min`. -/
  minimum : T
  /-- `m_max`. -/
  maximum : T
  /-- `m_mean`. -/
  mean : ℚ
  /-- `m_count`. -/
  count : Nat

/-- `m_constMaxCnt`. -/
def constMaxCnt : Nat := 2 ^ 17

namespace ReinterationCalculation

/-- The constructor, which leaves `m_min` and `m_max` as they are. -/
def construct (minimum maximum : T) : ReinterationCalculation T :=
  { minimum, maximum, mean := 0, count := 0 }

/-- `GetMin`. -/
def getMin (statistics : ReinterationCalculation T) : T :=
  statistics.minimum

/-- `GetMax`. -/
def getMax (statistics : ReinterationCalculation T) : T :=
  statistics.maximum

/-- `GetMean`. -/
def getMean (statistics : ReinterationCalculation T) : ℚ :=
  statistics.mean

/-- `GetCount`. -/
def getCount (statistics : ReinterationCalculation T) : Nat :=
  statistics.count

/-- `Calculation_Mean`. -/
def calculationMean
    (statistics : ReinterationCalculation T) (insertValue : T) :
    ReinterationCalculation T :=
  if statistics.count = 1 then
    { statistics with mean := toDouble insertValue }
  else
    { statistics with
      mean :=
        updateMean statistics.mean (toDouble insertValue) statistics.count }

/-- `Calculation_MinMax`. -/
def calculationMinMax
    (statistics : ReinterationCalculation T) (insertValue : T) :
    ReinterationCalculation T :=
  if statistics.count = 1 then
    { statistics with maximum := insertValue, minimum := insertValue }
  else
    let raised :=
      if statistics.maximum < insertValue then
        { statistics with maximum := insertValue }
      else
        statistics
    if insertValue < raised.minimum then
      { raised with minimum := insertValue }
    else
      raised

/-- `Insert`. -/
def insert
    (statistics : ReinterationCalculation T) (value : T) :
    ReinterationCalculation T :=
  let counted :=
    if statistics.count < constMaxCnt then
      { statistics with count := statistics.count + 1 }
    else
      statistics
  calculationMinMax (calculationMean toDouble counted value) value

/-- `Clear`. -/
def clear (statistics : ReinterationCalculation T) :
    ReinterationCalculation T :=
  { statistics with count := 0 }

end ReinterationCalculation

/-- A call that changes the statistics. -/
inductive Call (T : Type*) where
  | insert (value : T)
  | clear
  deriving Repr, DecidableEq

/-- The effect of one call. -/
def apply (statistics : ReinterationCalculation T) :
    Call T → ReinterationCalculation T
  | .insert value => statistics.insert toDouble value
  | .clear => statistics.clear

/-- The effect of a sequence of calls. -/
def applyAll
    (statistics : ReinterationCalculation T) (calls : List (Call T)) :
    ReinterationCalculation T :=
  calls.foldl (apply toDouble) statistics

/-- The values inserted since the last `Clear`, after one more call. -/
def remember (values : List T) : Call T → List T
  | .insert value => values ++ [value]
  | .clear => []

/-- The values inserted since the last `Clear`. -/
def insertedSinceClear (calls : List (Call T)) : List T :=
  calls.foldl remember []

/-! ## The invariant -/

/-- The values that the statistics are about, at least one. -/
structure Describes
    (statistics : ReinterationCalculation T) (values : List T) : Prop where
  least : IsLeast {value | value ∈ values} statistics.minimum
  greatest : IsGreatest {value | value ∈ values} statistics.maximum
  minimum_le_mean : toDouble statistics.minimum ≤ statistics.mean
  mean_le_maximum : statistics.mean ≤ toDouble statistics.maximum
  /-- The mean is exact until the counter stops. -/
  mean_eq :
    values.length ≤ constMaxCnt →
      statistics.mean = average (values.map toDouble)

/-- The statistics after a sequence of calls: the counter is right up to its
limit, and the other members describe the values if there are any. -/
structure Tracks
    (statistics : ReinterationCalculation T) (values : List T) : Prop where
  count_eq : statistics.count = min values.length constMaxCnt
  describes : values ≠ [] → Describes toDouble statistics values

/-! ## One call -/

/-- The first value after a `Clear` overwrites every member. -/
theorem insert_of_count_eq_zero
    {statistics : ReinterationCalculation T} (empty : statistics.count = 0)
    (value : T) :
    statistics.insert toDouble value =
      { minimum := value, maximum := value, mean := toDouble value
        count := 1 } := by
  have counts : statistics.count < constMaxCnt := by
    rw [empty]
    exact Nat.two_pow_pos 17
  rw [ReinterationCalculation.insert, if_pos counts, empty]
  rfl

omit toDouble in
/-- A later value widens the bounds. -/
theorem calculationMinMax_of_count_ne_one
    {statistics : ReinterationCalculation T} (later : statistics.count ≠ 1)
    (value : T) :
    statistics.calculationMinMax value =
      { statistics with
        minimum := min value statistics.minimum
        maximum := max value statistics.maximum } := by
  have raised :
      (if statistics.maximum < value then
        { statistics with maximum := value }
      else
        statistics) =
        { statistics with maximum := max value statistics.maximum } := by
    split
    case isTrue above => rw [max_eq_left above.le]
    case isFalse within => rw [max_eq_right (not_lt.mp within)]
  rw [ReinterationCalculation.calculationMinMax, if_neg later, raised]
  rcases lt_or_ge value statistics.minimum with below | within
  · rw [min_eq_left below.le]
    exact if_pos below
  · rw [min_eq_right within]
    exact if_neg within.not_gt

/-- A later value widens the bounds and moves the mean. -/
theorem insert_of_count_pos
    {statistics : ReinterationCalculation T} (later : 0 < statistics.count)
    (bounded : statistics.count ≤ constMaxCnt) (value : T) :
    statistics.insert toDouble value =
      { minimum := min value statistics.minimum
        maximum := max value statistics.maximum
        mean :=
          updateMean statistics.mean (toDouble value)
            (min (statistics.count + 1) constMaxCnt)
        count := min (statistics.count + 1) constMaxCnt } := by
  have counted :
      (if statistics.count < constMaxCnt then
        { statistics with count := statistics.count + 1 }
      else
        statistics) =
        { statistics with
          count := min (statistics.count + 1) constMaxCnt } := by
    split
    case isTrue below => rw [min_eq_left below]
    case isFalse full =>
      have same :
          min (statistics.count + 1) constMaxCnt = statistics.count := by
        omega
      rw [same]
  have another : min (statistics.count + 1) constMaxCnt ≠ 1 := by
    rw [constMaxCnt]
    omega
  rw [ReinterationCalculation.insert, counted]
  rw [ReinterationCalculation.calculationMean, if_neg another,
    calculationMinMax_of_count_ne_one another]

/-! ## What the members describe -/

theorem describes_singleton (value : T) (count : Nat) :
    Describes toDouble
      { minimum := value, maximum := value, mean := toDouble value, count }
      [value] where
  least := by simp
  greatest := by simp
  minimum_le_mean := le_rfl
  mean_le_maximum := le_rfl
  mean_eq := fun _ => by simp [average]

/-- A value and a positive count keep the members right, and the mean stays
exact if the count is the number of values. -/
theorem Describes.snoc
    {statistics : ReinterationCalculation T} {values : List T}
    (described : Describes toDouble statistics values)
    (nonempty : values ≠ []) (value : T) {count : Nat} (positive : 0 < count)
    (counted : values.length + 1 ≤ constMaxCnt → count = values.length + 1) :
    Describes toDouble
      { minimum := min value statistics.minimum
        maximum := max value statistics.maximum
        mean := updateMean statistics.mean (toDouble value) count
        count }
      (values ++ [value]) := by
  have members :
      {other | other ∈ values ++ [value]} =
        Insert.insert value {other | other ∈ values} := by
    ext other
    simp [or_comm]
  refine
    { least := ?_, greatest := ?_, minimum_le_mean := ?_
      mean_le_maximum := ?_, mean_eq := ?_ }
  · rw [members]
    exact described.least.insert value
  · rw [members]
    exact described.greatest.insert value
  · refine le_updateMean positive ?_ ?_
    · exact (toDouble.monotone (min_le_right _ _)).trans
        described.minimum_le_mean
    · exact toDouble.monotone (min_le_left _ _)
  · refine updateMean_le positive ?_ ?_
    · exact described.mean_le_maximum.trans
        (toDouble.monotone (le_max_right _ _))
    · exact toDouble.monotone (le_max_left _ _)
  · intro few
    rw [List.length_append, List.length_singleton] at few
    have before := described.mean_eq (by omega)
    have mapped : values.map toDouble ≠ [] := by simpa using nonempty
    have update := updateMean_average mapped (toDouble value)
    rw [List.length_map] at update
    simp only
    rw [counted few, before, update, List.map_append, List.map_singleton]

/-! ## Sequences of calls -/

theorem tracks_of_count_eq_zero
    {statistics : ReinterationCalculation T} (empty : statistics.count = 0) :
    Tracks toDouble statistics [] where
  count_eq := by simpa using empty
  describes := fun nonempty => absurd rfl nonempty

theorem Tracks.afterInsert
    {statistics : ReinterationCalculation T} {values : List T}
    (tracked : Tracks toDouble statistics values) (value : T) :
    Tracks toDouble (statistics.insert toDouble value) (values ++ [value]) := by
  have limit : 0 < constMaxCnt := Nat.two_pow_pos 17
  have counted := tracked.count_eq
  rcases eq_or_ne values [] with rfl | nonempty
  · rw [insert_of_count_eq_zero toDouble (by simpa using counted)]
    exact
      { count_eq := by
          rw [List.nil_append, List.length_singleton, min_eq_left limit]
        describes := fun _ => describes_singleton toDouble value 1 }
  · have length := List.length_pos_iff.mpr nonempty
    rw [insert_of_count_pos toDouble (by omega) (by omega)]
    refine
      { count_eq := ?_
        describes := fun _ =>
          (tracked.describes nonempty).snoc toDouble nonempty value
            (by omega) (by omega) }
    rw [List.length_append, List.length_singleton]
    simp only
    omega

theorem Tracks.afterCall
    {statistics : ReinterationCalculation T} {values : List T}
    (tracked : Tracks toDouble statistics values) (call : Call T) :
    Tracks toDouble (apply toDouble statistics call)
      (remember values call) := by
  cases call with
  | insert value => exact tracked.afterInsert toDouble value
  | clear => exact tracks_of_count_eq_zero toDouble rfl

/-- Every sequence of calls keeps the invariant. -/
theorem Tracks.afterCalls
    {statistics : ReinterationCalculation T} {values : List T}
    (tracked : Tracks toDouble statistics values) (calls : List (Call T)) :
    Tracks toDouble (applyAll toDouble statistics calls)
      (calls.foldl remember values) := by
  induction calls generalizing statistics values with
  | nil => exact tracked
  | cons call calls inductionHypothesis =>
      exact inductionHypothesis (tracked.afterCall toDouble call)

/-- The statistics of the values inserted since the last `Clear`, after every
sequence of calls. -/
theorem statistics_of_inserted
    (uninitializedMin uninitializedMax : T) (calls : List (Call T))
    (inserted : insertedSinceClear calls ≠ []) :
    let statistics :=
      applyAll toDouble (.construct uninitializedMin uninitializedMax) calls
    let values := insertedSinceClear calls
    IsLeast {value | value ∈ values} statistics.getMin ∧
      IsGreatest {value | value ∈ values} statistics.getMax ∧
      toDouble statistics.getMin ≤ statistics.getMean ∧
      statistics.getMean ≤ toDouble statistics.getMax ∧
      (values.length ≤ constMaxCnt →
        statistics.getCount = values.length ∧
          statistics.getMean = average (values.map toDouble)) := by
  intro statistics values
  have start :
      Tracks toDouble
        (.construct uninitializedMin uninitializedMax) [] :=
    tracks_of_count_eq_zero toDouble rfl
  have tracked : Tracks toDouble statistics values :=
    start.afterCalls toDouble calls
  have described := tracked.describes inserted
  refine ⟨described.least, described.greatest, described.minimum_le_mean,
    described.mean_le_maximum, ?_⟩
  intro few
  refine ⟨?_, described.mean_eq few⟩
  exact tracked.count_eq.trans (min_eq_left few)

/-- `1, 2` are inserted, the statistics are cleared, and `7, 3` are inserted:
the mean is `5`. -/
theorem statistics_of_seven_three :
    let toDouble : ℤ →o ℚ := ⟨Int.cast, Int.cast_mono⟩
    let calls : List (Call ℤ) :=
      [.insert 1, .insert 2, .clear, .insert 7, .insert 3]
    let statistics := applyAll toDouble (.construct 0 0) calls
    insertedSinceClear calls = [7, 3] ∧
      IsLeast {value | value ∈ ([7, 3] : List ℤ)} statistics.getMin ∧
      IsGreatest {value | value ∈ ([7, 3] : List ℤ)} statistics.getMax ∧
      statistics.getCount = 2 ∧ statistics.getMean = 5 := by
  intro toDouble calls statistics
  have inserted : insertedSinceClear calls = [7, 3] := rfl
  obtain ⟨least, greatest, -, -, precise⟩ :=
    statistics_of_inserted toDouble 0 0 calls (by simp [inserted])
  rw [inserted] at least greatest precise
  obtain ⟨count, mean⟩ := precise (by simp [constMaxCnt])
  refine ⟨inserted, least, greatest, count, mean.trans ?_⟩
  norm_num [average, toDouble]

end LibSklt.Util.Calculation
