/-
The counters of messages per minute, hour and day.  A counter has the sum of
the current period and that of the one before, and moves on to a new period
when a call comes with a date in it, whether the call reads or writes.  Dates
are milliseconds, and the clock has a fixed offset from UTC.
-/
import Mathlib.Algebra.BigOperators.Group.List.Basic
import Mathlib.Data.Int.ModEq
import Mathlib.Data.List.Induction

namespace SamaServer

/-- The unit of the periods of a counter. -/
inductive DateType
  | minutes
  | hours
  | days
deriving DecidableEq

/-- The milliseconds of a period. -/
def DateType.length : DateType → Int
  | minutes => 60000
  | hours => 3600000
  | days => 86400000

theorem DateType.length_pos (dateType : DateType) : 0 < dateType.length := by
  cases dateType <;> decide

structure IncPairDateVal where
  dateTypeKey : DateType
  castedValue : Option Int
  castedKey : Option Int
  currentValue : Int
  currentKey : Int
deriving DecidableEq

namespace IncPairDateVal

def datesDiff : Int := 2

variable (utcOffset : Int)

/-- The text of a date up to its unit is the number of its period. -/
def keyName (dateType : DateType) (date : Int) : Int :=
  (date + utcOffset) / dateType.length

/-- A text that is parsed again is the start of the period. -/
def parseKey (dateType : DateType) (key : Int) : Int :=
  key * dateType.length - utcOffset

/-- `diff` of two dates in whole units, truncated towards zero. -/
def diff (dateType : DateType) (dateA dateB : Int) : Int :=
  (dateA - dateB).tdiv dateType.length

def isDateDiffCritical (counter : IncPairDateVal) (dateA dateB : Int) :
    Bool :=
  datesDiff ≤ |diff counter.dateTypeKey
    (parseKey utcOffset counter.dateTypeKey dateA) dateB|

def cast (counter : IncPairDateVal) (date : Int) : IncPairDateVal :=
  { counter with
    castedValue :=
      if isDateDiffCritical utcOffset counter counter.currentKey date then
        some 0
      else some counter.currentValue
    castedKey := some counter.currentKey
    currentValue := 0
    currentKey := keyName utcOffset counter.dateTypeKey date }

/-- The counter in the period of a date. -/
def moveTo (counter : IncPairDateVal) (date : Int) : IncPairDateVal :=
  if keyName utcOffset counter.dateTypeKey date ≠ counter.currentKey then
    counter.cast utcOffset date
  else counter

def inc (counter : IncPairDateVal) (value date : Int) :
    Int × IncPairDateVal :=
  let counter := counter.moveTo utcOffset date
  let currentValue := counter.currentValue + value
  (currentValue, { counter with currentValue })

/-- `none` is `null` or `undefined`. -/
def retrieve (counter : IncPairDateVal) (date : Int) :
    Option Int × IncPairDateVal :=
  let checkDateKey := keyName utcOffset counter.dateTypeKey date
  let counter := counter.moveTo utcOffset date
  (if some checkDateKey ≠ counter.castedKey then counter.castedValue
  else none, counter)

def reset (counter : IncPairDateVal) (date : Int) : IncPairDateVal :=
  { counter with
    castedValue := none
    castedKey := none
    currentValue := 0
    currentKey := keyName utcOffset counter.dateTypeKey date }

/-- A call after the counter was reset. -/
inductive Call
  | inc (value date : Int)
  | retrieve (date : Int)
deriving DecidableEq

namespace Call

def date : Call → Int
  | inc _ date => date
  | retrieve date => date

/-- What the call adds to the period of its date. -/
def value : Call → Int
  | inc value _ => value
  | retrieve _ => 0

end Call

def apply (counter : IncPairDateVal) : Call → IncPairDateVal
  | .inc value date => (counter.inc utcOffset value date).2
  | .retrieve date => (counter.retrieve utcOffset date).2

def run (counter : IncPairDateVal) (calls : List Call) : IncPairDateVal :=
  calls.foldl (apply utcOffset) counter

/-! ### Periods -/

/-- The first millisecond of the period of a date. -/
def periodStart (dateType : DateType) (date : Int) : Int :=
  date - (date + utcOffset) % dateType.length

/-- The sum of the increments with dates from `first` up to `last`. -/
def sumBetween (first last : Int) (calls : List Call) : Int :=
  (calls.map (fun call =>
    if first ≤ call.date ∧ call.date < last then call.value else 0)).sum

/-- The sum of the increments of one period. -/
def sumOf (dateType : DateType) (key : Int) (calls : List Call) : Int :=
  (calls.map (fun call =>
    if keyName utcOffset dateType call.date = key then call.value
    else 0)).sum

variable {utcOffset} {dateType : DateType} {counter : IncPairDateVal}
  {start date key : Int} {calls : List Call}

theorem keyName_mono {earlier later : Int} (hle : earlier ≤ later) :
    keyName utcOffset dateType earlier ≤
      keyName utcOffset dateType later :=
  Int.ediv_le_ediv dateType.length_pos (by omega)

theorem parseKey_keyName (dateType : DateType) (date : Int) :
    parseKey utcOffset dateType (keyName utcOffset dateType date) =
      periodStart utcOffset dateType date := by
  have hsplit := Int.ediv_mul_add_emod (date + utcOffset) dateType.length
  rw [parseKey, keyName, periodStart]
  omega

/-- A date is in a period when it lies between two starts. -/
theorem keyName_eq_iff :
    keyName utcOffset dateType date = key ↔
      parseKey utcOffset dateType key ≤ date ∧
        date < parseKey utcOffset dateType key + dateType.length := by
  have hpos := dateType.length_pos
  have hnext : (key + 1) * dateType.length =
      key * dateType.length + dateType.length := by
    rw [Int.add_mul, Int.one_mul]
  have hle := Int.le_ediv_iff_mul_le hpos (a := key) (b := date + utcOffset)
  have hlt := Int.ediv_lt_iff_lt_mul hpos (a := date + utcOffset)
    (b := key + 1)
  rw [keyName, parseKey]
  omega

/-- The difference from the start of a period counts the periods. -/
theorem diff_parseKey
    (hle : key ≤ keyName utcOffset dateType date) :
    diff dateType (parseKey utcOffset dateType key) date =
      key - keyName utcOffset dateType date := by
  have hpos := dateType.length_pos
  have hstart := (Int.le_ediv_iff_mul_le hpos).1 hle
  have hneg : parseKey utcOffset dateType key - date =
      -(date + utcOffset + -key * dateType.length) := by
    rw [parseKey, Int.neg_mul]
    omega
  have hnonneg : 0 ≤ date + utcOffset + -key * dateType.length := by
    rw [Int.neg_mul]
    omega
  rw [diff, hneg, Int.neg_tdiv, Int.tdiv_eq_ediv_of_nonneg hnonneg,
    Int.add_mul_ediv_right _ _ (Int.ne_of_gt hpos), keyName]
  omega

/-- A gap is critical when there is a whole period in between. -/
theorem isDateDiffCritical_iff
    (hle : key ≤ keyName utcOffset counter.dateTypeKey date) :
    counter.isDateDiffCritical utcOffset key date = true ↔
      key + 1 < keyName utcOffset counter.dateTypeKey date := by
  rw [isDateDiffCritical, decide_eq_true_eq, diff_parseKey hle, datesDiff,
    abs_of_nonpos (by omega)]
  omega

/-! ### Runs -/

/-- A period without calls has no increments. -/
theorem sumOf_eq_zero
    (hnone : ∀ call ∈ calls, keyName utcOffset dateType call.date ≠ key) :
    sumOf utcOffset dateType key calls = 0 := by
  refine List.sum_eq_zero (fun value hvalue => ?_)
  obtain ⟨call, hcall, rfl⟩ := List.mem_map.1 hvalue
  exact if_neg (hnone call hcall)

/-- The slots of a counter that has moved to the period of a date: the sum
of that period, and the sum of the period before unless it is the first. -/
structure Tracks (utcOffset : Int) (dateType : DateType) (start : Int)
    (calls : List Call) (date : Int) (counter : IncPairDateVal) : Prop where
  unit : counter.dateTypeKey = dateType
  period : counter.currentKey = keyName utcOffset dateType date
  reached : ∀ call ∈ calls,
    keyName utcOffset dateType call.date ≤ counter.currentKey
  current : counter.currentValue =
    sumOf utcOffset dateType counter.currentKey calls
  casted :
    (counter.currentKey = keyName utcOffset dateType start ∧
      counter.castedValue = none) ∨
    (keyName utcOffset dateType start < counter.currentKey ∧
      counter.castedKey ≠ some counter.currentKey ∧
      counter.castedValue = some
        (sumOf utcOffset dateType (counter.currentKey - 1) calls))

theorem tracks_reset (counter : IncPairDateVal) (start : Int) :
    Tracks utcOffset counter.dateTypeKey start [] start
      (counter.reset utcOffset start) where
  unit := rfl
  period := rfl
  reached := by simp
  current := rfl
  casted := Or.inl ⟨rfl, rfl⟩

/-- A date in a new period moves the sum of the last one down, or no sum if
that is not the period before. -/
theorem Tracks.cast
    (htracks : Tracks utcOffset dateType start calls date counter)
    {later : Int}
    (hlater : counter.currentKey < keyName utcOffset dateType later) :
    Tracks utcOffset dateType start calls later
      (counter.cast utcOffset later) := by
  have hunit := htracks.unit
  subst hunit
  refine ⟨rfl, rfl, ?_, ?_, ?_⟩
  · intro call hcall
    exact Int.le_trans (htracks.reached call hcall) (Int.le_of_lt hlater)
  · refine (sumOf_eq_zero (fun call hcall => ?_)).symm
    have hreached := htracks.reached call hcall
    change keyName utcOffset counter.dateTypeKey call.date ≠
      keyName utcOffset counter.dateTypeKey later
    omega
  · have hstart : keyName utcOffset counter.dateTypeKey start ≤
        counter.currentKey := by
      rcases htracks.casted with ⟨hfirst, -⟩ | ⟨hpast, -, -⟩
      · exact Int.le_of_eq hfirst.symm
      · exact Int.le_of_lt hpast
    refine Or.inr ⟨Int.lt_of_le_of_lt hstart hlater, ?_, ?_⟩
    · simp only [IncPairDateVal.cast, ne_eq, Option.some.injEq]
      omega
    · have hcritical : counter.isDateDiffCritical utcOffset
          counter.currentKey later = true ↔ _ :=
        isDateDiffCritical_iff (Int.le_of_lt hlater)
      simp only [IncPairDateVal.cast]
      split
      · next hgap =>
          -- no call was made in the period before
          rw [hcritical] at hgap
          refine congrArg some (sumOf_eq_zero (fun call hcall => ?_)).symm
          have hreached := htracks.reached call hcall
          omega
      · next hgap =>
          rw [hcritical] at hgap
          have hprevious : keyName utcOffset counter.dateTypeKey later - 1 =
              counter.currentKey := by omega
          rw [hprevious, htracks.current]

theorem Tracks.moveTo
    (htracks : Tracks utcOffset dateType start calls date counter)
    {later : Int} (hlater : date ≤ later) :
    Tracks utcOffset dateType start calls later
      (counter.moveTo utcOffset later) := by
  have hkey : keyName utcOffset dateType date ≤
      keyName utcOffset dateType later := keyName_mono hlater
  have hperiod := htracks.period
  unfold IncPairDateVal.moveTo
  rw [htracks.unit]
  split
  · next hnew => exact htracks.cast (by omega)
  · next hsame =>
      exact { htracks with period := (not_not.1 hsame).symm }

/-- A call in the current period adds to its sum. -/
theorem Tracks.add {call : Call}
    (htracks : Tracks utcOffset dateType start calls call.date counter) :
    Tracks utcOffset dateType start (calls ++ [call]) call.date
      { counter with currentValue := counter.currentValue + call.value }
    where
  unit := htracks.unit
  period := htracks.period
  reached other hother := by
    rcases List.mem_append.1 hother with hold | hnew
    · exact htracks.reached other hold
    · rw [List.mem_singleton.1 hnew]
      exact Int.le_of_eq htracks.period.symm
  current := by
    simp [htracks.current, sumOf, htracks.period]
  casted := by
    have hperiod := htracks.period
    rcases htracks.casted with hfirst | ⟨hpast, hcasted, hvalue⟩
    · exact Or.inl hfirst
    · refine Or.inr ⟨hpast, hcasted, ?_⟩
      have hother : keyName utcOffset dateType call.date ≠
          counter.currentKey - 1 := by omega
      simp [hvalue, sumOf, hother]

/-- Both calls move the counter first. -/
theorem apply_eq (counter : IncPairDateVal) (call : Call) :
    counter.apply utcOffset call =
      { counter.moveTo utcOffset call.date with
        currentValue := (counter.moveTo utcOffset call.date).currentValue +
          call.value } := by
  cases call with
  | inc value date => rfl
  | retrieve date =>
      change counter.moveTo utcOffset date = _
      simp [Call.value, Call.date]

/-- Each call moves the counter to the period of its date and is counted
there. -/
theorem tracks_run (utcOffset : Int) (counter : IncPairDateVal) {start : Int}
    {calls : List Call}
    (hdates : (start :: calls.map Call.date).Pairwise (· ≤ ·)) :
    ∃ date ∈ start :: calls.map Call.date,
      Tracks utcOffset counter.dateTypeKey start calls date
        ((counter.reset utcOffset start).run utcOffset calls) := by
  induction calls using List.reverseRecOn with
  | nil => exact ⟨start, List.mem_cons_self, tracks_reset counter start⟩
  | append_singleton calls call ih =>
      rw [List.map_append, ← List.cons_append,
        List.pairwise_append] at hdates
      obtain ⟨hearlier, -, hlast⟩ := hdates
      obtain ⟨date, hdate, htracks⟩ := ih hearlier
      refine ⟨call.date, by simp, ?_⟩
      rw [run, List.foldl_append]
      change Tracks _ _ _ _ _ (apply utcOffset _ call)
      rw [apply_eq]
      exact (htracks.moveTo (hlast date hdate call.date (by simp))).add

/-- The sum of a period is that of the dates between its ends. -/
theorem sumOf_eq_sumBetween (utcOffset : Int) (dateType : DateType)
    (date : Int) (calls : List Call) :
    sumOf utcOffset dateType (keyName utcOffset dateType date - 1) calls =
      sumBetween (periodStart utcOffset dateType date - dateType.length)
        (periodStart utcOffset dateType date) calls := by
  have hprevious : parseKey utcOffset dateType
      (keyName utcOffset dateType date - 1) =
        periodStart utcOffset dateType date - dateType.length := by
    rw [← parseKey_keyName, parseKey, parseKey, Int.sub_mul, Int.one_mul]
    omega
  refine congrArg List.sum (List.map_congr_left (fun call _ => ?_))
  simp only [keyName_eq_iff, hprevious, Int.sub_add_cancel]

/-- Dates are in one period when its start is that of both. -/
theorem keyName_eq_keyName_iff {other : Int} :
    keyName utcOffset dateType date = keyName utcOffset dateType other ↔
      periodStart utcOffset dateType date =
        periodStart utcOffset dateType other := by
  rw [← parseKey_keyName, ← parseKey_keyName, parseKey, parseKey]
  constructor
  · intro hkey
    rw [hkey]
  · intro hstart
    exact Int.eq_of_mul_eq_mul_right (Int.ne_of_gt dateType.length_pos)
      (by omega)

/-- What is retrieved at a later date. -/
theorem Tracks.retrieve {last : Int}
    (htracks : Tracks utcOffset dateType start calls last counter)
    (hlater : last ≤ date) :
    (counter.retrieve utcOffset date).1 =
      if periodStart utcOffset dateType date =
          periodStart utcOffset dateType start then none
      else some (sumBetween
        (periodStart utcOffset dateType date - dateType.length)
        (periodStart utcOffset dateType date) calls) := by
  have hmoved := htracks.moveTo hlater
  have hperiod := hmoved.period
  simp only [IncPairDateVal.retrieve, htracks.unit]
  rcases hmoved.casted with ⟨hfirst, hvalue⟩ | ⟨hpast, hcasted, hvalue⟩
  · rw [hperiod, keyName_eq_keyName_iff] at hfirst
    rw [if_pos hfirst, hvalue, ite_self]
  · have hnew : ¬periodStart utcOffset dateType date =
        periodStart utcOffset dateType start := by
      rw [← keyName_eq_keyName_iff, ← hperiod]
      exact Int.ne_of_gt hpast
    rw [if_neg hnew, hvalue, ← hperiod, if_pos hcasted.symm, hperiod,
      sumOf_eq_sumBetween]

/-- After any calls since the reset, `retrieve` returns nothing in the period
of the reset and the sum of the period before in every later one. -/
theorem retrieve_run (utcOffset : Int) (counter : IncPairDateVal)
    (start date : Int) (calls : List Call)
    (hdates : (start :: (calls.map Call.date ++ [date])).Pairwise
      (· ≤ ·)) :
    (((counter.reset utcOffset start).run utcOffset calls).retrieve
        utcOffset date).1 =
      if periodStart utcOffset counter.dateTypeKey date =
          periodStart utcOffset counter.dateTypeKey start then none
      else some (sumBetween
        (periodStart utcOffset counter.dateTypeKey date -
          counter.dateTypeKey.length)
        (periodStart utcOffset counter.dateTypeKey date) calls) := by
  rw [← List.cons_append, List.pairwise_append] at hdates
  obtain ⟨hearlier, -, hlast⟩ := hdates
  obtain ⟨last, hmem, htracks⟩ := tracks_run utcOffset counter hearlier
  exact htracks.retrieve (hlast last hmem date List.mem_cons_self)

/-- Two minutes of calls, read in the second minute. -/
theorem retrieve_second_minute :
    ([0, 10, 59999, 60000, 61000] : List Int).Pairwise (· ≤ ·) ∧
      (((reset 0 ⟨.minutes, none, none, 5, 0⟩ 0).run 0 [.inc 2 10,
        .inc 3 59999, .inc 7 60000]).retrieve 0 61000).1 = some 5 := by
  have hdates : ([0, 10, 59999, 60000, 61000] : List Int).Pairwise
      (· ≤ ·) := by decide
  refine ⟨hdates, (retrieve_run 0 ⟨.minutes, none, none, 5, 0⟩ 0 61000
    [.inc 2 10, .inc 3 59999, .inc 7 60000] hdates).trans ?_⟩
  decide

end IncPairDateVal

/-- The counters of the service. -/
structure StatsService where
  messagesPerMinute : IncPairDateVal
  messagesPerHour : IncPairDateVal
  messagesPerDay : IncPairDateVal
deriving DecidableEq

namespace StatsService

open IncPairDateVal

/-- `inc` is what `parseInt` makes of the argument. -/
def normalizeInc (inc : Option Int) : Int := inc.getD 0

structure ChatStats where
  messagesPerMinute : Option Int
  messagesPerHour : Option Int
  messagesPerDay : Option Int
deriving DecidableEq

inductive Call
  | incMessagesCount (inc : Option Int) (date : Int)
  | collectChatStats (date : Int)
deriving DecidableEq

variable (utcOffset : Int)

def incMessagesCount (stats : StatsService) (inc : Option Int)
    (date : Int) : StatsService where
  messagesPerMinute :=
    (stats.messagesPerMinute.inc utcOffset (normalizeInc inc) date).2
  messagesPerHour :=
    (stats.messagesPerHour.inc utcOffset (normalizeInc inc) date).2
  messagesPerDay :=
    (stats.messagesPerDay.inc utcOffset (normalizeInc inc) date).2

def collectChatStats (stats : StatsService) (date : Int) :
    ChatStats × StatsService :=
  (⟨(stats.messagesPerMinute.retrieve utcOffset date).1,
    (stats.messagesPerHour.retrieve utcOffset date).1,
    (stats.messagesPerDay.retrieve utcOffset date).1⟩,
  ⟨(stats.messagesPerMinute.retrieve utcOffset date).2,
    (stats.messagesPerHour.retrieve utcOffset date).2,
    (stats.messagesPerDay.retrieve utcOffset date).2⟩)

def resetChatStatsAll (stats : StatsService) (date : Int) :
    StatsService where
  messagesPerMinute := stats.messagesPerMinute.reset utcOffset date
  messagesPerHour := stats.messagesPerHour.reset utcOffset date
  messagesPerDay := stats.messagesPerDay.reset utcOffset date

def apply (stats : StatsService) : Call → StatsService
  | .incMessagesCount inc date => stats.incMessagesCount utcOffset inc date
  | .collectChatStats date => (stats.collectChatStats utcOffset date).2

def run (stats : StatsService) (calls : List Call) : StatsService :=
  calls.foldl (apply utcOffset) stats

/-- The call that each counter gets. -/
def Call.forCounter : Call → IncPairDateVal.Call
  | incMessagesCount inc date => .inc (normalizeInc inc) date
  | collectChatStats date => .retrieve date

/-- The counters do not depend on one another. -/
theorem run_eq (stats : StatsService) (calls : List Call) :
    stats.run utcOffset calls =
      ⟨stats.messagesPerMinute.run utcOffset (calls.map Call.forCounter),
        stats.messagesPerHour.run utcOffset (calls.map Call.forCounter),
        stats.messagesPerDay.run utcOffset (calls.map Call.forCounter)⟩ := by
  induction calls generalizing stats with
  | nil => rfl
  | cons call calls ih =>
      refine (ih (stats.apply utcOffset call)).trans ?_
      cases call <;> rfl

/-- The sum that a counter reports at a date. -/
def reported (dateType : DateType) (start date : Int) (calls : List Call) :
    Option Int :=
  if periodStart utcOffset dateType date =
      periodStart utcOffset dateType start then none
  else some (sumBetween
    (periodStart utcOffset dateType date - dateType.length)
    (periodStart utcOffset dateType date) (calls.map Call.forCounter))

/-- All three counters report the period before that of the date. -/
theorem collectChatStats_run {stats : StatsService} {start date : Int}
    {calls : List Call}
    (hminutes : stats.messagesPerMinute.dateTypeKey = .minutes)
    (hhours : stats.messagesPerHour.dateTypeKey = .hours)
    (hdays : stats.messagesPerDay.dateTypeKey = .days)
    (hdates : (start :: (calls.map Call.forCounter).map
      IncPairDateVal.Call.date).Pairwise (· ≤ ·))
    (hdate : ∀ earlier ∈ start :: (calls.map Call.forCounter).map
      IncPairDateVal.Call.date, earlier ≤ date) :
    (((stats.resetChatStatsAll utcOffset start).run utcOffset
        calls).collectChatStats utcOffset date).1 =
      ⟨reported utcOffset .minutes start date calls,
        reported utcOffset .hours start date calls,
        reported utcOffset .days start date calls⟩ := by
  have hretrieve : ∀ counter : IncPairDateVal,
      (((counter.reset utcOffset start).run utcOffset
        (calls.map Call.forCounter)).retrieve utcOffset date).1 =
        reported utcOffset counter.dateTypeKey start date calls := by
    intro counter
    obtain ⟨last, hmem, htracks⟩ := tracks_run utcOffset counter hdates
    exact htracks.retrieve (hdate last hmem)
  rw [run_eq, ← hminutes, ← hhours, ← hdays]
  simp only [collectChatStats, resetChatStatsAll, hretrieve]

end StatsService

end SamaServer
