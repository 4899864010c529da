import Mathlib.Order.Basic
import Peloton.Type.ValueFactory

set_option autoImplicit false

namespace Peloton.Storage

open Peloton.Type

-- What ZoneMapManager calls on the Values of one column type: IsNull and the comparisons, ToString
-- when the zone map is written, and GetValueAsOriginal (CastAs from VARCHAR) when it is read.
structure ZoneMapType (V : Type) where
  IsNull : V → Bool
  CompareEquals : V → V → CmpBool
  CompareLessThan : V → V → CmpBool
  CompareLessThanEquals : V → V → CmpBool
  CompareGreaterThan : V → V → CmpBool
  CompareGreaterThanEquals : V → V → CmpBool
  ToString : V → String
  CastFromVarchar : String → Except CastException V

-- A tile group as the zone map reads it: GetValue(tuple, column) and GetAllocatedTupleCount.
structure TileGroup (V : Type) where
  GetValue : Nat → Nat → V
  allocatedTupleCount : Nat

structure ColumnStatistics (V : Type) where
  min : V
  max : V

inductive ExpressionType where
  | COMPARE_EQUAL
  | COMPARE_LESSTHAN
  | COMPARE_LESSTHANOREQUALTO
  | COMPARE_GREATERTHAN
  | COMPARE_GREATERTHANOREQUALTO
  deriving DecidableEq, Repr

structure PredicateInfo (V : Type) where
  col_id : Nat
  comparison_operator : ExpressionType
  predicate_value : V

namespace ZoneMapManager

variable {V : Type} (T : ZoneMapType V)

def minMaxStep (acc : V × V) (current : V) : V × V :=
  let max := if T.CompareGreaterThan current acc.2 = .CmpTrue then current else acc.2
  let min := if T.CompareLessThan current acc.1 = .CmpTrue then current else acc.1
  (min, max)

def columnValues (tileGroup : TileGroup V) (col : Nat) : List V :=
  (List.range tileGroup.allocatedTupleCount).map (tileGroup.GetValue · col)

def columnMinMax (tileGroup : TileGroup V) (col : Nat) : V × V :=
  (columnValues tileGroup col).foldl (minMaxStep T) (tileGroup.GetValue 0 col, tileGroup.GetValue 0 col)

-- The zone map catalog after CreateOrUpdateZoneMapForTileGroup: for each column, min.ToString()
-- and max.ToString() (the type string it stores always names this column type).
def CreateOrUpdateZoneMapForTileGroup (tileGroup : TileGroup V) (numColumns : Nat) :
    Nat → Option (String × String) := fun col =>
  if col < numColumns then
    some (T.ToString (columnMinMax T tileGroup col).1, T.ToString (columnMinMax T tileGroup col).2)
  else none

def GetResultVectorAsZoneMap (entry : String × String) : Except CastException (ColumnStatistics V) :=
  do
    let min ← T.CastFromVarchar entry.1
    let max ← T.CastFromVarchar entry.2
    pure ⟨min, max⟩

def checkEqual (predicateVal : V) (stats : ColumnStatistics V) : Bool :=
  T.CompareLessThanEquals stats.min predicateVal = .CmpTrue &&
    T.CompareGreaterThanEquals stats.max predicateVal = .CmpTrue

def checkLessThan (predicateVal : V) (stats : ColumnStatistics V) : Bool :=
  T.CompareGreaterThan predicateVal stats.min = .CmpTrue

def checkLessThanEquals (predicateVal : V) (stats : ColumnStatistics V) : Bool :=
  T.CompareGreaterThanEquals predicateVal stats.min = .CmpTrue

def checkGreaterThan (predicateVal : V) (stats : ColumnStatistics V) : Bool :=
  T.CompareLessThan predicateVal stats.max = .CmpTrue

def checkGreaterThanEquals (predicateVal : V) (stats : ColumnStatistics V) : Bool :=
  T.CompareLessThanEquals predicateVal stats.max = .CmpTrue

-- The switch of ShouldScanTileGroup over the predicate's operator.
def checkPredicate : ExpressionType → V → ColumnStatistics V → Bool
  | .COMPARE_EQUAL => checkEqual T
  | .COMPARE_LESSTHAN => checkLessThan T
  | .COMPARE_LESSTHANOREQUALTO => checkLessThanEquals T
  | .COMPARE_GREATERTHAN => checkGreaterThan T
  | .COMPARE_GREATERTHANOREQUALTO => checkGreaterThanEquals T

-- ShouldScanTileGroup: false as soon as one predicate fails against its column's zone map, true
-- for a column without one; a CastAs that throws on the way is the exception.
def ShouldScanTileGroup (catalog : Nat → Option (String × String)) :
    List (PredicateInfo V) → Except CastException Bool
  | [] => .ok true
  | predicate :: rest =>
    match catalog predicate.col_id with
    | none => .ok true
    | some entry => do
      let stats ← GetResultVectorAsZoneMap T entry
      if checkPredicate T predicate.comparison_operator predicate.predicate_value stats then
        ShouldScanTileGroup catalog rest
      else pure false

def evaluateOp : ExpressionType → V → V → Bool
  | .COMPARE_EQUAL, v, pv => T.CompareEquals v pv = .CmpTrue
  | .COMPARE_LESSTHAN, v, pv => T.CompareLessThan v pv = .CmpTrue
  | .COMPARE_LESSTHANOREQUALTO, v, pv => T.CompareLessThanEquals v pv = .CmpTrue
  | .COMPARE_GREATERTHAN, v, pv => T.CompareGreaterThan v pv = .CmpTrue
  | .COMPARE_GREATERTHANOREQUALTO, v, pv => T.CompareGreaterThanEquals v pv = .CmpTrue

def Evaluate (tileGroup : TileGroup V) (tuple : Nat) (predicate : PredicateInfo V) : Bool :=
  evaluateOp T predicate.comparison_operator (tileGroup.GetValue tuple predicate.col_id)
    predicate.predicate_value

theorem getResultVectorAsZoneMap_ok {entry : String × String} {stats : ColumnStatistics V}
    (read : GetResultVectorAsZoneMap T entry = .ok stats) :
    T.CastFromVarchar entry.1 = .ok stats.min ∧ T.CastFromVarchar entry.2 = .ok stats.max := by
  unfold GetResultVectorAsZoneMap at read
  cases minRead : T.CastFromVarchar entry.1 with
  | error e => simp [minRead] at read; cases read
  | ok min =>
    cases maxRead : T.CastFromVarchar entry.2 with
    | error e => simp [minRead, maxRead] at read; cases read
    | ok max =>
      simp only [minRead, maxRead] at read
      cases read
      exact ⟨rfl, rfl⟩

theorem shouldScanTileGroup_cons_false {catalog : Nat → Option (String × String)}
    {predicate : PredicateInfo V} {rest : List (PredicateInfo V)}
    (skipped : ShouldScanTileGroup T catalog (predicate :: rest) = .ok false) :
    ∃ entry stats, catalog predicate.col_id = some entry ∧
      GetResultVectorAsZoneMap T entry = .ok stats ∧
      (checkPredicate T predicate.comparison_operator predicate.predicate_value stats = false ∨
        ShouldScanTileGroup T catalog rest = .ok false) := by
  unfold ShouldScanTileGroup at skipped
  cases found : catalog predicate.col_id with
  | none => simp [found] at skipped
  | some entry =>
    cases read : GetResultVectorAsZoneMap T entry with
    | error e => simp [found, read] at skipped; cases skipped
    | ok stats =>
      refine ⟨entry, stats, rfl, read, ?_⟩
      simp only [found, read] at skipped
      -- the bind on the read zone map is the check itself
      have checked : (if checkPredicate T predicate.comparison_operator predicate.predicate_value stats
          then ShouldScanTileGroup T catalog rest else pure false) = .ok false := skipped
      by_cases passed : checkPredicate T predicate.comparison_operator predicate.predicate_value stats
      · rw [if_pos passed] at checked
        exact .inr checked
      · exact .inl (by simpa using passed)

theorem minMaxStep_fst (acc : V × V) (current : V) :
    (minMaxStep T acc current).1 = (minMaxStep T (acc.1, acc.1) current).1 := rfl

theorem minMaxStep_snd (acc : V × V) (current : V) :
    (minMaxStep T acc current).2 = (minMaxStep T (acc.2, acc.2) current).2 := rfl

theorem columnMinMax_of_null_first
    (rejects : ∀ a b, T.IsNull b = true →
      T.CompareLessThan a b ≠ .CmpTrue ∧ T.CompareGreaterThan a b ≠ .CmpTrue)
    (tileGroup : TileGroup V) (col : Nat) (null : T.IsNull (tileGroup.GetValue 0 col) = true) :
    columnMinMax T tileGroup col = (tileGroup.GetValue 0 col, tileGroup.GetValue 0 col) := by
  have stays : ∀ current, minMaxStep T (tileGroup.GetValue 0 col, tileGroup.GetValue 0 col) current =
      (tileGroup.GetValue 0 col, tileGroup.GetValue 0 col) := fun current => by
    have rejected := rejects current _ null
    simp [minMaxStep, rejected.1, rejected.2]
  unfold columnMinMax
  induction columnValues tileGroup col with
  | nil => rfl
  | cons current rest ih => rw [List.foldl_cons, stays, ih]

section Lawful

variable [LinearOrder V]

-- A column type on which zone maps are sound: its comparisons are one linear order on the
-- non-null values, and a ToString that casts back comes from a non-null value and gives it back.
structure Lawful : Prop where
  equals : ∀ a b, T.CompareEquals a b = .CmpTrue ↔ T.IsNull a = false ∧ T.IsNull b = false ∧ a = b
  lessThan : ∀ a b,
    T.CompareLessThan a b = .CmpTrue ↔ T.IsNull a = false ∧ T.IsNull b = false ∧ a < b
  lessThanEquals : ∀ a b,
    T.CompareLessThanEquals a b = .CmpTrue ↔ T.IsNull a = false ∧ T.IsNull b = false ∧ a ≤ b
  greaterThan : ∀ a b,
    T.CompareGreaterThan a b = .CmpTrue ↔ T.IsNull a = false ∧ T.IsNull b = false ∧ b < a
  greaterThanEquals : ∀ a b,
    T.CompareGreaterThanEquals a b = .CmpTrue ↔ T.IsNull a = false ∧ T.IsNull b = false ∧ b ≤ a
  roundTrip : ∀ v w, T.CastFromVarchar (T.ToString v) = .ok w → T.IsNull v = false ∧ w = v

def LowerBound (min : V) (seen : List V) : Prop :=
  T.IsNull min = false → ∀ v ∈ seen, T.IsNull v = false → min ≤ v

def UpperBound (max : V) (seen : List V) : Prop :=
  T.IsNull max = false → ∀ v ∈ seen, T.IsNull v = false → v ≤ max

variable {T}

theorem lowerBound_step (lawful : Lawful T) {min : V} {seen : List V} (current : V)
    (bound : LowerBound T min seen) :
    LowerBound T (minMaxStep T (min, min) current).1 (seen ++ [current]) := by
  intro newNotNull v mem vNotNull
  rw [List.mem_append, List.mem_singleton] at mem
  simp only [minMaxStep] at newNotNull ⊢
  split at newNotNull
  next lower =>
    rw [if_pos lower]
    obtain ⟨-, minNotNull, currentBelow⟩ := (lawful.lessThan current min).1 lower
    rcases mem with old | rfl
    · exact le_trans currentBelow.le (bound minNotNull v old vNotNull)
    · exact le_refl _
  next notLower =>
    rw [if_neg notLower]
    rcases mem with old | rfl
    · exact bound newNotNull v old vNotNull
    · exact not_lt.1 fun below => notLower ((lawful.lessThan v min).2 ⟨vNotNull, newNotNull, below⟩)

theorem upperBound_step (lawful : Lawful T) {max : V} {seen : List V} (current : V)
    (bound : UpperBound T max seen) :
    UpperBound T (minMaxStep T (max, max) current).2 (seen ++ [current]) := by
  intro newNotNull v mem vNotNull
  rw [List.mem_append, List.mem_singleton] at mem
  simp only [minMaxStep] at newNotNull ⊢
  split at newNotNull
  next upper =>
    rw [if_pos upper]
    obtain ⟨-, maxNotNull, currentAbove⟩ := (lawful.greaterThan current max).1 upper
    rcases mem with old | rfl
    · exact le_trans (bound maxNotNull v old vNotNull) currentAbove.le
    · exact le_refl _
  next notUpper =>
    rw [if_neg notUpper]
    rcases mem with old | rfl
    · exact bound newNotNull v old vNotNull
    · exact not_lt.1 fun above => notUpper ((lawful.greaterThan v max).2 ⟨vNotNull, newNotNull, above⟩)

theorem bounds_foldl (lawful : Lawful T) :
    ∀ (values : List V) (acc : V × V) (seen : List V),
      LowerBound T acc.1 seen → UpperBound T acc.2 seen →
      LowerBound T (values.foldl (minMaxStep T) acc).1 (seen ++ values) ∧
        UpperBound T (values.foldl (minMaxStep T) acc).2 (seen ++ values)
  | [], acc, seen, lower, upper => by simpa using ⟨lower, upper⟩
  | current :: rest, acc, seen, lower, upper => by
    have lowerStep := lowerBound_step lawful current lower
    have upperStep := upperBound_step lawful current upper
    rw [← minMaxStep_fst] at lowerStep
    rw [← minMaxStep_snd] at upperStep
    have restBounds := bounds_foldl lawful rest (minMaxStep T acc current) (seen ++ [current])
      lowerStep upperStep
    simpa using restBounds

theorem columnMinMax_bounds (lawful : Lawful T) (tileGroup : TileGroup V) (col : Nat)
    {tuple : Nat} (allocated : tuple < tileGroup.allocatedTupleCount)
    (notNull : T.IsNull (tileGroup.GetValue tuple col) = false) :
    (T.IsNull (columnMinMax T tileGroup col).1 = false →
        (columnMinMax T tileGroup col).1 ≤ tileGroup.GetValue tuple col) ∧
      (T.IsNull (columnMinMax T tileGroup col).2 = false →
        tileGroup.GetValue tuple col ≤ (columnMinMax T tileGroup col).2) := by
  have nothingSeen : LowerBound T (tileGroup.GetValue 0 col) [] ∧
      UpperBound T (tileGroup.GetValue 0 col) [] :=
    ⟨fun _ v mem => absurd mem List.not_mem_nil, fun _ v mem => absurd mem List.not_mem_nil⟩
  obtain ⟨lower, upper⟩ := bounds_foldl lawful (columnValues tileGroup col)
    (tileGroup.GetValue 0 col, tileGroup.GetValue 0 col) [] nothingSeen.1 nothingSeen.2
  have visited : tileGroup.GetValue tuple col ∈ [] ++ columnValues tileGroup col := by
    simpa [columnValues] using ⟨tuple, allocated, rfl⟩
  exact ⟨fun minNotNull => lower minNotNull _ visited notNull,
    fun maxNotNull => upper maxNotNull _ visited notNull⟩

theorem checkPredicate_of_evaluateOp (lawful : Lawful T) (op : ExpressionType) (v pv : V)
    (stats : ColumnStatistics V) (minNotNull : T.IsNull stats.min = false)
    (maxNotNull : T.IsNull stats.max = false)
    (between : T.IsNull v = false → stats.min ≤ v ∧ v ≤ stats.max)
    (evaluated : evaluateOp T op v pv = true) : checkPredicate T op pv stats = true := by
  cases op with
  | COMPARE_EQUAL =>
    obtain ⟨vNotNull, pvNotNull, rfl⟩ := (lawful.equals v pv).1 (by simpa [evaluateOp] using evaluated)
    have inside := between vNotNull
    simp [checkPredicate, checkEqual, lawful.lessThanEquals, lawful.greaterThanEquals, minNotNull,
      maxNotNull, vNotNull, inside.1, inside.2]
  | COMPARE_LESSTHAN =>
    obtain ⟨vNotNull, pvNotNull, below⟩ :=
      (lawful.lessThan v pv).1 (by simpa [evaluateOp] using evaluated)
    have inside := between vNotNull
    simp [checkPredicate, checkLessThan, lawful.greaterThan, minNotNull, pvNotNull,
      lt_of_le_of_lt inside.1 below]
  | COMPARE_LESSTHANOREQUALTO =>
    obtain ⟨vNotNull, pvNotNull, below⟩ :=
      (lawful.lessThanEquals v pv).1 (by simpa [evaluateOp] using evaluated)
    have inside := between vNotNull
    simp [checkPredicate, checkLessThanEquals, lawful.greaterThanEquals, minNotNull, pvNotNull,
      le_trans inside.1 below]
  | COMPARE_GREATERTHAN =>
    obtain ⟨vNotNull, pvNotNull, above⟩ :=
      (lawful.greaterThan v pv).1 (by simpa [evaluateOp] using evaluated)
    have inside := between vNotNull
    simp [checkPredicate, checkGreaterThan, lawful.lessThan, maxNotNull, pvNotNull,
      lt_of_lt_of_le above inside.2]
  | COMPARE_GREATERTHANOREQUALTO =>
    obtain ⟨vNotNull, pvNotNull, above⟩ :=
      (lawful.greaterThanEquals v pv).1 (by simpa [evaluateOp] using evaluated)
    have inside := between vNotNull
    simp [checkPredicate, checkGreaterThanEquals, lawful.lessThanEquals, maxNotNull, pvNotNull,
      le_trans above inside.2]

theorem shouldScanTileGroup_sound (lawful : Lawful T) (tileGroup : TileGroup V) (numColumns : Nat) :
    ∀ predicates : List (PredicateInfo V),
      ShouldScanTileGroup T (CreateOrUpdateZoneMapForTileGroup T tileGroup numColumns) predicates =
          .ok false →
        ∀ tuple < tileGroup.allocatedTupleCount,
          ∃ predicate ∈ predicates, Evaluate T tileGroup tuple predicate = false
  | [], skipped, _, _ => by simp [ShouldScanTileGroup] at skipped
  | predicate :: rest, skipped, tuple, allocated => by
    obtain ⟨entry, stats, found, read, failed⟩ := shouldScanTileGroup_cons_false T skipped
    cases failed with
    | inr restSkipped =>
      obtain ⟨other, mem, fails⟩ :=
        shouldScanTileGroup_sound lawful tileGroup numColumns rest restSkipped tuple allocated
      exact ⟨other, List.mem_cons_of_mem _ mem, fails⟩
    | inl checkFailed =>
      refine ⟨predicate, List.mem_cons_self, ?_⟩
      -- the entry is the column's min and max as strings, and both cast back to themselves
      have written : predicate.col_id < numColumns ∧
          entry = (T.ToString (columnMinMax T tileGroup predicate.col_id).1,
            T.ToString (columnMinMax T tileGroup predicate.col_id).2) := by
        unfold CreateOrUpdateZoneMapForTileGroup at found
        split at found
        next inRange => exact ⟨inRange, (Option.some.inj found).symm⟩
        next => cases found
      obtain ⟨minRead, maxRead⟩ := getResultVectorAsZoneMap_ok T read
      rw [written.2] at minRead maxRead
      obtain ⟨minNotNull, minSame⟩ := lawful.roundTrip _ _ minRead
      obtain ⟨maxNotNull, maxSame⟩ := lawful.roundTrip _ _ maxRead
      have bounds := columnMinMax_bounds lawful tileGroup predicate.col_id allocated
      cases evaluated : Evaluate T tileGroup tuple predicate
      · rfl
      · have passes := checkPredicate_of_evaluateOp lawful predicate.comparison_operator _
          predicate.predicate_value stats (minSame ▸ minNotNull) (maxSame ▸ maxNotNull)
          (fun vNotNull => ⟨minSame ▸ (bounds vNotNull).1 minNotNull,
            maxSame ▸ (bounds vNotNull).2 maxNotNull⟩) evaluated
        rw [passes] at checkFailed
        cases checkFailed

end Lawful

end ZoneMapManager

open ZoneMapManager

def integerZoneMapType : ZoneMapType IntegerValue where
  IsNull := SqlType.IsNull
  CompareEquals := Value.CompareEquals
  CompareLessThan := Value.CompareLessThan
  CompareLessThanEquals := Value.CompareLessThanEquals
  CompareGreaterThan := Value.CompareGreaterThan
  CompareGreaterThanEquals := Value.CompareGreaterThanEquals
  ToString := IntegerType.ToString
  CastFromVarchar str :=
    match ValueFactory.CastAsInteger ⟨some str⟩ with
    | .ok v => .ok ⟨v.integer⟩
    | .error e => .error e

instance : LinearOrder IntegerValue :=
  LinearOrder.lift' IntegerValue.integer fun a b same => by
    cases a
    cases b
    simpa using same

theorem IntegerValue.lt_iff {a b : IntegerValue} : a < b ↔ a.integer < b.integer := Iff.rfl

theorem IntegerValue.le_iff {a b : IntegerValue} : a ≤ b ↔ a.integer ≤ b.integer := Iff.rfl

theorem integerZoneMapType_roundTrip (v w : IntegerValue)
    (read : integerZoneMapType.CastFromVarchar (integerZoneMapType.ToString v) = .ok w) :
    SqlType.IsNull v = false ∧ w = v := by
  cases null : SqlType.IsNull v
  · simp only [integerZoneMapType, IntegerType.ToString, null, Bool.false_eq_true, if_false,
      ValueFactory.castAsInteger_toDecimalString] at read
    by_cases inRange : IntegerTypeId.INTEGER.PELOTON_MIN ≤ v.integer ∧
        v.integer ≤ IntegerTypeId.INTEGER.PELOTON_MAX
    · rw [if_pos inRange] at read
      simp only [Except.ok.injEq] at read
      exact ⟨rfl, by rw [← read]⟩
    · rw [if_neg inRange] at read
      cases read
  · -- "integer_null" has no digits: stoi throws invalid_argument
    have invalid : ∃ e, ValueFactory.CastAsInteger ⟨some "integer_null"⟩ = .error e := ⟨_, rfl⟩
    obtain ⟨e, thrown⟩ := invalid
    simp [integerZoneMapType, IntegerType.ToString, null, thrown] at read

theorem integerZoneMapType_lawful : Lawful integerZoneMapType where
  equals a b := by
    show Value.CompareEquals a b = .CmpTrue ↔ _
    rw [Value.CompareEquals, Value.compareWith_eq_cmpTrue]
    cases a
    cases b
    simp [SqlType.eq, integerZoneMapType]
  lessThan a b := by
    show Value.CompareLessThan a b = .CmpTrue ↔ _
    rw [Value.CompareLessThan, Value.compareWith_eq_cmpTrue, IntegerValue.lt_iff]
    simp [SqlType.lt, integerZoneMapType]
  lessThanEquals a b := by
    show Value.CompareLessThanEquals a b = .CmpTrue ↔ _
    rw [Value.CompareLessThanEquals, Value.compareWith_eq_cmpTrue, IntegerValue.le_iff]
    simp [SqlType.lt, integerZoneMapType]
  greaterThan a b := by
    show Value.CompareGreaterThan a b = .CmpTrue ↔ _
    rw [Value.CompareGreaterThan, Value.compareWith_eq_cmpTrue, IntegerValue.lt_iff]
    simp [SqlType.lt, integerZoneMapType]
  greaterThanEquals a b := by
    show Value.CompareGreaterThanEquals a b = .CmpTrue ↔ _
    rw [Value.CompareGreaterThanEquals, Value.compareWith_eq_cmpTrue, IntegerValue.le_iff]
    simp [SqlType.lt, integerZoneMapType]
  roundTrip := integerZoneMapType_roundTrip

theorem integer_shouldScanTileGroup_sound (tileGroup : TileGroup IntegerValue) (numColumns : Nat)
    (predicates : List (PredicateInfo IntegerValue))
    (skipped : ShouldScanTileGroup integerZoneMapType
      (CreateOrUpdateZoneMapForTileGroup integerZoneMapType tileGroup numColumns) predicates =
        .ok false)
    (tuple : Nat) (allocated : tuple < tileGroup.allocatedTupleCount) :
    ∃ predicate ∈ predicates, Evaluate integerZoneMapType tileGroup tuple predicate = false :=
  shouldScanTileGroup_sound integerZoneMapType_lawful tileGroup numColumns predicates skipped tuple
    allocated

def timestampZoneMapType : ZoneMapType TimestampValue where
  IsNull := TimestampType.IsNull
  CompareEquals := TimestampType.CompareEquals
  CompareLessThan := TimestampType.CompareLessThan
  CompareLessThanEquals := TimestampType.CompareLessThanEquals
  CompareGreaterThan := TimestampType.CompareGreaterThan
  CompareGreaterThanEquals := TimestampType.CompareGreaterThanEquals
  ToString := TimestampType.ToString
  CastFromVarchar str := ValueFactory.CastAsTimestamp ⟨some str⟩

def varcharZoneMapType : ZoneMapType VarlenValue where
  IsNull := SqlType.IsNull
  CompareEquals := Value.CompareEquals
  CompareLessThan := Value.CompareLessThan
  CompareLessThanEquals := Value.CompareLessThanEquals
  CompareGreaterThan := Value.CompareGreaterThan
  CompareGreaterThanEquals := Value.CompareGreaterThanEquals
  ToString := VarlenValue.ToString
  CastFromVarchar str := .ok ⟨some str⟩

def octoberThenNovember : TileGroup TimestampValue :=
  ⟨fun tuple _ => if tuple = 0 then ⟨DateFunctions.Now 0 0 2017 1 10⟩
    else ⟨DateFunctions.Now 0 0 2017 1 11⟩, 2⟩

def nullThenText : TileGroup VarlenValue :=
  ⟨fun tuple _ => if tuple = 0 then VarlenValue.null else ⟨some "abc"⟩, 2⟩

-- Both columns' zone maps leave out a tuple the scan would return: the November timestamp never
-- becomes the max, which CompareGreaterThan computes through int64_t; and the NULL in slot 0
-- is never replaced, so the zone map stores "varlen_null", which reads back as that text.
theorem zoneMap_skips_matching_tuple :
    ShouldScanTileGroup timestampZoneMapType
        (CreateOrUpdateZoneMapForTileGroup timestampZoneMapType octoberThenNovember 1)
        [⟨0, .COMPARE_EQUAL, ⟨DateFunctions.Now 0 0 2017 1 11⟩⟩] = .ok false ∧
      Evaluate timestampZoneMapType octoberThenNovember 1
        ⟨0, .COMPARE_EQUAL, ⟨DateFunctions.Now 0 0 2017 1 11⟩⟩ = true ∧
      ShouldScanTileGroup varcharZoneMapType
        (CreateOrUpdateZoneMapForTileGroup varcharZoneMapType nullThenText 1)
        [⟨0, .COMPARE_EQUAL, ⟨some "abc"⟩⟩] = .ok false ∧
      Evaluate varcharZoneMapType nullThenText 1 ⟨0, .COMPARE_EQUAL, ⟨some "abc"⟩⟩ = true := by
  have rejectsNull : ∀ a b : VarlenValue, varcharZoneMapType.IsNull b = true →
      varcharZoneMapType.CompareLessThan a b ≠ .CmpTrue ∧
        varcharZoneMapType.CompareGreaterThan a b ≠ .CmpTrue := fun a b null =>
    ⟨Value.compareWith_ne_cmpTrue_of_null SqlType.lt a b (.inr null),
      Value.compareWith_ne_cmpTrue_of_null (fun l r => SqlType.lt r l) a b (.inr null)⟩
  have written : CreateOrUpdateZoneMapForTileGroup varcharZoneMapType nullThenText 1 0 =
      some ("varlen_null", "varlen_null") := by
    rw [CreateOrUpdateZoneMapForTileGroup, if_pos (by decide),
      columnMinMax_of_null_first varcharZoneMapType rejectsNull nullThenText 0 rfl]
    rfl
  refine ⟨by decide, by decide, ?_, by decide⟩
  rw [ShouldScanTileGroup, written]
  rfl

end Peloton.Storage
