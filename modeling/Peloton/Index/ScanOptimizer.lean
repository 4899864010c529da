import Peloton.Lib.LexOrder
import Peloton.Type.TypeId
import Peloton.Type.ValueFactory
import Mathlib.Data.Int.Order.Basic

set_option autoImplicit false

/-!
# ConjunctionScanPredicate

How an index scan turns a conjunction of predicates on key columns into a low key and a high key.
IndexUtil::FindValueIndex picks, for each key column, the first predicate that bounds it from
below and the first that bounds it from above, and declares a point query once every column's two
picks are one predicate. ConstructScanInterval then fills each key column from the picked
predicate's value, or from the minimum or maximum of the column's type where nothing was picked.
The key columns here are of the integral types, whose values are integers.
-/

namespace Peloton.Index

open Peloton.Type

/-- The comparison operators of a scan predicate. -/
inductive ExpressionType where
  | COMPARE_EQUAL
  | COMPARE_NOTEQUAL
  | COMPARE_LESSTHAN
  | COMPARE_GREATERTHAN
  | COMPARE_LESSTHANOREQUALTO
  | COMPARE_GREATERTHANOREQUALTO
  | COMPARE_LIKE
  | COMPARE_NOTLIKE
  | COMPARE_IN
  deriving DecidableEq, Repr

/-- Whether a column value x satisfies the predicate "x op v". -/
def predicateHolds : ExpressionType → Int → Int → Bool
  | .COMPARE_EQUAL, x, v => x == v
  | .COMPARE_NOTEQUAL, x, v => x != v
  | .COMPARE_LESSTHAN, x, v => x < v
  | .COMPARE_GREATERTHAN, x, v => v < x
  | .COMPARE_LESSTHANOREQUALTO, x, v => x ≤ v
  | .COMPARE_GREATERTHANOREQUALTO, x, v => v ≤ x
  | _, _, _ => true

namespace IndexUtil

def DefinesLowerBound (e : ExpressionType) : Bool :=
  e == .COMPARE_EQUAL || e == .COMPARE_GREATERTHAN || e == .COMPARE_GREATERTHANOREQUALTO

def DefinesUpperBound (e : ExpressionType) : Bool :=
  e == .COMPARE_EQUAL || e == .COMPARE_LESSTHAN || e == .COMPARE_LESSTHANOREQUALTO

def HasNonOptimizablePredicate (expr_types : List ExpressionType) : Bool :=
  expr_types.any fun t =>
    t == .COMPARE_NOTEQUAL || t == .COMPARE_IN || t == .COMPARE_LIKE || t == .COMPARE_NOTLIKE

abbrev ValueIndexList := List (Option Nat × Option Nat)

def lowerIndex (value_index_list : ValueIndexList) (c : Nat) : Option Nat :=
  value_index_list[c]?.bind Prod.fst

def upperIndex (value_index_list : ValueIndexList) (c : Nat) : Option Nat :=
  value_index_list[c]?.bind Prod.snd

def recordLowerBound (i index_column_id : Nat) (e_type : ExpressionType)
    (value_index_list : ValueIndexList) : ValueIndexList :=
  if DefinesLowerBound e_type && (lowerIndex value_index_list index_column_id).isNone then
    value_index_list.modify index_column_id fun pair => (some i, pair.2)
  else value_index_list

def findValueIndexLoop (index_column_count : Nat) (tuple_to_index : Nat → Nat) :
    Nat → List (Nat × ExpressionType) → ValueIndexList → Nat → Bool × ValueIndexList
  | _, [], value_index_list, _ => (false, value_index_list)
  | i, (tuple_column_id, e_type) :: rest, value_index_list, counter =>
    let index_column_id := tuple_to_index tuple_column_id
    -- == bounds the column from both sides, so the two tests run one after the other
    let lowered := recordLowerBound i index_column_id e_type value_index_list
    if DefinesUpperBound e_type && (upperIndex lowered index_column_id).isNone then
      let bounded := lowered.modify index_column_id fun pair => (pair.1, some i)
      if upperIndex bounded index_column_id == lowerIndex bounded index_column_id then
        if counter + 1 == index_column_count then (true, bounded)
        else findValueIndexLoop index_column_count tuple_to_index (i + 1) rest bounded (counter + 1)
      else findValueIndexLoop index_column_count tuple_to_index (i + 1) rest bounded counter
    else findValueIndexLoop index_column_count tuple_to_index (i + 1) rest lowered counter

/-- FindValueIndex: whether the predicates make a point query, and value_index_list, resized to one
pair of INVALID_OID per key column before the loop. -/
def FindValueIndex (index_column_count : Nat) (tuple_to_index : Nat → Nat)
    (tuple_column_id_list : List Nat) (expr_list : List ExpressionType) :
    Bool × ValueIndexList :=
  findValueIndexLoop index_column_count tuple_to_index 0 (tuple_column_id_list.zip expr_list)
    (List.replicate index_column_count (none, none)) 0

/-! ## What the loop records -/

section Loop

variable (index_column_count : Nat) (tuple_to_index : Nat → Nat)
  (predicates : List (Nat × ExpressionType))

def Picks (bounds : ExpressionType → Bool) (c j : Nat) : Prop :=
  ∃ tuple_column_id e_type, predicates[j]? = some (tuple_column_id, e_type) ∧
    tuple_to_index tuple_column_id = c ∧ bounds e_type = true

/-- What the loop keeps true of value_index_list: one pair per key column, and each index it
records names a predicate on that column that bounds it from the recorded side. -/
structure Recorded (value_index_list : ValueIndexList) : Prop where
  length : value_index_list.length = index_column_count
  lower : ∀ c j, lowerIndex value_index_list c = some j →
    Picks tuple_to_index predicates DefinesLowerBound c j
  upper : ∀ c j, upperIndex value_index_list c = some j →
    Picks tuple_to_index predicates DefinesUpperBound c j

def boundsCoincide (pair : Option Nat × Option Nat) : Bool := pair.2.isSome && pair.2 == pair.1

theorem lowerIndex_modify (value_index_list : ValueIndexList) (c c' : Nat)
    (f : Option Nat × Option Nat → Option Nat × Option Nat) :
    lowerIndex (value_index_list.modify c f) c' =
      if c = c' then (value_index_list[c']?.map f).bind Prod.fst
      else lowerIndex value_index_list c' := by
  unfold lowerIndex
  rw [List.getElem?_modify]
  by_cases same : c = c' <;> cases value_index_list[c']? <;> simp [same]

theorem upperIndex_modify (value_index_list : ValueIndexList) (c c' : Nat)
    (f : Option Nat × Option Nat → Option Nat × Option Nat) :
    upperIndex (value_index_list.modify c f) c' =
      if c = c' then (value_index_list[c']?.map f).bind Prod.snd
      else upperIndex value_index_list c' := by
  unfold upperIndex
  rw [List.getElem?_modify]
  by_cases same : c = c' <;> cases value_index_list[c']? <;> simp [same]

variable {index_column_count tuple_to_index predicates}

theorem Recorded.setLower {value_index_list : ValueIndexList}
    (recorded : Recorded index_column_count tuple_to_index predicates value_index_list)
    {i tuple_column_id : Nat} {e_type : ExpressionType}
    (current : predicates[i]? = some (tuple_column_id, e_type))
    (defines : DefinesLowerBound e_type = true) :
    Recorded index_column_count tuple_to_index predicates
      (value_index_list.modify (tuple_to_index tuple_column_id) fun pair => (some i, pair.2)) where
  length := by simpa using recorded.length
  lower c j recordedAt := by
    rw [lowerIndex_modify] at recordedAt
    split at recordedAt
    · next same =>
      cases column : value_index_list[c]? <;> simp [column] at recordedAt
      subst recordedAt
      exact ⟨tuple_column_id, e_type, current, same, defines⟩
    · exact recorded.lower c j recordedAt
  upper c j recordedAt := by
    rw [upperIndex_modify] at recordedAt
    split at recordedAt
    · cases column : value_index_list[c]? <;> simp [column] at recordedAt
      exact recorded.upper c j (by simp [upperIndex, column, recordedAt])
    · exact recorded.upper c j recordedAt

theorem Recorded.setUpper {value_index_list : ValueIndexList}
    (recorded : Recorded index_column_count tuple_to_index predicates value_index_list)
    {i tuple_column_id : Nat} {e_type : ExpressionType}
    (current : predicates[i]? = some (tuple_column_id, e_type))
    (defines : DefinesUpperBound e_type = true) :
    Recorded index_column_count tuple_to_index predicates
      (value_index_list.modify (tuple_to_index tuple_column_id) fun pair => (pair.1, some i)) where
  length := by simpa using recorded.length
  lower c j recordedAt := by
    rw [lowerIndex_modify] at recordedAt
    split at recordedAt
    · cases column : value_index_list[c]? <;> simp [column] at recordedAt
      exact recorded.lower c j (by simp [lowerIndex, column, recordedAt])
    · exact recorded.lower c j recordedAt
  upper c j recordedAt := by
    rw [upperIndex_modify] at recordedAt
    split at recordedAt
    · next same =>
      cases column : value_index_list[c]? <;> simp [column] at recordedAt
      subst recordedAt
      exact ⟨tuple_column_id, e_type, current, same, defines⟩
    · exact recorded.upper c j recordedAt

theorem Recorded.recordLowerBound {value_index_list : ValueIndexList}
    (recorded : Recorded index_column_count tuple_to_index predicates value_index_list)
    {i tuple_column_id : Nat} {e_type : ExpressionType}
    (current : predicates[i]? = some (tuple_column_id, e_type)) :
    Recorded index_column_count tuple_to_index predicates
      (recordLowerBound i (tuple_to_index tuple_column_id) e_type value_index_list) := by
  unfold IndexUtil.recordLowerBound
  split
  · next test => exact recorded.setLower current (by simp_all)
  · exact recorded

theorem countP_modify_of_false {α : Type} {p : α → Bool} {l : List α} {c : Nat} (f : α → α)
    (inRange : c < l.length) (before : p l[c] = false) :
    (l.modify c f).countP p = l.countP p + if p (f l[c]) then 1 else 0 := by
  rw [List.modify_eq_set_get f inRange, List.countP_set (by simpa using inRange)]
  simp [before]

theorem countP_recordLowerBound (value_index_list : ValueIndexList) (i c : Nat)
    (e_type : ExpressionType) (inRange : c < value_index_list.length) :
    value_index_list.countP boundsCoincide ≤
      (recordLowerBound i c e_type value_index_list).countP boundsCoincide := by
  unfold recordLowerBound
  split
  · next test =>
    have unset : value_index_list[c].1 = none := by
      simp_all [lowerIndex]
    have notCounted : boundsCoincide value_index_list[c] = false := by
      cases second : value_index_list[c].2 <;> simp [boundsCoincide, unset, second]
    rw [countP_modify_of_false _ inRange notCounted]
    omega
  · exact Nat.le_refl _

theorem countP_setUpper (value_index_list : ValueIndexList) (i c : Nat)
    (inRange : c < value_index_list.length) (unset : (upperIndex value_index_list c).isNone) :
    (value_index_list.modify c fun pair => (pair.1, some i)).countP boundsCoincide =
      value_index_list.countP boundsCoincide +
        if upperIndex (value_index_list.modify c fun pair => (pair.1, some i)) c ==
          lowerIndex (value_index_list.modify c fun pair => (pair.1, some i)) c then 1 else 0 := by
  have second : value_index_list[c].2 = none := by
    simpa [upperIndex, List.getElem?_eq_getElem inRange] using unset
  have notCounted : boundsCoincide value_index_list[c] = false := by
    simp [boundsCoincide, second]
  rw [countP_modify_of_false _ inRange notCounted, lowerIndex_modify, upperIndex_modify]
  simp [boundsCoincide, List.getElem?_eq_getElem inRange]

theorem findValueIndexLoop_recorded
    (inIndex : ∀ p ∈ predicates, tuple_to_index p.1 < index_column_count) :
    ∀ (rest : List (Nat × ExpressionType)) (i counter : Nat) (value_index_list : ValueIndexList),
      predicates.drop i = rest →
      Recorded index_column_count tuple_to_index predicates value_index_list →
      counter ≤ value_index_list.countP boundsCoincide →
      Recorded index_column_count tuple_to_index predicates
          (findValueIndexLoop index_column_count tuple_to_index i rest value_index_list counter).2 ∧
        ((findValueIndexLoop index_column_count tuple_to_index i rest value_index_list
            counter).1 = true →
          ∀ pair ∈ (findValueIndexLoop index_column_count tuple_to_index i rest value_index_list
            counter).2, boundsCoincide pair = true)
  | [], _, _, _, _, recorded, _ => ⟨recorded, by simp [findValueIndexLoop]⟩
  | (tuple_column_id, e_type) :: rest, i, counter, value_index_list, suffix, recorded, counted => by
    have current : predicates[i]? = some (tuple_column_id, e_type) := by
      have head := congrArg (fun l => l[0]?) suffix
      simpa [List.getElem?_drop] using head
    have next : predicates.drop (i + 1) = rest := by
      rw [← List.drop_drop, suffix, List.drop_one, List.tail_cons]
    have inCount : tuple_to_index tuple_column_id < index_column_count :=
      inIndex _ (List.mem_of_getElem? current)
    have lowered := recorded.recordLowerBound current
    have loweredCount := countP_recordLowerBound value_index_list i _ e_type
      (recorded.length ▸ inCount)
    simp only [findValueIndexLoop]
    split
    · next upperTest =>
      simp only [Bool.and_eq_true] at upperTest
      have bounded := lowered.setUpper current upperTest.1
      have boundedCount := countP_setUpper _ i _ (lowered.length ▸ inCount) upperTest.2
      split
      · next equal =>
        rw [if_pos equal] at boundedCount
        split
        · next reached =>
          -- the counter reached the column count, and it is at most the coinciding columns
          refine ⟨bounded, fun _ => List.countP_eq_length.1 ?_⟩
          dsimp only
          have atMost := List.countP_le_length (p := boundsCoincide)
            (l := (recordLowerBound i (tuple_to_index tuple_column_id) e_type
              value_index_list).modify (tuple_to_index tuple_column_id) fun pair => (pair.1, some i))
          have reachedCount : counter + 1 = index_column_count := by simpa using reached
          rw [bounded.length] at atMost ⊢
          omega
        · exact findValueIndexLoop_recorded inIndex rest (i + 1) (counter + 1) _ next bounded
            (by omega)
      · exact findValueIndexLoop_recorded inIndex rest (i + 1) counter _ next bounded (by omega)
    · exact findValueIndexLoop_recorded inIndex rest (i + 1) counter _ next lowered (by omega)

end Loop

theorem findValueIndex_recorded (index_column_count : Nat) (tuple_to_index : Nat → Nat)
    (tuple_column_id_list : List Nat) (expr_list : List ExpressionType)
    (inIndex : ∀ p ∈ tuple_column_id_list.zip expr_list,
      tuple_to_index p.1 < index_column_count) :
    Recorded index_column_count tuple_to_index (tuple_column_id_list.zip expr_list)
        (FindValueIndex index_column_count tuple_to_index tuple_column_id_list expr_list).2 ∧
      ((FindValueIndex index_column_count tuple_to_index tuple_column_id_list expr_list).1 =
          true →
        ∀ pair ∈ (FindValueIndex index_column_count tuple_to_index tuple_column_id_list
          expr_list).2, boundsCoincide pair = true) := by
  have initial : Recorded index_column_count tuple_to_index (tuple_column_id_list.zip expr_list)
      (List.replicate index_column_count (none, none)) :=
    ⟨by simp, fun c j => by simp only [lowerIndex, List.getElem?_replicate]; split <;> simp,
      fun c j => by simp only [upperIndex, List.getElem?_replicate]; split <;> simp⟩
  exact findValueIndexLoop_recorded inIndex _ 0 0 _ List.drop_zero initial (Nat.zero_le _)

example : FindValueIndex 1 id [0, 0] [.COMPARE_LESSTHAN, .COMPARE_EQUAL] =
    (false, [(some 1, some 0)]) := by decide

end IndexUtil

open IndexUtil

def lowKeyValue (value_list : List Int) (index_key_column_type : TypeId) : Option Nat → Option Int
  | none => GetMinValue index_key_column_type
  | some j => value_list[j]?

def highKeyValue (value_list : List Int) (index_key_column_type : TypeId) : Option Nat → Option Int
  | none => GetMaxValue index_key_column_type
  | some j => value_list[j]?

/-- ConstructScanInterval's loop over the key columns, giving the low key and the high key. -/
def ConstructScanInterval (value_list : List Int) (is_point_query : Bool) :
    List TypeId → ValueIndexList → Option (List Int × List Int)
  | index_key_column_type :: key_schema, (first, second) :: value_index_list => do
    let low ← lowKeyValue value_list index_key_column_type first
    let high ← if is_point_query then some 0
      else highKeyValue value_list index_key_column_type second
    let (lows, highs) ← ConstructScanInterval value_list is_point_query key_schema value_index_list
    return (low :: lows, high :: highs)
  | _, _ => some ([], [])

/-- The fields of a ConjunctionScanPredicate that a scan reads; low_key_p_ and high_key_p_ are
none where they are nullptr. -/
structure ConjunctionScanPredicate where
  value_index_list : ValueIndexList
  is_point_query : Bool
  full_index_scan : Bool
  low_key : Option (List Int)
  high_key : Option (List Int)
  deriving DecidableEq, Repr

namespace ConjunctionScanPredicate

/-- The constructor, given the index's key schema and tuple-to-index mapping; none where a key
needs a minimum or a maximum that is not an integer. -/
def new (key_schema : List TypeId) (tuple_to_index : Nat → Nat) (value_list : List Int)
    (tuple_column_id_list : List Nat) (expr_list : List ExpressionType) :
    Option ConjunctionScanPredicate :=
  if HasNonOptimizablePredicate expr_list then some ⟨[], false, true, none, none⟩
  else
    let (is_point_query, value_index_list) :=
      FindValueIndex key_schema.length tuple_to_index tuple_column_id_list expr_list
    (ConstructScanInterval value_list is_point_query key_schema value_index_list).map
      fun (low, high) => ⟨value_index_list, is_point_query, false, some low, some high⟩

def IsFullIndexScan (scan : ConjunctionScanPredicate) : Bool := scan.full_index_scan

def IsPointQuery (scan : ConjunctionScanPredicate) : Bool := scan.is_point_query

def GetLowKey (scan : ConjunctionScanPredicate) : Option (List Int) := scan.low_key

def GetHighKey (scan : ConjunctionScanPredicate) : Option (List Int) := scan.high_key

def GetPointQueryKey (scan : ConjunctionScanPredicate) : Option (List Int) := scan.low_key

end ConjunctionScanPredicate

/-! ## The scan interval -/

theorem le_of_predicateHolds_of_lower {e_type : ExpressionType} {x v : Int}
    (lower : DefinesLowerBound e_type = true) (holds : predicateHolds e_type x v = true) :
    v ≤ x := by
  cases e_type <;> simp_all [DefinesLowerBound, predicateHolds]
  case COMPARE_GREATERTHAN => exact Int.le_of_lt holds

theorem le_of_predicateHolds_of_upper {e_type : ExpressionType} {x v : Int}
    (upper : DefinesUpperBound e_type = true) (holds : predicateHolds e_type x v = true) :
    x ≤ v := by
  cases e_type <;> simp_all [DefinesUpperBound, predicateHolds]
  case COMPARE_LESSTHAN => exact Int.le_of_lt holds

theorem eq_equal_of_lower_of_upper {e_type : ExpressionType}
    (lower : DefinesLowerBound e_type = true) (upper : DefinesUpperBound e_type = true) :
    e_type = .COMPARE_EQUAL := by
  cases e_type <;> simp_all [DefinesLowerBound, DefinesUpperBound]

def ColumnBounded (R S : Int → Int → Prop) (value_list : List Int) (is_point_query : Bool)
    (column : TypeId × Option Nat × Option Nat) (x : Int) : Prop :=
  (∃ low, lowKeyValue value_list column.1 column.2.1 = some low ∧ R low x) ∧
    (is_point_query = false →
      ∃ high, highKeyValue value_list column.1 column.2.2 = some high ∧ S x high)

theorem constructScanInterval_forall₂ (R S : Int → Int → Prop) (value_list : List Int)
    (is_point_query : Bool) (key_schema : List TypeId) (value_index_list : ValueIndexList)
    (t : List Int)
    (columns : List.Forall₂ (ColumnBounded R S value_list is_point_query)
      (key_schema.zip value_index_list) t) :
    ∃ lows highs,
      ConstructScanInterval value_list is_point_query key_schema value_index_list =
          some (lows, highs) ∧
        List.Forall₂ R lows t ∧ (is_point_query = false → List.Forall₂ S t highs) := by
  induction key_schema generalizing value_index_list t with
  | nil =>
    rw [List.zip_nil_left, List.forall₂_nil_left_iff] at columns
    subst columns
    exact ⟨[], [], rfl, .nil, fun _ => .nil⟩
  | cons index_key_column_type key_schema ih =>
    cases value_index_list with
    | nil =>
      rw [List.zip_nil_right, List.forall₂_nil_left_iff] at columns
      subst columns
      exact ⟨[], [], rfl, .nil, fun _ => .nil⟩
    | cons pair value_index_list =>
      obtain ⟨first, second⟩ := pair
      rw [List.zip_cons_cons] at columns
      cases columns with
      | cons column rest =>
        obtain ⟨⟨low, lowValue, lowRelated⟩, high⟩ := column
        obtain ⟨lows, highs, interval, lowsRelated, highsRelated⟩ := ih _ _ rest
        cases is_point_query with
        | true =>
          exact ⟨low :: lows, 0 :: highs,
            by simp [ConstructScanInterval, lowValue, interval], .cons lowRelated lowsRelated,
            fun point => by simp at point⟩
        | false =>
          obtain ⟨highValue, highIs, highRelated⟩ := high rfl
          exact ⟨low :: lows, highValue :: highs,
            by simp [ConstructScanInterval, lowValue, highIs, interval],
            .cons lowRelated lowsRelated, fun _ => .cons highRelated (highsRelated rfl)⟩

theorem forall₂_zip_of_columns {R : TypeId × Option Nat × Option Nat → Int → Prop}
    (key_schema : List TypeId) (value_index_list : ValueIndexList) (t : List Int)
    (listed : value_index_list.length = key_schema.length) (typed : t.length = key_schema.length)
    (each : ∀ c (_ : c < key_schema.length) (_ : c < value_index_list.length),
      R (key_schema[c], value_index_list[c]) (t.getD c 0)) :
    List.Forall₂ R (key_schema.zip value_index_list) t := by
  refine List.forall₂_iff_get.2 ⟨by simp [listed, typed], fun c inZip inTuple => ?_⟩
  have hc : c < key_schema.length := by simpa [listed] using inZip
  simpa [List.getElem?_eq_getElem inTuple] using each c hc (listed ▸ hc)

section Columns

variable {tuple_to_index : Nat → Nat} {predicates : List (Nat × ExpressionType × Int)}
  {t : List Int} {index_column_count : Nat} {value_index_list : ValueIndexList}

theorem picks_value {bounds : ExpressionType → Bool} {c j : Nat}
    (picks : Picks tuple_to_index (predicates.map fun p => (p.1, p.2.1)) bounds c j) :
    ∃ tuple_column_id e_type v, predicates[j]? = some (tuple_column_id, e_type, v) ∧
      tuple_to_index tuple_column_id = c ∧ bounds e_type = true ∧
      (predicates.map (·.2.2))[j]? = some v := by
  obtain ⟨tuple_column_id, e_type, entry, onColumn, bounds⟩ := picks
  rw [List.getElem?_map, Option.map_eq_some_iff] at entry
  obtain ⟨⟨tuple_column_id', e_type', v⟩, entry, same⟩ := entry
  simp only [Prod.mk.injEq] at same
  obtain ⟨rfl, rfl⟩ := same
  exact ⟨_, _, v, entry, onColumn, bounds, by simp [entry]⟩

variable (satisfied : ∀ p ∈ predicates,
  predicateHolds p.2.1 (t.getD (tuple_to_index p.1) 0) p.2.2 = true)
include satisfied

theorem columnBounded_of_recorded
    (recorded : Recorded index_column_count tuple_to_index (predicates.map fun p => (p.1, p.2.1))
      value_index_list)
    {c : Nat} (hc : c < value_index_list.length) {index_key_column_type : TypeId}
    (ranged : InMinMaxRange index_key_column_type (t.getD c 0)) (is_point_query : Bool) :
    ColumnBounded (· ≤ ·) (· ≤ ·) (predicates.map (·.2.2)) is_point_query
      (index_key_column_type, value_index_list[c]) (t.getD c 0) := by
  obtain ⟨least, greatest, minValue, maxValue, aboveMin, belowMax⟩ := ranged
  constructor
  · cases first : value_index_list[c].1 with
    | none => exact ⟨least, by simp [lowKeyValue, minValue], aboveMin⟩
    | some j =>
      obtain ⟨tuple_column_id, e_type, v, entry, onColumn, lower, value⟩ :=
        picks_value (recorded.lower c j (by simp [lowerIndex, hc, first]))
      have holds := satisfied _ (List.mem_of_getElem? entry)
      dsimp only at holds
      rw [onColumn] at holds
      exact ⟨v, by simp [lowKeyValue, value], le_of_predicateHolds_of_lower lower holds⟩
  · intro _
    cases second : value_index_list[c].2 with
    | none => exact ⟨greatest, by simp [highKeyValue, maxValue], belowMax⟩
    | some j =>
      obtain ⟨tuple_column_id, e_type, v, entry, onColumn, upper, value⟩ :=
        picks_value (recorded.upper c j (by simp [upperIndex, hc, second]))
      have holds := satisfied _ (List.mem_of_getElem? entry)
      dsimp only at holds
      rw [onColumn] at holds
      exact ⟨v, by simp [highKeyValue, value], le_of_predicateHolds_of_upper upper holds⟩

theorem columnExact_of_recorded
    (recorded : Recorded index_column_count tuple_to_index (predicates.map fun p => (p.1, p.2.1))
      value_index_list)
    {c : Nat} (hc : c < value_index_list.length)
    (coincide : boundsCoincide value_index_list[c] = true) (index_key_column_type : TypeId) :
    ColumnBounded (· = ·) (· ≤ ·) (predicates.map (·.2.2)) true
      (index_key_column_type, value_index_list[c]) (t.getD c 0) := by
  obtain ⟨j, first, second⟩ : ∃ j, value_index_list[c].1 = some j ∧ value_index_list[c].2 = some j := by
    cases first : value_index_list[c].1 <;> cases second : value_index_list[c].2 <;>
      simp_all [boundsCoincide]
  obtain ⟨tuple_column_id, e_type, v, entry, onColumn, lower, value⟩ :=
    picks_value (recorded.lower c j (by simp [lowerIndex, hc, first]))
  obtain ⟨_, e_type', _, entry', _, upper, _⟩ :=
    picks_value (recorded.upper c j (by simp [upperIndex, hc, second]))
  have sameOperator : e_type' = e_type := by simp_all
  subst sameOperator
  have holds := satisfied _ (List.mem_of_getElem? entry)
  dsimp only at holds
  rw [onColumn, eq_equal_of_lower_of_upper lower upper] at holds
  have equal : t.getD c 0 = v := by simpa [predicateHolds] using holds
  exact ⟨⟨v, by simp [lowKeyValue, first, value], equal.symm⟩,
    fun point => by simp at point⟩

end Columns

theorem conjunctionScanPredicate_brackets (key_schema : List TypeId) (tuple_to_index : Nat → Nat)
    (predicates : List (Nat × ExpressionType × Int)) (t : List Int)
    (optimizable : HasNonOptimizablePredicate (predicates.map (·.2.1)) = false)
    (inIndex : ∀ p ∈ predicates, tuple_to_index p.1 < key_schema.length)
    (ranged : List.Forall₂ InMinMaxRange key_schema t)
    (satisfied : ∀ p ∈ predicates,
      predicateHolds p.2.1 (t.getD (tuple_to_index p.1) 0) p.2.2 = true) :
    ∃ scan, ConjunctionScanPredicate.new key_schema tuple_to_index (predicates.map (·.2.2))
        (predicates.map (·.1)) (predicates.map (·.2.1)) = some scan ∧
      scan.IsFullIndexScan = false ∧
      (scan.IsPointQuery = true → scan.GetPointQueryKey = some t) ∧
      (scan.IsPointQuery = false → ∃ low high, scan.GetLowKey = some low ∧
        scan.GetHighKey = some high ∧ low ≤ t ∧ t ≤ high) := by
  have zipped : (predicates.map (·.1)).zip (predicates.map (·.2.1)) =
      predicates.map fun p => (p.1, p.2.1) := List.zip_map'
  obtain ⟨recorded, point⟩ := findValueIndex_recorded key_schema.length tuple_to_index
    (predicates.map (·.1)) (predicates.map (·.2.1)) fun p mem => by
      rw [zipped, List.mem_map] at mem
      obtain ⟨q, mem, rfl⟩ := mem
      exact inIndex q mem
  rw [zipped] at recorded
  have typed : t.length = key_schema.length := ranged.length_eq.symm
  have columnRange : ∀ c (hc : c < key_schema.length),
      InMinMaxRange key_schema[c] (t.getD c 0) := fun c hc => by
    have each := (List.forall₂_iff_get.1 ranged).2 c hc (typed ▸ hc)
    simpa [List.getElem?_eq_getElem (typed ▸ hc)] using each
  unfold ConjunctionScanPredicate.new
  rw [optimizable]
  rcases found : FindValueIndex key_schema.length tuple_to_index (predicates.map (·.1))
    (predicates.map (·.2.1)) with ⟨is_point_query, value_index_list⟩
  rw [found] at recorded point
  have listed := recorded.length
  simp only [found]
  cases is_point_query with
  | true =>
    -- every column is bounded by one == predicate, so the low key is the tuple
    have columns := forall₂_zip_of_columns (R := ColumnBounded (· = ·) (· ≤ ·) _ true)
      key_schema value_index_list t listed typed fun _ _ inList =>
        columnExact_of_recorded satisfied recorded inList (point rfl _ (List.getElem_mem _)) _
    obtain ⟨lows, highs, interval, exact, -⟩ :=
      constructScanInterval_forall₂ _ _ _ _ _ _ _ columns
    rw [List.forall₂_eq_eq_eq] at exact
    refine ⟨⟨value_index_list, true, false, some lows, some highs⟩, by simp [interval], rfl,
      fun _ => by simp [ConjunctionScanPredicate.GetPointQueryKey, exact],
      fun notPoint => by simp [ConjunctionScanPredicate.IsPointQuery] at notPoint⟩
  | false =>
    have columns := forall₂_zip_of_columns (R := ColumnBounded (· ≤ ·) (· ≤ ·) _ false)
      key_schema value_index_list t listed typed fun c hc inList =>
        columnBounded_of_recorded satisfied recorded inList (columnRange c hc) false
    obtain ⟨lows, highs, interval, below, above⟩ :=
      constructScanInterval_forall₂ _ _ _ _ _ _ _ columns
    refine ⟨⟨value_index_list, false, false, some lows, some highs⟩, by simp [interval], rfl,
      fun isPoint => by simp [ConjunctionScanPredicate.IsPointQuery] at isPoint, fun _ => ?_⟩
    exact ⟨lows, highs, rfl, rfl, LexOrder.le_of_forall₂_le below,
      LexOrder.le_of_forall₂_le (above rfl)⟩

theorem conjunctionScanPredicate_brackets_of_no_timestamp (key_schema : List TypeId)
    (tuple_to_index : Nat → Nat) (predicates : List (Nat × ExpressionType × Int)) (t : List Int)
    (optimizable : HasNonOptimizablePredicate (predicates.map (·.2.1)) = false)
    (inIndex : ∀ p ∈ predicates, tuple_to_index p.1 < key_schema.length)
    (values : List.Forall₂ (fun index_key_column_type x =>
      index_key_column_type ≠ .TIMESTAMP ∧ isValueOf index_key_column_type x = true) key_schema t)
    (satisfied : ∀ p ∈ predicates,
      predicateHolds p.2.1 (t.getD (tuple_to_index p.1) 0) p.2.2 = true) :
    ∃ scan, ConjunctionScanPredicate.new key_schema tuple_to_index (predicates.map (·.2.2))
        (predicates.map (·.1)) (predicates.map (·.2.1)) = some scan ∧
      scan.IsFullIndexScan = false ∧
      (scan.IsPointQuery = true → scan.GetPointQueryKey = some t) ∧
      (scan.IsPointQuery = false → ∃ low high, scan.GetLowKey = some low ∧
        scan.GetHighKey = some high ∧ low ≤ t ∧ t ≤ high) :=
  conjunctionScanPredicate_brackets key_schema tuple_to_index predicates t optimizable inIndex
    (values.imp fun _ _ column => inMinMaxRange_of_isValueOf column.1 column.2)
    satisfied

/-- A TIMESTAMP key column bounded only from below, by >= 0: the high key takes
PELOTON_TIMESTAMP_MAX, which is below the largest non-NULL timestamps, so a key tuple that
satisfies the predicate lies above the high key. CastAsTimestamp makes such a timestamp from
'2000-12-31 00:00:00+15': it checks the zone before it adds 12, and the zone 27 carries into the
day and month digits. -/
theorem scanPredicate_timestamp_above_high_key :
    isValueOf .TIMESTAMP 11231999986400000000 = true ∧
      predicateHolds .COMPARE_GREATERTHANOREQUALTO 11231999986400000000 0 = true ∧
      ConjunctionScanPredicate.new [.TIMESTAMP] id [0] [0] [.COMPARE_GREATERTHANOREQUALTO] =
        some ⟨[(some 0, none)], false, false, some [0], some [PELOTON_TIMESTAMP_MAX]⟩ ∧
      ¬ [11231999986400000000] ≤ [PELOTON_TIMESTAMP_MAX] ∧
      ValueFactory.CastAsTimestamp ⟨some "2000-12-31 00:00:00+15"⟩ = .ok ⟨11232200000000000000⟩ ∧
      isValueOf .TIMESTAMP 11232200000000000000 = true ∧
      predicateHolds .COMPARE_GREATERTHANOREQUALTO 11232200000000000000 0 = true ∧
      ¬ [11232200000000000000] ≤ [PELOTON_TIMESTAMP_MAX] :=
  ⟨by decide, by decide, by decide, by decide, by decide, by decide, by decide, by decide⟩

end Peloton.Index
