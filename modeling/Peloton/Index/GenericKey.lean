import Peloton.Common.ContainerTuple
import Peloton.Lib.LexOrder

set_option autoImplicit false

namespace Peloton.Index

open Peloton.Type

-- A GenericKey<N> over a key schema of INTEGER columns, as the values SetFromKey copied into
-- data: one stored int32 per column, a NULL being PELOTON_INT32_NULL.

def CompareLessThanRaw (left right : IntegerValue) : CmpBool :=
  GetCmpBool (decide (left.integer < right.integer))

def CompareGreaterThanRaw (left right : IntegerValue) : CmpBool :=
  GetCmpBool (decide (left.integer > right.integer))

-- GenericComparator: the same column loop over the deserialized Values.
def GenericComparator {V : Type} [SqlType V] (lhs rhs : List V) : Bool :=
  LexOrder.lexLess (fun l r => Value.CompareLessThan l r = .CmpTrue)
    (fun l r => Value.CompareGreaterThan l r = .CmpTrue) lhs rhs

def FastGenericComparator (lhs rhs : List IntegerValue) : Bool :=
  LexOrder.lexLess (fun l r => CompareLessThanRaw l r = .CmpTrue)
    (fun l r => CompareGreaterThanRaw l r = .CmpTrue) lhs rhs

-- MoveToTuple then Tuple::EqualsNoSchemaCheck, the column loop of CompareNotEquals that
-- ContainerTuple repeats; both keys have the key schema's columns.
def GenericEqualityChecker {V : Type} [SqlType V] (lhs rhs : List V) : Bool :=
  ContainerTuple.EqualsNoSchemaCheck lhs rhs

-- MoveToTuple then Tuple::HashCode: HashCombine over every column from seed 0.
def GenericHasher {V : Type} [SqlType V] (stdHash : HashInput → UInt64) (p : List V) : UInt64 :=
  ContainerTuple.HashCode stdHash p

def NoNull (key : List IntegerValue) : Prop := ∀ v ∈ key, SqlType.IsNull v = false

theorem noNull_forall₂ {lhs rhs : List IntegerValue} (sameLength : lhs.length = rhs.length)
    (lhsNoNull : NoNull lhs) (rhsNoNull : NoNull rhs) :
    List.Forall₂ (fun l r => SqlType.IsNull l = false ∧ SqlType.IsNull r = false) lhs rhs := by
  rw [List.forall₂_iff_zip]
  exact ⟨sameLength, fun mem =>
    ⟨lhsNoNull _ (List.of_mem_zip mem).1, rhsNoNull _ (List.of_mem_zip mem).2⟩⟩

theorem fastGenericComparator_eq_genericComparator (lhs rhs : List IntegerValue)
    (lhsNoNull : NoNull lhs) (rhsNoNull : NoNull rhs) :
    FastGenericComparator lhs rhs = GenericComparator lhs rhs := by
  refine LexOrder.lexLess_congr (fun v => SqlType.IsNull v = false) ?_ lhs rhs lhsNoNull rhsNoNull
  intro l r lNotNull rNotNull
  simp [CompareLessThanRaw, CompareGreaterThanRaw, Value.CompareLessThan,
    Value.CompareGreaterThan, Value.compareWith_eq_cmpTrue, lNotNull, rNotNull, SqlType.lt]

theorem genericEqualityChecker_iff_incomparable (lhs rhs : List IntegerValue)
    (sameLength : lhs.length = rhs.length) (lhsNoNull : NoNull lhs) (rhsNoNull : NoNull rhs) :
    GenericEqualityChecker lhs rhs = true ↔
      FastGenericComparator lhs rhs = false ∧ FastGenericComparator rhs lhs = false := by
  have column : ∀ l r : IntegerValue, SqlType.eq l r = true ↔
      decide (CompareLessThanRaw l r = .CmpTrue) = false ∧
        decide (CompareLessThanRaw r l = .CmpTrue) = false := by
    intro l r
    simp only [SqlType.eq, CompareLessThanRaw, beq_iff_eq, decide_eq_false_iff_not,
      getCmpBool_eq_cmpTrue, decide_eq_true_eq, Int.not_lt]
    omega
  rw [GenericEqualityChecker, ContainerTuple.equalsNoSchemaCheck_iff_of_not_null _ _
      (noNull_forall₂ sameLength lhsNoNull rhsNoNull),
    FastGenericComparator, FastGenericComparator,
    LexOrder.lexLess_incomparable_iff (fun l r => by simp [CompareLessThanRaw,
      CompareGreaterThanRaw]) _ _ sameLength]
  exact ⟨fun equal => equal.imp fun l r => (column l r).1,
    fun incomparable => incomparable.imp fun l r => (column l r).2⟩

theorem genericHasher_eq_of_equal (stdHash : HashInput → UInt64) (lhs rhs : List IntegerValue)
    (sameLength : lhs.length = rhs.length) (lhsNoNull : NoNull lhs) (rhsNoNull : NoNull rhs)
    (equal : GenericEqualityChecker lhs rhs = true) :
    GenericHasher stdHash lhs = GenericHasher stdHash rhs := by
  rw [GenericEqualityChecker, ContainerTuple.equalsNoSchemaCheck_iff_of_not_null _ _
    (noNull_forall₂ sameLength lhsNoNull rhsNoNull)] at equal
  have same : lhs = rhs := by
    rw [← List.forall₂_eq_eq_eq]
    exact equal.imp fun l r columnEqual => by
      cases l; cases r; simpa [SqlType.eq] using columnEqual
  rw [same]

-- A NULL INTEGER key column is stored as INT_MIN: the raw comparator puts it below 5 while the
-- equality checker, reading CompareNotEquals as NULL_, calls the two keys equal.
theorem genericKey_null_equal_but_below :
    GenericEqualityChecker [IntegerValue.null] [⟨5⟩] = true ∧
      FastGenericComparator [IntegerValue.null] [⟨5⟩] = true ∧
      GenericComparator [IntegerValue.null] [⟨5⟩] = false := by
  decide

end Peloton.Index
