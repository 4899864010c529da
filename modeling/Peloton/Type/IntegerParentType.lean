import Mathlib

set_option autoImplicit false

namespace Peloton.Type

inductive IntegerTypeId where
  | TINYINT
  | SMALLINT
  | INTEGER
  | BIGINT
  deriving DecidableEq, Repr

-- common/exception.h
inductive ExceptionType where
  | INVALID | OUT_OF_RANGE | CONVERSION | UNKNOWN_TYPE | DECIMAL | MISMATCH_TYPE | DIVIDE_BY_ZERO
  | OBJECT_SIZE | INCOMPATIBLE_TYPE | SERIALIZATION | TRANSACTION | NOT_IMPLEMENTED | EXPRESSION
  | CATALOG | PARSER | PLANNER | SCHEDULER | EXECUTOR | CONSTRAINT | INDEX | STAT | CONNECTION
  | SYNTAX | SETTINGS | BINDER | NETWORK | OPTIMIZER
  deriving DecidableEq, Repr

namespace IntegerTypeId

def width : IntegerTypeId → Nat
  | TINYINT => 8
  | SMALLINT => 16
  | INTEGER => 32
  | BIGINT => 64

def PELOTON_NULL (t : IntegerTypeId) : Int := -2 ^ (t.width - 1)

def PELOTON_MIN (t : IntegerTypeId) : Int := -2 ^ (t.width - 1) + 1

def PELOTON_MAX (t : IntegerTypeId) : Int := 2 ^ (t.width - 1) - 1

end IntegerTypeId

def wrapTo (w : Nat) (x : Int) : Int := x.bmod (2 ^ w)

-- A non-DECIMAL integer Value: its type and the integer stored in value_.
structure IntValue where
  typeId : IntegerTypeId
  integer : Int
  deriving DecidableEq, Repr

def IntValue.IsNull (v : IntValue) : Bool := v.integer == v.typeId.PELOTON_NULL

namespace IntegerParentType

def promotedWidth (t1 t2 : IntegerTypeId) : Nat := max 32 (max t1.width t2.width)

def ModifyValue (op : Int → Int → Int) (overflows : Nat → Int → Int → Int → Bool)
    (left right : IntValue) : Except ExceptionType IntValue :=
  let x := left.integer
  let y := right.integer
  let promoted := promotedWidth left.typeId right.typeId
  let result := wrapTo promoted (op x y)
  let result1 := wrapTo left.typeId.width result
  let result2 := wrapTo right.typeId.width result
  if result ≠ result1 ∧ result ≠ result2 then .error .OUT_OF_RANGE
  else if right.typeId.width ≤ left.typeId.width then
    if overflows promoted x y result1 then .error .OUT_OF_RANGE
    else .ok ⟨left.typeId, result1⟩
  else if overflows promoted x y result2 then .error .OUT_OF_RANGE
  else .ok ⟨right.typeId, result2⟩

def AddValue (left right : IntValue) : Except ExceptionType IntValue :=
  ModifyValue (· + ·)
    (fun _ x y sum => (0 < x ∧ 0 < y ∧ sum < 0) ∨ (x < 0 ∧ y < 0 ∧ 0 < sum)) left right

def SubtractValue (left right : IntValue) : Except ExceptionType IntValue :=
  ModifyValue (· - ·)
    (fun _ x y diff => (0 < x ∧ y < 0 ∧ diff < 0) ∨ (x < 0 ∧ 0 < y ∧ 0 < diff)) left right

def MultiplyValue (left right : IntValue) : Except ExceptionType IntValue :=
  ModifyValue (· * ·)
    (fun promoted x y prod => y ≠ 0 ∧ wrapTo promoted (prod.tdiv y) ≠ x) left right

def QuotientValue (op : Int → Int → Int) (left right : IntValue) : Except ExceptionType IntValue :=
  let x := left.integer
  let y := right.integer
  if y = 0 then .error .DIVIDE_BY_ZERO
  else
    let result := wrapTo (promotedWidth left.typeId right.typeId) (op x y)
    if right.typeId.width ≤ left.typeId.width then .ok ⟨left.typeId, wrapTo left.typeId.width result⟩
    else .ok ⟨right.typeId, wrapTo right.typeId.width result⟩

def DivideValue (left right : IntValue) : Except ExceptionType IntValue :=
  QuotientValue Int.tdiv left right

def ModuloValue (left right : IntValue) : Except ExceptionType IntValue :=
  QuotientValue Int.tmod left right

end IntegerParentType

section Wrap

variable {w : Nat}

theorem two_pow_eq (positive : 0 < w) : (2 : Int) ^ w = 2 * 2 ^ (w - 1) := by
  obtain ⟨k, rfl⟩ : ∃ k, w = k + 1 := ⟨w - 1, by omega⟩
  rw [Int.pow_succ, Nat.add_sub_cancel, Int.mul_comm]

theorem wrapTo_bounds (positive : 0 < w) (x : Int) :
    -2 ^ (w - 1) ≤ wrapTo w x ∧ wrapTo w x < 2 ^ (w - 1) := by
  have half := two_pow_eq positive
  have lo := Int.le_bmod (x := x) (Nat.two_pow_pos w)
  have hi := Int.bmod_lt (x := x) (Nat.two_pow_pos w)
  push_cast at lo hi
  unfold wrapTo
  omega

theorem wrapTo_eq_self (positive : 0 < w) {x : Int} (lo : -2 ^ (w - 1) ≤ x)
    (hi : x < 2 ^ (w - 1)) : wrapTo w x = x := by
  have half := two_pow_eq positive
  apply Int.bmod_eq_of_le <;> push_cast <;> omega

theorem wrapTo_wrapTo (x : Int) : wrapTo w (wrapTo w x) = wrapTo w x :=
  Int.bmod_bmod

theorem wrapTo_of_above (positive : 0 < w) {x : Int} (lo : 2 ^ (w - 1) ≤ x)
    (hi : x < 2 ^ w + 2 ^ (w - 1)) : wrapTo w x = x - 2 ^ w := by
  have half := two_pow_eq positive
  have shifted : wrapTo w (x - 2 ^ w) = x - 2 ^ w := wrapTo_eq_self positive (by omega) (by omega)
  rw [← shifted, wrapTo, wrapTo, ← Int.sub_bmod_right x (2 ^ w)]
  push_cast
  rfl

theorem wrapTo_of_below (positive : 0 < w) {x : Int} (lo : -2 ^ w - 2 ^ (w - 1) ≤ x)
    (hi : x < -2 ^ (w - 1)) : wrapTo w x = x + 2 ^ w := by
  have half := two_pow_eq positive
  have shifted : wrapTo w (x + 2 ^ w) = x + 2 ^ w := wrapTo_eq_self positive (by omega) (by omega)
  rw [← shifted, wrapTo, wrapTo, ← Int.add_bmod_right x (2 ^ w)]
  push_cast
  rfl

end Wrap

namespace IntegerTypeId

theorem width_pos (t : IntegerTypeId) : 0 < t.width := by
  cases t <;> decide

theorem null_lt_min (t : IntegerTypeId) : t.PELOTON_NULL < t.PELOTON_MIN := by
  unfold PELOTON_NULL PELOTON_MIN
  omega

theorem min_le_max (t : IntegerTypeId) : t.PELOTON_MIN ≤ t.PELOTON_MAX := by
  have positive : 0 < (2 : Int) ^ (t.width - 1) := Int.pow_pos (by decide)
  unfold PELOTON_MIN PELOTON_MAX
  omega

end IntegerTypeId

namespace IntegerParentType

theorem promotedWidth_same (t : IntegerTypeId) :
    (promotedWidth t t = 32 ∧ (2 : Int) ^ (t.width - 1) ≤ 32768) ∨
      promotedWidth t t = t.width := by
  cases t <;> decide

theorem addValue_same_type (t : IntegerTypeId) (x y : Int)
    (xValid : t.PELOTON_MIN ≤ x ∧ x ≤ t.PELOTON_MAX) (yValid : t.PELOTON_MIN ≤ y ∧ y ≤ t.PELOTON_MAX) :
    AddValue ⟨t, x⟩ ⟨t, y⟩ =
      if t.PELOTON_NULL ≤ x + y ∧ x + y ≤ t.PELOTON_MAX then .ok ⟨t, x + y⟩
      else .error .OUT_OF_RANGE := by
  have positive := t.width_pos
  have half := two_pow_eq positive
  unfold IntegerTypeId.PELOTON_MIN IntegerTypeId.PELOTON_MAX at xValid yValid
  unfold IntegerTypeId.PELOTON_NULL IntegerTypeId.PELOTON_MAX
  simp only [AddValue, ModifyValue, Nat.le_refl, if_true, and_self]
  obtain ⟨narrow, small⟩ | wide := promotedWidth_same t
  · -- int arithmetic holds the exact sum; only the cast back to the type can lose it
    have exact : wrapTo 32 (x + y) = x + y := by
      have bound : (2 : Int) ^ (32 - 1) = 2147483648 := by decide
      exact wrapTo_eq_self (by decide) (by rw [bound]; omega) (by rw [bound]; omega)
    rw [narrow, exact]
    by_cases fits : -2 ^ (t.width - 1) ≤ x + y ∧ x + y ≤ 2 ^ (t.width - 1) - 1
    · have kept : wrapTo t.width (x + y) = x + y := wrapTo_eq_self positive fits.1 (by omega)
      simp only [kept, fits, ne_eq, not_true_eq_false, if_false, and_self, if_true]
      have noOverflow : ¬((0 < x ∧ 0 < y ∧ x + y < 0) ∨ (x < 0 ∧ y < 0 ∧ 0 < x + y)) := by omega
      simp [noOverflow]
    · have lost : x + y ≠ wrapTo t.width (x + y) := by
        have inside := wrapTo_bounds positive (x + y)
        omega
      simp [lost]
      omega
  · -- int and int64_t: the sum wraps and the sign test must catch it
    rw [wide, wrapTo_wrapTo]
    simp only [ne_eq, not_true_eq_false]
    by_cases fits : -2 ^ (t.width - 1) ≤ x + y ∧ x + y ≤ 2 ^ (t.width - 1) - 1
    · have kept : wrapTo t.width (x + y) = x + y := wrapTo_eq_self positive fits.1 (by omega)
      have noOverflow : ¬((0 < x ∧ 0 < y ∧ x + y < 0) ∨ (x < 0 ∧ y < 0 ∧ 0 < x + y)) := by omega
      simp [kept, fits, noOverflow]
    · have overflow : (0 < x ∧ 0 < y ∧ wrapTo t.width (x + y) < 0) ∨
          (x < 0 ∧ y < 0 ∧ 0 < wrapTo t.width (x + y)) := by
        by_cases above : 2 ^ (t.width - 1) ≤ x + y
        · rw [wrapTo_of_above positive above (by omega)]
          omega
        · rw [wrapTo_of_below positive (by omega) (by omega)]
          omega
      simp [overflow]
      omega

end IntegerParentType

-- PELOTON_INTn_MIN + -1 passes every test of AddValue, and the Value it returns holds
-- PELOTON_INTn_NULL, so it reads as NULL.
theorem addValue_min_plus_minus_one_is_null (t : IntegerTypeId) :
    IntegerParentType.AddValue ⟨t, t.PELOTON_MIN⟩ ⟨t, -1⟩ = .ok ⟨t, t.PELOTON_NULL⟩ ∧
      IntValue.IsNull ⟨t, t.PELOTON_NULL⟩ = true := by
  have minValid : t.PELOTON_MIN ≤ t.PELOTON_MIN ∧ t.PELOTON_MIN ≤ t.PELOTON_MAX :=
    ⟨Int.le_refl _, t.min_le_max⟩
  have minusOneValid : t.PELOTON_MIN ≤ -1 ∧ -1 ≤ t.PELOTON_MAX := by
    cases t <;> decide
  have sumIsNull : t.PELOTON_MIN + -1 = t.PELOTON_NULL := by
    unfold IntegerTypeId.PELOTON_MIN IntegerTypeId.PELOTON_NULL
    omega
  refine ⟨?_, by simp [IntValue.IsNull]⟩
  rw [IntegerParentType.addValue_same_type t _ _ minValid minusOneValid, sumIsNull]
  have inRange : t.PELOTON_NULL ≤ t.PELOTON_NULL ∧ t.PELOTON_NULL ≤ t.PELOTON_MAX :=
    ⟨Int.le_refl _, Int.le_of_lt (Int.lt_of_lt_of_le t.null_lt_min t.min_le_max)⟩
  simp [inRange]

end Peloton.Type
