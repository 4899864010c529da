import Mathlib.Data.List.Basic

set_option autoImplicit false

namespace Peloton.Type

-- The three-valued result of a comparison of two values.
inductive CmpBool where
  | CmpFalse
  | CmpTrue
  | NULL_
  deriving DecidableEq, Repr

def GetCmpBool (b : Bool) : CmpBool := if b then .CmpTrue else .CmpFalse

@[simp] theorem getCmpBool_eq_cmpTrue (b : Bool) : GetCmpBool b = .CmpTrue ↔ b = true := by
  cases b <;> simp [GetCmpBool]

@[simp] theorem getCmpBool_ne_null (b : Bool) : GetCmpBool b ≠ .NULL_ := by
  cases b <;> simp [GetCmpBool]

-- What HashCombine hands to std::hash: the int32 of an INTEGER, the ToString of a VARLEN.
inductive HashInput where
  | int32 (v : Int)
  | string (s : String)
  deriving DecidableEq, Repr

-- The operations of type::Type that tuples, executors and indexes call on one column type.
class SqlType (V : Type) where
  IsNull : V → Bool
  eq : V → V → Bool
  lt : V → V → Bool
  hashInput : V → HashInput

namespace Value

variable {V : Type} [SqlType V]

open SqlType

def compareWith (op : V → V → Bool) (left right : V) : CmpBool :=
  if IsNull left || IsNull right then .NULL_ else GetCmpBool (op left right)

def CompareEquals (left right : V) : CmpBool := compareWith eq left right

def CompareNotEquals (left right : V) : CmpBool := compareWith (fun l r => !eq l r) left right

def CompareLessThan (left right : V) : CmpBool := compareWith lt left right

def CompareLessThanEquals (left right : V) : CmpBool := compareWith (fun l r => !lt r l) left right

def CompareGreaterThan (left right : V) : CmpBool := compareWith (fun l r => lt r l) left right

def CompareGreaterThanEquals (left right : V) : CmpBool :=
  compareWith (fun l r => !lt l r) left right

-- Value::hash_combine: seed ^= std::hash(v) + 0x9e3779b9 + (seed << 6) + (seed >> 2).
def HashCombine (stdHash : HashInput → UInt64) (seed : UInt64) (v : V) : UInt64 :=
  seed ^^^ (stdHash (hashInput v) + (0x9e3779b9 : UInt64) + (seed <<< (6 : UInt64)) +
    (seed >>> (2 : UInt64)))

theorem compareWith_eq_cmpTrue (op : V → V → Bool) (left right : V) :
    compareWith op left right = .CmpTrue ↔
      IsNull left = false ∧ IsNull right = false ∧ op left right = true := by
  unfold compareWith
  cases IsNull left <;> cases IsNull right <;> simp

theorem compareWith_of_null_left (op : V → V → Bool) {left : V} (right : V)
    (null : IsNull left = true) : compareWith op left right = .NULL_ := by
  simp [compareWith, null]

theorem compareWith_of_null_right (op : V → V → Bool) (left : V) {right : V}
    (null : IsNull right = true) : compareWith op left right = .NULL_ := by
  simp [compareWith, null]

theorem compareWith_ne_cmpTrue_of_null (op : V → V → Bool) (left right : V)
    (null : IsNull left = true ∨ IsNull right = true) : compareWith op left right ≠ .CmpTrue := by
  rcases null with null | null
  · rw [compareWith_of_null_left op right null]; simp
  · rw [compareWith_of_null_right op left null]; simp

end Value

-- INTEGER: value_.integer, an int32 kept as an Int; a NULL is stored as PELOTON_INT32_NULL
-- (INT_MIN) and Value::IsNull tests for it.
structure IntegerValue where
  integer : Int
  deriving DecidableEq, Repr

def PELOTON_INT32_NULL : Int := -2147483648

instance : SqlType IntegerValue where
  IsNull v := v.integer == PELOTON_INT32_NULL
  eq l r := l.integer == r.integer
  lt l r := decide (l.integer < r.integer)
  hashInput v := .int32 v.integer

def IntegerValue.null : IntegerValue := ⟨PELOTON_INT32_NULL⟩

-- VARCHAR: a NULL has no data; VarlenType::ToString renders it as "varlen_null" and
-- VarlenType::HashCombine hashes that string.
structure VarlenValue where
  data : Option String
  deriving DecidableEq, Repr

def VarlenValue.ToString (v : VarlenValue) : String := v.data.getD "varlen_null"

instance : SqlType VarlenValue where
  IsNull v := v.data.isNone
  eq l r := l.ToString == r.ToString
  lt l r := decide (l.ToString < r.ToString)
  hashInput v := .string v.ToString

def VarlenValue.null : VarlenValue := ⟨none⟩

end Peloton.Type
