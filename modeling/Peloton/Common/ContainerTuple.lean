import Peloton.Type.Value
import Peloton.Lib.HashTable
import Mathlib.Data.List.Forall2

set_option autoImplicit false

namespace Peloton

open Peloton.Type

variable {V : Type} [SqlType V]

-- A ContainerTuple reads its columns from the container it wraps; with column ids it stands for
-- the projected values, listed here in column-id order.
namespace ContainerTuple

-- HashCode(seed = 0): HashCombine over every column in order.
def HashCode (stdHash : HashInput → UInt64) (values : List V) : UInt64 :=
  values.foldl (Value.HashCombine stdHash) 0

-- EqualsNoSchemaCheck: false on a size mismatch of the column ids, else false only when some
-- column's CompareNotEquals is CmpTrue.
def EqualsNoSchemaCheck : List V → List V → Bool
  | [], [] => true
  | lhs :: lhsRest, rhs :: rhsRest =>
    Value.CompareNotEquals lhs rhs != .CmpTrue && EqualsNoSchemaCheck lhsRest rhsRest
  | _, _ => false

def find? {β : Type} (stdHash : HashInput → UInt64) (table : List (List V × β)) (probe : List V) :
    Option (List V × β) :=
  HashTable.find? (HashCode stdHash) EqualsNoSchemaCheck table probe

theorem equalsNoSchemaCheck_iff (lhs rhs : List V) :
    EqualsNoSchemaCheck lhs rhs = true ↔
      List.Forall₂ (fun l r => Value.CompareNotEquals l r ≠ .CmpTrue) lhs rhs := by
  induction lhs generalizing rhs with
  | nil => cases rhs <;> simp [EqualsNoSchemaCheck, List.forall₂_nil_left_iff]
  | cons l lhsRest ih =>
    cases rhs with
    | nil => simp [EqualsNoSchemaCheck, List.forall₂_nil_right_iff]
    | cons r rhsRest => simp [EqualsNoSchemaCheck, ih]

theorem equalsNoSchemaCheck_of_null (lhs rhs : List V)
    (nulls : List.Forall₂ (fun l r => SqlType.IsNull l = true ∨ SqlType.IsNull r = true) lhs rhs) :
    EqualsNoSchemaCheck lhs rhs = true := by
  rw [equalsNoSchemaCheck_iff]
  exact nulls.imp fun l r null => Value.compareWith_ne_cmpTrue_of_null _ l r null

theorem equalsNoSchemaCheck_iff_of_not_null (lhs rhs : List V)
    (notNull : List.Forall₂ (fun l r => SqlType.IsNull l = false ∧ SqlType.IsNull r = false)
      lhs rhs) :
    EqualsNoSchemaCheck lhs rhs = true ↔ List.Forall₂ (fun l r => SqlType.eq l r = true) lhs rhs := by
  rw [equalsNoSchemaCheck_iff]
  induction notNull with
  | nil => simp
  | @cons l r _ _ both _ ih =>
    have pointwise : Value.CompareNotEquals l r ≠ .CmpTrue ↔ SqlType.eq l r = true := by
      simp [Value.CompareNotEquals, Value.compareWith_eq_cmpTrue, both.1, both.2]
    rw [List.forall₂_cons, List.forall₂_cons, ih, pointwise]

theorem find?_self {β : Type} (stdHash : HashInput → UInt64) (key : List V) (b : β)
    (reflexive : EqualsNoSchemaCheck key key = true) :
    find? stdHash [(key, b)] key = some (key, b) := by
  simp [find?, HashTable.find?_cons, HashTable.matches_self b reflexive]

end ContainerTuple

end Peloton
