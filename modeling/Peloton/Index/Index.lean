import Peloton.Common.InternalTypes

set_option autoImplicit false

namespace Peloton

abbrev Value := Int

inductive IndexConstraintType where
  | default | primaryKey | unique
  deriving DecidableEq, Repr

-- A table's index: its constraint, the columns of its key schema, and its entries, each a key with
-- the indirection cell (ItemPointer *) it leads to.
structure Index where
  constraintType : IndexConstraintType
  indexedColumns : List Nat
  entries : List (List Value × Nat)
  deriving DecidableEq, Repr

namespace Index

-- Insert(): false when the pair is already there.
def insertEntry (index : Index) (key : List Value) (value : Nat) : Index × Bool :=
  if (key, value) ∈ index.entries then (index, false)
  else ({ index with entries := index.entries ++ [(key, value)] }, true)

-- ConditionalInsert(): false when a value under the key satisfies the predicate, or when the pair
-- is already there; otherwise the pair is added.
def condInsertEntry (index : Index) (key : List Value) (value : Nat) (predicate : Nat → Bool) :
    Index × Bool :=
  if index.entries.any (fun e => e.1 == key && predicate e.2) then (index, false)
  else index.insertEntry key value

-- ScanKey(): the values under one key, in the order they were inserted.
def scanKey (index : Index) (key : List Value) : List Nat :=
  (index.entries.filter (fun e => e.1 == key)).map Prod.snd

theorem condInsertEntry_false_iff (index : Index) (key : List Value) (value : Nat)
    (predicate : Nat → Bool) :
    (index.condInsertEntry key value predicate).2 = false ↔
      (∃ e ∈ index.entries, e.1 = key ∧ predicate e.2 = true) ∨ (key, value) ∈ index.entries := by
  unfold condInsertEntry insertEntry
  by_cases conflict : index.entries.any (fun e => e.1 == key && predicate e.2) = true
  · have : ∃ e ∈ index.entries, e.1 = key ∧ predicate e.2 = true := by simpa using conflict
    simp [conflict, this]
  · have : ¬∃ e ∈ index.entries, e.1 = key ∧ predicate e.2 = true := by simpa using conflict
    by_cases present : (key, value) ∈ index.entries <;> simp [conflict, this, present]

end Index

end Peloton
