import Peloton.Index.Index
import Peloton.Concurrency.TransactionManager

set_option autoImplicit false

namespace Peloton.Storage

open Concurrency

def keyFromTuple (tuple : List Value) (indexedColumns : List Nat) : List Value :=
  indexedColumns.map (fun column => tuple.getD column 0)

def occupied (s : Store) (txn : TransactionContext) (cell : Nat) : Bool :=
  isOccupied s txn (s.indirections cell)

-- InsertInIndexes, for the indexes from the last to the first: a refused primary-key or unique
-- insert ends the loop with false, and the indexes already written keep their entries.
def insertInIndexes (s : Store) (txn : TransactionContext) (indexes : List Index)
    (tuple : List Value) (cell : Nat) : List Index × Bool :=
  indexes.foldr (fun index acc =>
    if !acc.2 then (index :: acc.1, false)
    else
      let key := keyFromTuple tuple index.indexedColumns
      match index.constraintType with
      | .primaryKey | .unique =>
        let r := index.condInsertEntry key cell (occupied s txn)
        (r.1 :: acc.1, r.2)
      | .default => ((index.insertEntry key cell).1 :: acc.1, true))
    ([], true)

-- InsertInSecondaryIndexes: the primary key index and the indexes whose columns the target list
-- does not touch are skipped; res takes the answer of each unique index in turn and the loop
-- never stops early.
def insertInSecondaryIndexes (s : Store) (txn : TransactionContext) (indexes : List Index)
    (tuple : List Value) (targets : List Nat) (cell : Nat) : List Index × Bool :=
  indexes.foldr (fun index acc =>
    if index.constraintType = .primaryKey then (index :: acc.1, acc.2)
    else if !index.indexedColumns.any (fun column => column ∈ targets) then (index :: acc.1, acc.2)
    else
      let key := keyFromTuple tuple index.indexedColumns
      match index.constraintType with
      | .primaryKey | .unique =>
        let r := index.condInsertEntry key cell (occupied s txn)
        (r.1 :: acc.1, r.2)
      | .default => ((index.insertEntry key cell).1 :: acc.1, acc.2))
    ([], true)

-- InstallVersion, with CheckConstraints taken to pass.
def installVersion (s : Store) (txn : TransactionContext) (indexes : List Index)
    (tuple : List Value) (targets : List Nat) (cell : Nat) : List Index × Bool :=
  insertInSecondaryIndexes s txn indexes tuple targets cell

def twoRows : Store :=
  let committed (s : Store) (location : ItemPointer) (cell : Nat) : Store :=
    (((s.setTransactionId location INITIAL_TXN_ID).setBeginCommitId location 1).setIndirection
      location (some cell)).atomicUpdateItemPointer cell location
  committed (committed Store.initial ⟨0, 0⟩ 0) ⟨0, 1⟩ 1

def twoUniqueIndexes : List Index :=
  [⟨.unique, [0], [([1], 0), ([3], 1)]⟩, ⟨.unique, [1], [([2], 0), ([4], 1)]⟩]

def updatingTxn : TransactionContext := TransactionContext.init 0 .serializable 10 10

theorem installVersion_ignores_refused_unique_key :
    (installVersion twoRows updatingTxn twoUniqueIndexes [5, 2] [0, 1] 1).2 = true ∧
      ([2], 0) ∈ (twoUniqueIndexes.getD 1 ⟨.unique, [], []⟩).entries ∧
      keyFromTuple [5, 2] [1] = [2] ∧ occupied twoRows updatingTxn 0 = true := by
  decide

end Peloton.Storage
