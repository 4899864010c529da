import Peloton.Concurrency.TransactionManager

set_option autoImplicit false

namespace Peloton.Executor

open Storage Concurrency

-- One row of InsertExecutor, UpdateExecutor or DeleteExecutor, seen from the version headers: the
-- store and the transaction after the row, whether the executor goes on (false: it set the
-- transaction's result to FAILURE and returned false), and what the row added to
-- executor_context_->num_processed.
structure RowResult where
  store : Store
  txn : TransactionContext
  ok : Bool
  processed : Nat

def RowResult.failed (s : Store) (txn : TransactionContext) : RowResult :=
  ⟨s, txn.setResult .failure, false, 0⟩

-- DataTable::InsertTuple: the slot GetEmptyTupleSlot gave, the indirection cell InsertInIndexes
-- allocated (none for a table without indexes, or when no slot was found), and whether the
-- constraints and the unique indexes accepted the tuple.
structure InsertTupleResult where
  slot : ItemPointer
  cell : Option Nat
  accepted : Bool

-- InsertInIndexes points the new cell at the slot before it checks any index.
def insertTuple (s : Store) (r : InsertTupleResult) : Store × ItemPointer × Option Nat :=
  let s' := match r.cell with
    | none => s
    | some cell => s.atomicUpdateItemPointer cell r.slot
  if r.accepted then (s', r.slot, r.cell) else (s', INVALID_ITEMPOINTER, none)

def insertRow (s : Store) (txn : TransactionContext) (r : InsertTupleResult) : RowResult :=
  let (s1, location, indexEntryPtr) := insertTuple s r
  if location.block = INVALID_OID then RowResult.failed s1 txn
  else
    let (s2, txn2) := performInsert s1 txn location indexEntryPtr
    ⟨s2, txn2, true, 1⟩

-- UpdateExecutor::PerformUpdatePrimaryKey: delete the old version through an empty version, then
-- insert the new tuple as a new chain.
def performUpdatePrimaryKey (isOwner : Bool) (s : Store) (txn : TransactionContext)
    (oldLocation emptyVersion : ItemPointer) (inserted : InsertTupleResult) : RowResult :=
  if emptyVersion.isNull then
    RowResult.failed (if isOwner then s else yieldOwnership s oldLocation) txn
  else
    let (s1, txn1) := performDelete s txn oldLocation emptyVersion
    let (s2, location, indexEntryPtr) := insertTuple s1 inserted
    if location.block = INVALID_OID then RowResult.failed s2 txn1
    else
      let (s3, txn3) := performInsert s2 txn1 location indexEntryPtr
      ⟨s3, txn3, true, 0⟩

-- One row of UpdateExecutor::DExecute on the version at location.
def updateRow (s : Store) (txn : TransactionContext) (location : ItemPointer)
    (updatePrimaryKey : Bool) (newVersion : ItemPointer) (installed : Bool)
    (emptyVersion : ItemPointer) (inserted : InsertTupleResult) : RowResult :=
  let owner := isOwner s txn location
  let withCount := fun (r : RowResult) => if r.ok then { r with processed := r.processed + 1 } else r
  -- the transaction created this version: it has already updated the tuple
  if owner && isWritten s location then
    if updatePrimaryKey then
      withCount (performUpdatePrimaryKey owner s txn location emptyVersion inserted)
    else
      let (s1, txn1) := performUpdateInPlace s txn location
      ⟨s1, txn1, true, 0⟩
  else if owner || isOwnable s location then
    let acquired := if owner then (s, true) else acquireOwnership s txn location
    if !acquired.2 then RowResult.failed acquired.1 txn
    else if updatePrimaryKey then
      withCount (performUpdatePrimaryKey owner acquired.1 txn location emptyVersion inserted)
    else if !installed then
      RowResult.failed (if owner then acquired.1 else yieldOwnership acquired.1 location) txn
    else
      let (s1, txn1) := performUpdate acquired.1 txn location newVersion
      ⟨s1, txn1, true, 1⟩
  else RowResult.failed s txn

def rollbackTxn : TransactionContext := TransactionContext.init 0 .serializable 5 5

def insertedRow : RowResult := insertRow Store.initial rollbackTxn ⟨⟨0, 1⟩, some 0, true⟩

def primaryKeyUpdated : RowResult :=
  updateRow insertedRow.store insertedRow.txn ⟨0, 1⟩ true INVALID_ITEMPOINTER false ⟨0, 2⟩
    ⟨⟨0, 3⟩, some 1, true⟩

theorem rollback_keeps_primary_key_empty_version :
    insertedRow.ok ∧ primaryKeyUpdated.ok ∧
      ((abortTransaction primaryKeyUpdated.store primaryKeyUpdated.txn).1.headers ⟨0, 2⟩).transactionId =
        rollbackTxn.txnId ∧
      ((abortTransaction primaryKeyUpdated.store primaryKeyUpdated.txn).1.headers ⟨0, 2⟩).endCommitId =
        INVALID_CID ∧
      (abortTransaction primaryKeyUpdated.store primaryKeyUpdated.txn).2.1.gcSet.lookup ⟨0, 2⟩ = none := by
  decide

def committedRow : Store :=
  (((Store.initial.setTransactionId ⟨0, 0⟩ INITIAL_TXN_ID).setBeginCommitId ⟨0, 0⟩ 1).setIndirection
    ⟨0, 0⟩ (some 0)).atomicUpdateItemPointer 0 ⟨0, 0⟩

def noTuple : InsertTupleResult := ⟨INVALID_ITEMPOINTER, none, false⟩

def firstUpdate : RowResult :=
  updateRow committedRow (TransactionContext.init 0 .serializable 10 10) ⟨0, 0⟩ false ⟨0, 1⟩ true
    INVALID_ITEMPOINTER noTuple

def secondUpdate : RowResult :=
  updateRow firstUpdate.store firstUpdate.txn ⟨0, 1⟩ false ⟨0, 2⟩ true INVALID_ITEMPOINTER noTuple

theorem updateRow_in_place_counts_nothing :
    firstUpdate.ok ∧ firstUpdate.processed = 1 ∧
      isVisible firstUpdate.store firstUpdate.txn ⟨0, 1⟩ .readId = .ok ∧
      secondUpdate.ok ∧ secondUpdate.processed = 0 := by
  decide

-- One row of DeleteExecutor::DExecute on the version at location, once the foreign-key check
-- passed; emptyVersion is what InsertEmptyVersion gave.
def deleteRow (s : Store) (txn : TransactionContext) (location emptyVersion : ItemPointer) :
    RowResult :=
  let owner := isOwner s txn location
  if owner && isWritten s location then
    let (s1, txn1) := performDeleteInPlace s txn location
    ⟨s1, txn1, true, 0⟩
  else if owner || isOwnable s location then
    let acquired := if owner then (s, true) else acquireOwnership s txn location
    if !acquired.2 then RowResult.failed acquired.1 txn
    else if emptyVersion.isNull then
      RowResult.failed (if owner then acquired.1 else yieldOwnership acquired.1 location) txn
    else
      let (s1, txn1) := performDelete acquired.1 txn location emptyVersion
      ⟨s1, txn1, true, 1⟩
  else RowResult.failed s txn

end Peloton.Executor
