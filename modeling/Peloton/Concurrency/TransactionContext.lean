import Peloton.Common.InternalTypes
import Peloton.Lib.KeyedList

set_option autoImplicit false

namespace Peloton.Concurrency

open KeyedList

-- The part of a TransactionContext that the transaction manager reads and writes.
structure TransactionContext where
  txnId : TxnId
  readId : Cid
  commitId : Cid
  epochId : Eid
  threadId : Nat
  isolationLevel : IsolationLevelType
  isWritten : Bool
  insertCount : Nat
  rwSet : List (ItemPointer × RWType)
  gcSet : List (ItemPointer × GCVersionType)
  result : ResultType
  deriving DecidableEq, Repr

namespace TransactionContext

def init (threadId : Nat) (isolation : IsolationLevelType) (readId commitId : Cid) :
    TransactionContext :=
  { txnId := commitId, readId := readId, commitId := commitId, epochId := readId >>> 32,
    threadId := threadId, isolationLevel := isolation, isWritten := false, insertCount := 0,
    rwSet := [], gcSet := [], result := .success }

def getRWType (txn : TransactionContext) (location : ItemPointer) : RWType :=
  (txn.rwSet.lookup location).getD .invalid

def isInRWSet (txn : TransactionContext) (location : ItemPointer) : Bool :=
  (txn.rwSet.lookup location).isSome

def setResult (txn : TransactionContext) (result : ResultType) : TransactionContext :=
  { txn with result := result }

def setGCVersion (txn : TransactionContext) (location : ItemPointer) (type : GCVersionType) :
    TransactionContext :=
  { txn with gcSet := setKey txn.gcSet location type }

-- The transitions of the read/write set, one match per field they write; an entry that trips a
-- PELOTON_ASSERT is left as it is.
def recordRead (txn : TransactionContext) (location : ItemPointer) : TransactionContext :=
  { txn with
    rwSet := match txn.rwSet.lookup location with
      | some _ => txn.rwSet
      | none => insertNew txn.rwSet location .read }

def recordReadOwn (txn : TransactionContext) (location : ItemPointer) : TransactionContext :=
  { txn with
    rwSet := match txn.rwSet.lookup location with
      | some .read => updateKey txn.rwSet location .readOwn
      | some _ => txn.rwSet
      | none => insertNew txn.rwSet location .readOwn }

-- A first write of a version never read leaves is_written_ unset.
def recordUpdate (txn : TransactionContext) (location : ItemPointer) : TransactionContext :=
  { txn with
    isWritten := match txn.rwSet.lookup location with
      | some .read | some .readOwn => true
      | _ => txn.isWritten
    rwSet := match txn.rwSet.lookup location with
      | some .read | some .readOwn => updateKey txn.rwSet location .update
      | some _ => txn.rwSet
      | none => insertNew txn.rwSet location .update }

def recordInsert (txn : TransactionContext) (location : ItemPointer) : TransactionContext :=
  { txn with
    rwSet := if txn.isInRWSet location then txn.rwSet else insertNew txn.rwSet location .insert
    insertCount := if txn.isInRWSet location then txn.insertCount else txn.insertCount + 1 }

-- The flag is true when the deleted version was inserted by this transaction.
def recordDelete (txn : TransactionContext) (location : ItemPointer) : TransactionContext × Bool :=
  ({ txn with
      rwSet := match txn.rwSet.lookup location with
        | some .read | some .readOwn | some .update => updateKey txn.rwSet location .delete
        | some .insert => updateKey txn.rwSet location .insDel
        | some _ => txn.rwSet
        | none => insertNew txn.rwSet location .delete
      isWritten := match txn.rwSet.lookup location with
        | some .read | some .readOwn => true
        | _ => txn.isWritten
      insertCount := match txn.rwSet.lookup location with
        | some .insert => txn.insertCount - 1
        | _ => txn.insertCount },
    txn.rwSet.lookup location == some .insert)

/-! The entry each transition leaves at the recorded location, and that it touches no other. -/

section Transitions

variable (txn : TransactionContext) (location : ItemPointer)

@[simp] theorem recordRead_lookup :
    (txn.recordRead location).rwSet.lookup location =
      (txn.rwSet.lookup location).or (some .read) := by
  unfold recordRead
  cases h : txn.rwSet.lookup location <;> simp [h]

@[simp] theorem recordReadOwn_lookup :
    (txn.recordReadOwn location).rwSet.lookup location =
      match txn.rwSet.lookup location with
      | some .read | none => some .readOwn
      | some t => some t := by
  unfold recordReadOwn
  cases h : txn.rwSet.lookup location with
  | none => simp [h]
  | some t => cases t <;> simp [h]

@[simp] theorem recordUpdate_lookup :
    (txn.recordUpdate location).rwSet.lookup location =
      match txn.rwSet.lookup location with
      | some .read | some .readOwn | none => some .update
      | some t => some t := by
  unfold recordUpdate
  cases h : txn.rwSet.lookup location with
  | none => simp [h]
  | some t => cases t <;> simp [h]

@[simp] theorem recordInsert_lookup :
    (txn.recordInsert location).rwSet.lookup location =
      (txn.rwSet.lookup location).or (some .insert) := by
  unfold recordInsert isInRWSet
  cases h : txn.rwSet.lookup location <;> simp [h]

@[simp] theorem recordDelete_lookup :
    (txn.recordDelete location).1.rwSet.lookup location =
      match txn.rwSet.lookup location with
      | some .read | some .readOwn | some .update | none => some .delete
      | some .insert => some .insDel
      | some t => some t := by
  unfold recordDelete
  cases h : txn.rwSet.lookup location with
  | none => simp [h]
  | some t => cases t <;> simp [h]

variable {location} {other : ItemPointer} (different : other ≠ location)
include different

@[simp] theorem recordRead_lookup_of_ne :
    (txn.recordRead location).rwSet.lookup other = txn.rwSet.lookup other := by
  unfold recordRead
  cases txn.rwSet.lookup location <;> simp [different]

@[simp] theorem recordReadOwn_lookup_of_ne :
    (txn.recordReadOwn location).rwSet.lookup other = txn.rwSet.lookup other := by
  unfold recordReadOwn
  cases h : txn.rwSet.lookup location with
  | none => simp [different]
  | some t => cases t <;> simp [different]

@[simp] theorem recordUpdate_lookup_of_ne :
    (txn.recordUpdate location).rwSet.lookup other = txn.rwSet.lookup other := by
  unfold recordUpdate
  cases h : txn.rwSet.lookup location with
  | none => simp [different]
  | some t => cases t <;> simp [different]

@[simp] theorem recordInsert_lookup_of_ne :
    (txn.recordInsert location).rwSet.lookup other = txn.rwSet.lookup other := by
  unfold recordInsert
  split <;> simp [different]

@[simp] theorem recordDelete_lookup_of_ne :
    (txn.recordDelete location).1.rwSet.lookup other = txn.rwSet.lookup other := by
  unfold recordDelete
  cases h : txn.rwSet.lookup location with
  | none => simp [different]
  | some t => cases t <;> simp [different]

end Transitions

end TransactionContext

end Peloton.Concurrency
