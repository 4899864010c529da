import Peloton.Storage.TileGroupHeader
import Peloton.Concurrency.TransactionContext

set_option autoImplicit false

namespace Peloton.Concurrency

open Storage

-- TimestampOrderingTransactionManager. Each call runs as one atomic step: the spin latch in the
-- reserved field and the CAS on the transaction id serialize the calls on one version, and the
-- model runs them one after another. The read/write set of the calling transaction is passed in
-- and returned.

def getLastReaderCommitId (s : Store) (location : ItemPointer) : Cid :=
  (s.headers location).lastReaderCid

def setLastReaderCommitId (s : Store) (location : ItemPointer) (currentCid : Cid) (isOwner : Bool) :
    Store × Bool :=
  if !isOwner && (s.headers location).transactionId != INITIAL_TXN_ID then (s, false)
  else if (s.headers location).lastReaderCid < currentCid then
    (s.setLastReaderCid location currentCid, true)
  else (s, true)

def initTupleReserved (s : Store) (location : ItemPointer) : Store :=
  s.setLastReaderCid location 0

def isOwner (s : Store) (txn : TransactionContext) (location : ItemPointer) : Bool :=
  (s.headers location).transactionId == txn.txnId

def isOwned (s : Store) (txn : TransactionContext) (location : ItemPointer) : Bool :=
  (s.headers location).transactionId != txn.txnId &&
    (s.headers location).transactionId != INITIAL_TXN_ID

def isWritten (s : Store) (location : ItemPointer) : Bool :=
  (s.headers location).beginCommitId == MAX_CID

def isOwnable (s : Store) (location : ItemPointer) : Bool :=
  (s.headers location).transactionId == INITIAL_TXN_ID &&
    (s.headers location).endCommitId == MAX_CID

-- The last reader is compared with the commit id; SetAtomicTransactionId is a CAS from
-- INITIAL_TXN_ID.
def acquireOwnership (s : Store) (txn : TransactionContext) (location : ItemPointer) : Store × Bool :=
  if txn.commitId < (s.headers location).lastReaderCid then (s, false)
  else if (s.headers location).transactionId = INITIAL_TXN_ID then
    (s.setTransactionId location txn.txnId, true)
  else (s, false)

def yieldOwnership (s : Store) (location : ItemPointer) : Store :=
  s.setTransactionId location INITIAL_TXN_ID

def ownForRead (s : Store) (txn : TransactionContext) (location : ItemPointer)
    (afterAcquire : Store → Store) : Store × TransactionContext × Bool :=
  if isOwner s txn location then (s, txn, true)
  else if !isOwnable s location then (s, txn, false)
  else match acquireOwnership s txn location with
    | (s', true) => (afterAcquire s', txn.recordReadOwn location, true)
    | (s', false) => (s', txn, false)

def performRead (s : Store) (txn : TransactionContext) (readLocation : ItemPointer)
    (acquireOwnership : Bool) : Store × TransactionContext × Bool :=
  match txn.isolationLevel with
  | .readOnly => (s, txn, true)
  | .snapshot =>
    if acquireOwnership then
      -- the latest version of the tuple, through its indirection; the source dereferences a
      -- null indirection, which the model turns into a failed read
      match (s.headers readLocation).indirection with
      | none => (s, txn, false)
      | some cell => ownForRead s txn (s.indirections cell) id
    else (s, txn.recordRead readLocation, true)
  | .readCommitted =>
    if acquireOwnership then ownForRead s txn readLocation id
    else if isOwner s txn readLocation then (s, txn, true)
    else if isOwned s txn readLocation then (s, txn, false)
    else (s, txn.recordRead readLocation, true)
  -- SERIALIZABLE and REPEATABLE_READS
  | _ =>
    if acquireOwnership then
      ownForRead s txn readLocation
        (fun s' => (setLastReaderCommitId s' readLocation txn.commitId true).1)
    else if isOwner s txn readLocation then (s, txn, true)
    else match setLastReaderCommitId s readLocation txn.commitId false with
      | (s', true) => (s', txn.recordRead readLocation, true)
      | (s', false) => (s', txn, false)

def performInsert (s : Store) (txn : TransactionContext) (location : ItemPointer)
    (indexEntryPtr : Option Nat) : Store × TransactionContext :=
  let s1 := s.setTransactionId location txn.txnId
  let txn' := txn.recordInsert location
  let s2 := initTupleReserved s1 location
  (s2.setIndirection location indexEntryPtr, txn')

def linkNewVersion (s : Store) (transactionId : TxnId) (oldLocation newLocation : ItemPointer)
    (newEndCommitId : Option Cid) : Store :=
  let s1 := s.setPrevItemPointer oldLocation newLocation
  let s2 := s1.setNextItemPointer newLocation oldLocation
  let s3 := s2.setTransactionId newLocation transactionId
  let s4 := match newEndCommitId with
    | none => s3
    | some cid => s3.setEndCommitId newLocation cid
  let s5 := initTupleReserved s4 newLocation
  match (s5.headers oldLocation).indirection with
  | none => s5
  | some cell => (s5.setIndirection newLocation (some cell)).atomicUpdateItemPointer cell newLocation

def performUpdate (s : Store) (txn : TransactionContext) (location newLocation : ItemPointer) :
    Store × TransactionContext :=
  (linkNewVersion s txn.txnId location newLocation none, txn.recordUpdate location)

-- PerformUpdate(txn, location) on a version the transaction wrote: only assertions and stats.
def performUpdateInPlace (s : Store) (txn : TransactionContext) (_location : ItemPointer) :
    Store × TransactionContext :=
  (s, txn)

def performDelete (s : Store) (txn : TransactionContext) (location newLocation : ItemPointer) :
    Store × TransactionContext :=
  (linkNewVersion s txn.txnId location newLocation (some INVALID_CID),
    (txn.recordDelete location).1)

-- PerformDelete(txn, location): the delete is recorded on the older version when there is one.
def performDeleteInPlace (s : Store) (txn : TransactionContext) (location : ItemPointer) :
    Store × TransactionContext :=
  let s1 := s.setEndCommitId location INVALID_CID
  let oldLocation := (s1.headers location).nextItemPointer
  if !oldLocation.isNull then (s1, (txn.recordDelete oldLocation).1)
  else (s1, (txn.recordDelete location).1)

-- CommitTransaction for an UPDATE or DELETE entry: the new version takes over the interval from
-- the commit id on, the old one ends at the commit id, and both are released; the new version of
-- a delete is an empty version owned by nobody.
def installVersion (s : Store) (location : ItemPointer) (endCommitId : Cid) (newTxnId : TxnId) :
    Store :=
  let newVersion := (s.headers location).prevItemPointer
  let cid := (s.headers location).endCommitId
  let s1 := s.setBeginCommitId newVersion endCommitId
  let s2 := s1.setEndCommitId newVersion cid
  let s3 := s2.setEndCommitId location endCommitId
  let s4 := s3.setTransactionId newVersion newTxnId
  s4.setTransactionId location INITIAL_TXN_ID

def discardVersion (s : Store) (location : ItemPointer) : Store :=
  ((s.setBeginCommitId location MAX_CID).setEndCommitId location MAX_CID).setTransactionId location
    INVALID_TXN_ID

def commitEntry (endCommitId : Cid) (acc : Store × TransactionContext)
    (entry : ItemPointer × RWType) : Store × TransactionContext :=
  let (s, txn) := acc
  let (location, type) := entry
  match type with
  | .readOwn => (yieldOwnership s location, txn)
  | .update =>
    (installVersion s location endCommitId INITIAL_TXN_ID, txn.setGCVersion location .commitUpdate)
  | .delete =>
    (installVersion s location endCommitId INVALID_TXN_ID, txn.setGCVersion location .commitDelete)
  | .insert =>
    (((s.setBeginCommitId location endCommitId).setEndCommitId location MAX_CID).setTransactionId
      location INITIAL_TXN_ID, txn)
  | .insDel => (discardVersion s location, txn.setGCVersion location .commitInsDel)
  | _ => acc

-- The result is the one the transaction carries; a READ_ONLY transaction installs nothing.
def commitTransaction (s : Store) (txn : TransactionContext) :
    Store × TransactionContext × ResultType :=
  if txn.isolationLevel = .readOnly then (s, txn, .success)
  else
    let r := txn.rwSet.foldl (commitEntry txn.commitId) (s, txn)
    (r.1, r.2, r.2.result)

def rollbackVersion (s : Store) (location : ItemPointer) : Store :=
  let newVersion := (s.headers location).prevItemPointer
  let s1 := s.setBeginCommitId newVersion MAX_CID
  let s2 := s1.setEndCommitId newVersion MAX_CID
  let s3 := match (s2.headers location).indirection with
    | none => s2
    | some cell => s2.atomicUpdateItemPointer cell location
  let s4 := s3.setTransactionId newVersion INVALID_TXN_ID
  let s5 := s4.setPrevItemPointer location INVALID_ITEMPOINTER
  s5.setTransactionId location INITIAL_TXN_ID

def abortEntry (acc : Store × TransactionContext) (entry : ItemPointer × RWType) :
    Store × TransactionContext :=
  let (s, txn) := acc
  let (location, type) := entry
  let newVersion := (s.headers location).prevItemPointer
  match type with
  | .readOwn => (yieldOwnership s location, txn)
  | .update => (rollbackVersion s location, txn.setGCVersion newVersion .abortUpdate)
  | .delete => (rollbackVersion s location, txn.setGCVersion newVersion .abortDelete)
  | .insert => (discardVersion s location, txn.setGCVersion location .abortInsert)
  | .insDel => (discardVersion s location, txn.setGCVersion location .abortInsDel)
  | _ => acc

def abortTransaction (s : Store) (txn : TransactionContext) :
    Store × TransactionContext × ResultType :=
  let r := txn.rwSet.foldl abortEntry (s, txn)
  (r.1, r.2.setResult .aborted, .aborted)

end Peloton.Concurrency
