import Peloton.Concurrency.TimestampOrdering

set_option autoImplicit false

namespace Peloton.Concurrency

open Storage

-- TransactionManager::IsVisible.
def isVisible (s : Store) (txn : TransactionContext) (location : ItemPointer)
    (type : VisibilityIdType) : VisibilityType :=
  let h := s.headers location
  let own := txn.txnId == h.transactionId
  let txnVisId := if type = .readId then txn.readId else txn.commitId
  let activated := h.beginCommitId ≤ txnVisId
  let invalidated := h.endCommitId ≤ txnVisId
  if h.transactionId = INVALID_TXN_ID then
    if activated ∧ ¬invalidated then .deleted else .invisible
  else if own then
    if h.beginCommitId = MAX_CID ∧ h.endCommitId ≠ INVALID_CID then .ok
    else if txn.getRWType location = .readOwn then .ok
    else if h.endCommitId = INVALID_CID then .deleted
    else .invisible
  else if h.transactionId ≠ INITIAL_TXN_ID then
    -- no cascading aborts: an uncommitted version of another transaction is never read
    if h.beginCommitId = MAX_CID then .invisible
    else if activated ∧ ¬invalidated then .ok
    else .invisible
  else if activated ∧ ¬invalidated then .ok
  else .invisible

-- TransactionManager::IsOccupied: whether the version an index entry leads to stops another
-- transaction from inserting the same key.
def isOccupied (s : Store) (txn : TransactionContext) (position : ItemPointer) : Bool :=
  let h := s.headers position
  let own := txn.txnId == h.transactionId
  let activated := h.beginCommitId ≤ txn.readId
  let invalidated := h.endCommitId ≤ txn.readId
  if h.transactionId = INVALID_TXN_ID then false
  else if own then
    if h.beginCommitId = MAX_CID ∧ h.endCommitId ≠ INVALID_CID then true
    else txn.getRWType position = .readOwn
  else if h.transactionId ≠ INITIAL_TXN_ID then
    if h.beginCommitId = MAX_CID then
      -- a dirty delete is free, a dirty update or insert is taken
      h.endCommitId ≠ INVALID_CID
    else decide (activated ∧ ¬invalidated)
  else decide (activated ∧ ¬invalidated)

end Peloton.Concurrency
