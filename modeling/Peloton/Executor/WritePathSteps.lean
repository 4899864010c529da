import Peloton.Executor.WritePath
import Peloton.Concurrency.Ownership

set_option autoImplicit false

/-! The write path against the transaction system. A row that UpdateExecutor or DeleteExecutor
completes on a version its scan read is a run of disciplined steps of the transaction system: the
executor acquires only versions that began before its transaction, and it updates or deletes a
version it wrote itself only in place. The one exception is a primary-key update of a version the
transaction wrote, which links an empty version after an uncommitted one. -/

namespace Peloton.Concurrency

open Storage

-- Every transaction reads at its commit id: TransactionContext.init gets the same id twice.
def ReadsAtCommit (s : TmSystem) : Prop :=
  ∀ (i : Nat) (t : TmTxn), s.txns[i]? = some t → t.ctx.readId = t.ctx.commitId

section ReadIds

variable {s s' : TmSystem}

theorem ReadsAtCommit.of_set (reads : ReadsAtCommit s) {i : Nat} {ctx ctx' : TransactionContext}
    {status : TxnStatus} (found : s.activeCtx i = some ctx) (txns : s'.txns = s.txns.set i ⟨ctx', status⟩)
    (sameRead : ctx'.readId = ctx.readId) (sameCommit : ctx'.commitId = ctx.commitId) :
    ReadsAtCommit s' := by
  intro j t lookup
  rw [txns, TmSystem.getElem?_set_of_activeCtx found] at lookup
  split at lookup
  · cases lookup
    rw [sameRead, sameCommit]
    exact reads i _ (TmSystem.activeCtx_eq_some.mp found)
  · exact reads j t lookup

theorem ReadsAtCommit.step (reads : ReadsAtCommit s) (own : OwnInv s) (h : Transition true s s') :
    ReadsAtCommit s' := by
  cases h with
  | begin _ _ _ =>
    intro j t lookup
    rw [TmSystem.getElem?_begin] at lookup
    split_ifs at lookup
    · exact reads j t lookup
    · cases lookup; rfl
  | read location acquire found _ =>
    rcases performRead_ctx acquire (own.serializable found) with same | ⟨same, -⟩ | ⟨same, -⟩ <;>
      exact reads.of_set found rfl ((congrArg TransactionContext.readId same).trans rfl)
        ((congrArg TransactionContext.commitId same).trans rfl)
  | acquire location found _ => exact fun j t lookup => reads j t lookup
  | insert found => exact reads.of_set found rfl rfl rfl
  | update found _ _ _ => exact reads.of_set found rfl rfl rfl
  | updateInPlace found _ _ _ => exact reads.of_set found rfl rfl rfl
  | delete found _ _ _ _ => exact reads.of_set found rfl rfl rfl
  | @deleteInPlace i ctx location found _ _ =>
    have same := performDeleteInPlace_ctx s.store ctx location
    exact reads.of_set found rfl (by rw [same]; rfl) (by rw [same]; rfl)
  | @commit i ctx found =>
    obtain ⟨gc, same⟩ := commitTransaction_ctx s.store ctx
    exact reads.of_set found rfl (by rw [same]) (by rw [same])
  | @abort i ctx found =>
    obtain ⟨gc, same⟩ := abortTransaction_ctx s.store ctx
    exact reads.of_set found rfl (by rw [same]) (by rw [same])

theorem readsAtCommit_of_reachable (hs : TmReachable true s) : ReadsAtCommit s := by
  -- the invariant rests on OwnInv, which says every transaction is SERIALIZABLE
  have both := @TransitionSystem.Reachable.invariant _ _ _ _ (fun s => OwnInv s ∧ ReadsAtCommit s)
    ⟨ownInv_initial, fun _ _ lookup => by cases lookup⟩
    (fun _ _ _ ⟨own, reads⟩ step =>
      ⟨own.step (transition_of_step true step), reads.step own (transition_of_step true step)⟩) _ hs
  exact both.2

end ReadIds

theorem TmSystem.freshSlot_isNull (sys : TmSystem) : sys.freshSlot.isNull = false := by
  simp [TmSystem.freshSlot, ItemPointer.isNull, INVALID_OID]

section Enabled

variable {sys : TmSystem} {i : Nat} {ctx : TransactionContext} {location : ItemPointer}
  (found : sys.activeCtx i = some ctx)
include found

theorem step_acquire_of_begun (allowed : begun sys.store ctx location = true) :
    step true sys (.acquire i location) = some (sys.acquire ctx location) := by
  simp [step, found, allowed]

theorem step_insert_of_active : step true sys (.insert i) = some (sys.insert i ctx) := by
  simp [step, found]

theorem step_update_of_owner (owner : isOwner sys.store ctx location = true)
    (latest : (sys.store.headers location).prevItemPointer.isNull = true)
    (unwritten : isWritten sys.store location = false) :
    step true sys (.update i location) = some (sys.update i ctx location) := by
  simp [step, found, owner, latest, unwritten]

theorem step_updateInPlace_of_owner (owner : isOwner sys.store ctx location = true)
    (written : isWritten sys.store location = true)
    (unended : (sys.store.headers location).endCommitId = MAX_CID) :
    step true sys (.updateInPlace i location) = some (sys.updateInPlace i ctx location) := by
  simp [step, found, owner, written, unended]

theorem step_delete_of_owner (lastReader : getLastReaderCommitId sys.store location = ctx.commitId)
    (owner : isOwner sys.store ctx location = true)
    (latest : (sys.store.headers location).prevItemPointer.isNull = true)
    (unwritten : isWritten sys.store location = false) :
    step true sys (.delete i location) = some (sys.delete i ctx location) := by
  simp [step, found, lastReader, owner, latest, unwritten]

theorem step_deleteInPlace_of_owner (owner : isOwner sys.store ctx location = true)
    (written : isWritten sys.store location = true) :
    step true sys (.deleteInPlace i location) = some (sys.deleteInPlace i ctx location) := by
  simp [step, found, owner, written]

theorem activeCtx_setTxn_self (ctx' : TransactionContext) :
    (sys.setTxn i ctx' .active).activeCtx i = some ctx' := by
  rw [TmSystem.activeCtx_eq_some]
  exact (TmSystem.getElem?_set_of_activeCtx found _ i).trans (if_pos rfl)

end Enabled

end Peloton.Concurrency

namespace Peloton.Executor

open Storage Concurrency

section Versions

variable {s : Store} {txn : TransactionContext} {location : ItemPointer}

theorem activated_of_visible (visible : isVisible s txn location .readId = .ok)
    (live : txn.readId < MAX_CID) (notOwner : isOwner s txn location = false) :
    (s.headers location).beginCommitId ≤ txn.readId ∧ (s.headers location).beginCommitId ≠ MAX_CID := by
  have foreign : (txn.txnId == (s.headers location).transactionId) = false := by
    simp only [isOwner, beq_eq_false_iff_ne] at notOwner
    exact beq_eq_false_iff_ne.mpr (Ne.symm notOwner)
  simp only [isVisible, foreign, Bool.false_eq_true, ↓reduceIte] at visible
  split_ifs at visible with invalid deleted held uncommitted window window
  · exact ⟨window.1, uncommitted⟩
  · exact ⟨window.1, Nat.ne_of_lt (Nat.lt_of_le_of_lt window.1 live)⟩

theorem begun_of_visible (visible : isVisible s txn location .readId = .ok)
    (atCommit : txn.readId = txn.commitId) (live : txn.commitId < MAX_CID)
    (notOwner : isOwner s txn location = false) :
    begun s txn location = true ∧ isWritten s location = false := by
  obtain ⟨activated, notMax⟩ := activated_of_visible visible (atCommit ▸ live) notOwner
  exact ⟨by simpa [begun, ← atCommit] using activated, by simpa [isWritten] using notMax⟩

theorem acquireOwnership_headers_of_success (success : (acquireOwnership s txn location).2 = true) :
    (acquireOwnership s txn location).1.headers location =
      { s.headers location with transactionId := txn.txnId } := by
  unfold acquireOwnership at success ⊢
  split_ifs at success ⊢
  simp

theorem unwritten_of_visible (visible : isVisible s txn location .readId = .ok)
    (atCommit : txn.readId = txn.commitId) (live : txn.commitId < MAX_CID)
    (notInPlace : (isOwner s txn location && isWritten s location) = false) :
    isWritten s location = false := by
  cases owner : isOwner s txn location
  · exact (begun_of_visible visible atCommit live owner).2
  · simpa [owner] using notInPlace

end Versions

-- The row's store and transaction are those a run of disciplined steps leaves.
def RowRun (sys : TmSystem) (i : Nat) (r : RowResult) : Prop :=
  ∃ (acts : List TmAction) (sys' : TmSystem), TransitionSystem.run (step true) sys acts = some sys' ∧
    sys'.store = r.store ∧ sys'.activeCtx i = some r.txn

-- What taking ownership leaves: the same transactions, slots and cells, and the version held by
-- the transaction.
structure TakenOver (sys sys' : TmSystem) (ctx : TransactionContext) (location : ItemPointer) :
    Prop where
  txns : sys'.txns = sys.txns
  nextSlot : sys'.nextSlot = sys.nextSlot
  nextCell : sys'.nextCell = sys.nextCell
  header : sys'.store.headers location = { sys.store.headers location with transactionId := ctx.txnId }

section Runs

variable {sys sys' : TmSystem} {i : Nat} {ctx : TransactionContext} {location : ItemPointer}
  {r : RowResult}

theorem RowRun.of_run {acts : List TmAction} (ran : TransitionSystem.run (step true) sys acts = some sys')
    (rest : RowRun sys' i r) : RowRun sys i r := by
  obtain ⟨acts', sys'', ran', store, txn⟩ := rest
  refine ⟨acts ++ acts', sys'', ?_, store, txn⟩
  rw [TransitionSystem.run_append, ran, Option.bind_some, ran']

theorem RowRun.cons {a : TmAction} (stepped : step true sys a = some sys') (rest : RowRun sys' i r) :
    RowRun sys i r := by
  obtain ⟨acts, sys'', ran, store, txn⟩ := rest
  exact ⟨a :: acts, sys'', by rw [TransitionSystem.run, stepped, Option.bind_some, ran], store, txn⟩

-- UpdateExecutor counts a primary-key update once it succeeded.
theorem RowRun.counted (run : RowRun sys i r) :
    RowRun sys i (if r.ok then { r with processed := r.processed + 1 } else r) := by
  split
  · exact run
  · exact run

theorem ok_of_counted (counted : (if r.ok then { r with processed := r.processed + 1 } else r).ok = true) :
    r.ok = true := by
  split at counted
  · exact counted
  · exact counted

theorem RowRun.of_step {a : TmAction} (stepped : step true sys a = some sys') (store : sys'.store = r.store)
    (txn : sys'.activeCtx i = some r.txn) : RowRun sys i r :=
  ⟨[a], sys', by rw [TransitionSystem.run_singleton, stepped], store, txn⟩

namespace TakenOver

variable (taken : TakenOver sys sys' ctx location)
include taken

theorem activeCtx (j : Nat) : sys'.activeCtx j = sys.activeCtx j := by
  simp only [TmSystem.activeCtx, taken.txns]

theorem freshSlot : sys'.freshSlot = sys.freshSlot := by
  simp only [TmSystem.freshSlot, taken.nextSlot]

theorem owner : isOwner sys'.store ctx location = true := by
  simp [isOwner, taken.header]

theorem written : isWritten sys'.store location = isWritten sys.store location := by
  simp [isWritten, taken.header]

theorem latest : (sys'.store.headers location).prevItemPointer = (sys.store.headers location).prevItemPointer := by
  rw [taken.header]

theorem lastReader : getLastReaderCommitId sys'.store location = getLastReaderCommitId sys.store location := by
  simp [getLastReaderCommitId, taken.header]

variable (found : sys.activeCtx i = some ctx)
include found

theorem active : sys'.activeCtx i = some ctx := by
  rw [taken.activeCtx]
  exact found

variable (latest : (sys.store.headers location).prevItemPointer.isNull = true)
  (unwritten : isWritten sys.store location = false)
include latest unwritten

theorem step_update : step true sys' (.update i location) = some (sys'.update i ctx location) :=
  step_update_of_owner (taken.active found) taken.owner (by rw [taken.latest]; exact latest)
    (by rw [taken.written]; exact unwritten)

theorem step_delete (lastReader : getLastReaderCommitId sys.store location = ctx.commitId) :
    step true sys' (.delete i location) = some (sys'.delete i ctx location) :=
  step_delete_of_owner (taken.active found) (by rw [taken.lastReader]; exact lastReader)
    taken.owner (by rw [taken.latest]; exact latest) (by rw [taken.written]; exact unwritten)

end TakenOver

-- The executor takes ownership of a version it does not hold yet by a disciplined acquire: the
-- version its scan saw began before the transaction.
theorem run_ownership (found : sys.activeCtx i = some ctx) (atCommit : ctx.readId = ctx.commitId)
    (live : ctx.commitId < MAX_CID) (visible : isVisible sys.store ctx location .readId = .ok)
    (acquired : (if isOwner sys.store ctx location then (sys.store, true)
      else acquireOwnership sys.store ctx location).2 = true) :
    ∃ (acts : List TmAction) (sys' : TmSystem), TransitionSystem.run (step true) sys acts = some sys' ∧
      sys'.store = (if isOwner sys.store ctx location then (sys.store, true)
        else acquireOwnership sys.store ctx location).1 ∧ TakenOver sys sys' ctx location := by
  cases owner : isOwner sys.store ctx location with
  | true =>
    have held : (sys.store.headers location).transactionId = ctx.txnId := by simpa [isOwner] using owner
    refine ⟨[], sys, rfl, rfl, rfl, rfl, rfl, ?_⟩
    rw [← held]
  | false =>
    simp only [owner, Bool.false_eq_true, ↓reduceIte] at acquired
    have allowed := (begun_of_visible visible atCommit live owner).1
    refine ⟨[.acquire i location], sys.acquire ctx location, ?_, rfl,
      ⟨rfl, rfl, rfl, acquireOwnership_headers_of_success acquired⟩⟩
    rw [TransitionSystem.run_singleton, step_acquire_of_begun found allowed]

end Runs

section Rows

variable {sys sys' : TmSystem} {i : Nat} {ctx : TransactionContext} {location : ItemPointer}

theorem readsAtCommit_active (reachable : TmReachable true sys) (found : sys.activeCtx i = some ctx) :
    ctx.readId = ctx.commitId ∧ ctx.commitId < MAX_CID := by
  have mine := TmSystem.activeCtx_eq_some.mp found
  exact ⟨readsAtCommit_of_reachable reachable i _ mine, ((ownInv_of_reachable reachable).ids i _ mine).2.1⟩

theorem deleteRow_runs (reachable : TmReachable true sys) (found : sys.activeCtx i = some ctx)
    (visible : isVisible sys.store ctx location .readId = .ok)
    (lastReader : getLastReaderCommitId sys.store location = ctx.commitId)
    (latest : (sys.store.headers location).prevItemPointer.isNull = true)
    (deleted : (deleteRow sys.store ctx location sys.freshSlot).ok = true) :
    RowRun sys i (deleteRow sys.store ctx location sys.freshSlot) := by
  obtain ⟨atCommit, live⟩ := readsAtCommit_active reachable found
  unfold deleteRow at deleted ⊢
  dsimp only at deleted ⊢
  generalize acquiring : (if isOwner sys.store ctx location = true then (sys.store, true)
    else acquireOwnership sys.store ctx location) = acquired at deleted ⊢
  split at deleted
  · next inPlace =>
    rw [if_pos inPlace]
    obtain ⟨owner, written⟩ := Bool.and_eq_true_iff.mp inPlace
    exact RowRun.of_step (step_deleteInPlace_of_owner found owner written) rfl (activeCtx_setTxn_self found _)
  · next inPlace =>
    rw [if_neg inPlace]
    split at deleted
    · next ownable =>
      rw [if_pos ownable]
      split at deleted
      · simp [RowResult.failed] at deleted
      · next success =>
        rw [if_neg success, TmSystem.freshSlot_isNull, if_neg Bool.false_ne_true]
        have unwritten := unwritten_of_visible visible atCommit live (Bool.eq_false_iff.mpr inPlace)
        obtain ⟨acts, sys', ran, stored, taken⟩ :=
          run_ownership found atCommit live visible (by rw [acquiring]; simpa using success)
        rw [acquiring] at stored
        rw [← stored, ← taken.freshSlot]
        exact RowRun.of_run ran (RowRun.of_step (taken.step_delete found latest unwritten lastReader) rfl
          (activeCtx_setTxn_self (taken.active found) _))
    · simp [RowResult.failed] at deleted

theorem performUpdatePrimaryKey_runs (taken : TakenOver sys sys' ctx location)
    (found : sys.activeCtx i = some ctx)
    (lastReader : getLastReaderCommitId sys.store location = ctx.commitId)
    (latest : (sys.store.headers location).prevItemPointer.isNull = true)
    (unwritten : isWritten sys.store location = false) (isOwner accepted : Bool)
    (updated : (performUpdatePrimaryKey isOwner sys'.store ctx location sys'.freshSlot
      ⟨⟨0, sys'.nextSlot + 1⟩, some sys'.nextCell, accepted⟩).ok = true) :
    RowRun sys' i (performUpdatePrimaryKey isOwner sys'.store ctx location sys'.freshSlot
      ⟨⟨0, sys'.nextSlot + 1⟩, some sys'.nextCell, accepted⟩) := by
  cases accepted
  · simp [performUpdatePrimaryKey, TmSystem.freshSlot_isNull, insertTuple, RowResult.failed, INVALID_ITEMPOINTER] at updated
  · simp only [performUpdatePrimaryKey, TmSystem.freshSlot_isNull, Bool.false_eq_true, ↓reduceIte, insertTuple,
      performDelete, INVALID_OID]
    have deletedFirst :=
      activeCtx_setTxn_self (taken.active found) (performDelete sys'.store ctx location sys'.freshSlot).2
    exact RowRun.cons (taken.step_delete found latest unwritten lastReader)
      (RowRun.of_step (step_insert_of_active deletedFirst) rfl (activeCtx_setTxn_self deletedFirst _))

theorem updateRow_runs (reachable : TmReachable true sys) (found : sys.activeCtx i = some ctx)
    (visible : isVisible sys.store ctx location .readId = .ok)
    (lastReader : getLastReaderCommitId sys.store location = ctx.commitId)
    (latest : (sys.store.headers location).prevItemPointer.isNull = true)
    (unended : (sys.store.headers location).endCommitId = MAX_CID)
    {updatePrimaryKey installed accepted : Bool}
    (keyInPlace : updatePrimaryKey = true →
      (isOwner sys.store ctx location && isWritten sys.store location) = false)
    (updated : (updateRow sys.store ctx location updatePrimaryKey sys.freshSlot installed sys.freshSlot
      ⟨⟨0, sys.nextSlot + 1⟩, some sys.nextCell, accepted⟩).ok = true) :
    RowRun sys i (updateRow sys.store ctx location updatePrimaryKey sys.freshSlot installed sys.freshSlot
      ⟨⟨0, sys.nextSlot + 1⟩, some sys.nextCell, accepted⟩) := by
  obtain ⟨atCommit, live⟩ := readsAtCommit_active reachable found
  unfold updateRow at updated ⊢
  dsimp only at updated ⊢
  generalize acquiring : (if isOwner sys.store ctx location = true then (sys.store, true)
    else acquireOwnership sys.store ctx location) = acquired at updated ⊢
  split at updated
  · next inPlace =>
    rw [if_pos inPlace]
    obtain ⟨owner, written⟩ := Bool.and_eq_true_iff.mp inPlace
    have key : updatePrimaryKey = false := by
      cases updatePrimaryKey
      · rfl
      · exact absurd (keyInPlace rfl) (by rw [inPlace]; decide)
    rw [if_neg (by rw [key]; decide)]
    exact RowRun.of_step (step_updateInPlace_of_owner found owner written unended) rfl
      (activeCtx_setTxn_self found _)
  · next inPlace =>
    rw [if_neg inPlace]
    split at updated
    · next ownable =>
      rw [if_pos ownable]
      split at updated
      · simp [RowResult.failed] at updated
      · next success =>
        rw [if_neg success]
        have unwritten := unwritten_of_visible visible atCommit live (Bool.eq_false_iff.mpr inPlace)
        obtain ⟨acts, sys', ran, stored, taken⟩ :=
          run_ownership found atCommit live visible (by rw [acquiring]; simpa using success)
        rw [acquiring] at stored
        split at updated
        · next key =>
          rw [if_pos key]
          rw [← stored, ← taken.freshSlot, ← taken.nextSlot, ← taken.nextCell] at updated ⊢
          exact RowRun.of_run ran (RowRun.counted (performUpdatePrimaryKey_runs taken found lastReader latest
            unwritten _ accepted (ok_of_counted updated)))
        · next key =>
          rw [if_neg key]
          split at updated
          · simp [RowResult.failed] at updated
          · next isInstalled =>
            rw [if_neg isInstalled, ← stored, ← taken.freshSlot]
            exact RowRun.of_run ran (RowRun.of_step (taken.step_update found latest unwritten) rfl
              (activeCtx_setTxn_self (taken.active found) _))
    · simp [RowResult.failed] at updated

-- A committed insert, then a transaction that read the version.
def readThenWrite : List TmAction := [.begin 2, .insert 0, .commit 0, .begin 3, .read 1 ⟨0, 0⟩ false]

def afterRead : TmSystem := (TransitionSystem.run (step true) TmSystem.initial readThenWrite).getD TmSystem.initial

def readerCtx : TransactionContext := (TransactionContext.init 0 .serializable 3 3).recordRead ⟨0, 0⟩

end Rows

end Peloton.Executor

