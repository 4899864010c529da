import Peloton.Concurrency.TransactionManager
import Peloton.Lib.TransitionSystem

set_option autoImplicit false

namespace Peloton.Concurrency

open Storage

/-! Transactions running against the TimestampOrderingTransactionManager, one whole call at a
time: the spin latch and the CAS on the transaction id make every call atomic on the versions it
touches. Every transaction is SERIALIZABLE with its read id equal to its commit id, and the
PELOTON_ASSERTs of the write calls are the preconditions of their steps. -/

inductive TxnStatus where
  | active | committed | aborted
  deriving DecidableEq, Repr

structure TmTxn where
  ctx : TransactionContext
  status : TxnStatus
  deriving DecidableEq, Repr

-- What a run logs: a PerformRead that returns true to a transaction that did not own the
-- version before, and a CommitTransaction.
inductive TmEvent where
  | read (txn : Nat) (location : ItemPointer)
  | committed (txn : Nat)
  deriving DecidableEq, Repr

-- The tile group headers and indirection cells, the transactions in the order they began, the
-- slots and cells handed out so far (slot k of tile group 0, cell k), and the log.
structure TmSystem where
  store : Store
  txns : List TmTxn
  nextSlot : Nat
  nextCell : Nat
  log : List TmEvent

inductive TmAction where
  | begin (commitId : Cid)
  | read (txn : Nat) (location : ItemPointer) (acquireOwnership : Bool)
  | acquire (txn : Nat) (location : ItemPointer)
  | insert (txn : Nat)
  | update (txn : Nat) (location : ItemPointer)
  | updateInPlace (txn : Nat) (location : ItemPointer)
  | delete (txn : Nat) (location : ItemPointer)
  | deleteInPlace (txn : Nat) (location : ItemPointer)
  | commit (txn : Nat)
  | abort (txn : Nat)
  deriving DecidableEq, Repr

namespace TmSystem

def initial : TmSystem := ⟨Store.initial, [], 0, 0, []⟩

def activeCtx (s : TmSystem) (i : Nat) : Option TransactionContext :=
  match s.txns[i]? with
  | some ⟨ctx, .active⟩ => some ctx
  | _ => none

def freshSlot (s : TmSystem) : ItemPointer := ⟨0, s.nextSlot⟩

def setTxn (s : TmSystem) (i : Nat) (ctx : TransactionContext) (status : TxnStatus) : TmSystem :=
  { s with txns := s.txns.set i ⟨ctx, status⟩ }

def begin (s : TmSystem) (commitId : Cid) : TmSystem :=
  { s with
    txns := s.txns ++ [⟨TransactionContext.init 0 .serializable commitId commitId, .active⟩] }

def read (s : TmSystem) (i : Nat) (ctx : TransactionContext) (location : ItemPointer)
    (acquireOwnership : Bool) : TmSystem :=
  let r := performRead s.store ctx location acquireOwnership
  { s.setTxn i r.2.1 .active with
    store := r.1
    log := if r.2.2 && !isOwner s.store ctx location then s.log ++ [.read i location] else s.log }

def acquire (s : TmSystem) (ctx : TransactionContext) (location : ItemPointer) : TmSystem :=
  { s with store := (acquireOwnership s.store ctx location).1 }

-- DataTable::InsertTuple: an empty slot and a new indirection cell that points at it, then
-- PerformInsert.
def insert (s : TmSystem) (i : Nat) (ctx : TransactionContext) : TmSystem :=
  let r := performInsert (s.store.atomicUpdateItemPointer s.nextCell s.freshSlot) ctx s.freshSlot
    (some s.nextCell)
  { s.setTxn i r.2 .active with
    store := r.1, nextSlot := s.nextSlot + 1, nextCell := s.nextCell + 1 }

def update (s : TmSystem) (i : Nat) (ctx : TransactionContext) (location : ItemPointer) :
    TmSystem :=
  let r := performUpdate s.store ctx location s.freshSlot
  { s.setTxn i r.2 .active with store := r.1, nextSlot := s.nextSlot + 1 }

def updateInPlace (s : TmSystem) (i : Nat) (ctx : TransactionContext) (location : ItemPointer) :
    TmSystem :=
  let r := performUpdateInPlace s.store ctx location
  { s.setTxn i r.2 .active with store := r.1 }

def delete (s : TmSystem) (i : Nat) (ctx : TransactionContext) (location : ItemPointer) :
    TmSystem :=
  let r := performDelete s.store ctx location s.freshSlot
  { s.setTxn i r.2 .active with store := r.1, nextSlot := s.nextSlot + 1 }

def deleteInPlace (s : TmSystem) (i : Nat) (ctx : TransactionContext) (location : ItemPointer) :
    TmSystem :=
  let r := performDeleteInPlace s.store ctx location
  { s.setTxn i r.2 .active with store := r.1 }

def commit (s : TmSystem) (i : Nat) (ctx : TransactionContext) : TmSystem :=
  let r := commitTransaction s.store ctx
  { s.setTxn i r.2.1 .committed with store := r.1, log := s.log ++ [.committed i] }

def abort (s : TmSystem) (i : Nat) (ctx : TransactionContext) : TmSystem :=
  let r := abortTransaction s.store ctx
  { s.setTxn i r.2.1 .aborted with store := r.1 }

end TmSystem

def begun (s : Store) (ctx : TransactionContext) (location : ItemPointer) : Bool :=
  decide ((s.headers location).beginCommitId ≤ ctx.commitId)

variable (disciplined : Bool)

open TmSystem in
def step (s : TmSystem) : TmAction → Option TmSystem
  | .begin commitId =>
    if 2 ≤ commitId ∧ commitId < MAX_CID ∧ ∀ t ∈ s.txns, t.ctx.commitId ≠ commitId then
      some (s.begin commitId)
    else none
  | .read i location acquireOwnership =>
    match s.activeCtx i with
    | some ctx =>
      if !disciplined || !acquireOwnership || begun s.store ctx location then
        some (s.read i ctx location acquireOwnership)
      else none
    | none => none
  | .acquire i location =>
    match s.activeCtx i with
    | some ctx =>
      if !disciplined || begun s.store ctx location then some (s.acquire ctx location) else none
    | none => none
  | .insert i =>
    match s.activeCtx i with
    | some ctx => some (s.insert i ctx)
    | none => none
  | .update i location =>
    match s.activeCtx i with
    | some ctx =>
      if isOwner s.store ctx location && (s.store.headers location).prevItemPointer.isNull &&
          (!disciplined || !isWritten s.store location) then
        some (s.update i ctx location)
      else none
    | none => none
  | .updateInPlace i location =>
    match s.activeCtx i with
    | some ctx =>
      if isOwner s.store ctx location && isWritten s.store location &&
          (s.store.headers location).endCommitId == MAX_CID then
        some (s.updateInPlace i ctx location)
      else none
    | none => none
  | .delete i location =>
    match s.activeCtx i with
    | some ctx =>
      if getLastReaderCommitId s.store location == ctx.commitId && isOwner s.store ctx location &&
          (s.store.headers location).prevItemPointer.isNull &&
          (!disciplined || !isWritten s.store location) then
        some (s.delete i ctx location)
      else none
    | none => none
  | .deleteInPlace i location =>
    match s.activeCtx i with
    | some ctx =>
      if isOwner s.store ctx location && isWritten s.store location then
        some (s.deleteInPlace i ctx location)
      else none
    | none => none
  | .commit i =>
    match s.activeCtx i with
    | some ctx => some (s.commit i ctx)
    | none => none
  | .abort i =>
    match s.activeCtx i with
    | some ctx => some (s.abort i ctx)
    | none => none

-- The transitions, one constructor per action with the guard it needs.
inductive Transition (s : TmSystem) : TmSystem → Prop where
  | begin {commitId : Cid} : 2 ≤ commitId → commitId < MAX_CID →
      (∀ t ∈ s.txns, t.ctx.commitId ≠ commitId) → Transition s (s.begin commitId)
  | read {i : Nat} {ctx : TransactionContext} (location : ItemPointer) (acquireOwnership : Bool) :
      s.activeCtx i = some ctx → (disciplined → acquireOwnership → begun s.store ctx location) →
      Transition s (s.read i ctx location acquireOwnership)
  | acquire {i : Nat} {ctx : TransactionContext} (location : ItemPointer) :
      s.activeCtx i = some ctx → (disciplined → begun s.store ctx location) →
      Transition s (s.acquire ctx location)
  | insert {i : Nat} {ctx : TransactionContext} : s.activeCtx i = some ctx →
      Transition s (s.insert i ctx)
  | update {i : Nat} {ctx : TransactionContext} {location : ItemPointer} :
      s.activeCtx i = some ctx → isOwner s.store ctx location →
      (s.store.headers location).prevItemPointer.isNull →
      (disciplined → isWritten s.store location = false) →
      Transition s (s.update i ctx location)
  | updateInPlace {i : Nat} {ctx : TransactionContext} {location : ItemPointer} :
      s.activeCtx i = some ctx → isOwner s.store ctx location → isWritten s.store location →
      (s.store.headers location).endCommitId = MAX_CID →
      Transition s (s.updateInPlace i ctx location)
  | delete {i : Nat} {ctx : TransactionContext} {location : ItemPointer} :
      s.activeCtx i = some ctx → getLastReaderCommitId s.store location = ctx.commitId →
      isOwner s.store ctx location → (s.store.headers location).prevItemPointer.isNull →
      (disciplined → isWritten s.store location = false) →
      Transition s (s.delete i ctx location)
  | deleteInPlace {i : Nat} {ctx : TransactionContext} {location : ItemPointer} :
      s.activeCtx i = some ctx → isOwner s.store ctx location → isWritten s.store location →
      Transition s (s.deleteInPlace i ctx location)
  | commit {i : Nat} {ctx : TransactionContext} : s.activeCtx i = some ctx →
      Transition s (s.commit i ctx)
  | abort {i : Nat} {ctx : TransactionContext} : s.activeCtx i = some ctx →
      Transition s (s.abort i ctx)

theorem transition_of_step {s s' : TmSystem} {a : TmAction} (h : step disciplined s a = some s') :
    Transition disciplined s s' := by
  cases a with
  | begin commitId =>
    simp only [step] at h
    split at h
    · next guard => cases h; exact .begin guard.1 guard.2.1 guard.2.2
    · cases h
  | read i location acquireOwnership =>
    simp only [step] at h
    split at h
    · next ctx found =>
      split at h
      · next guard =>
        cases h
        refine .read location acquireOwnership found fun strict wants => ?_
        simpa [strict, wants] using guard
      · cases h
    · cases h
  | acquire i location =>
    simp only [step] at h
    split at h
    · next ctx found =>
      split at h
      · next guard =>
        cases h
        exact .acquire location found fun strict => by simpa [strict] using guard
      · cases h
    · cases h
  | insert i =>
    simp only [step] at h
    split at h
    · next ctx found => cases h; exact .insert found
    · cases h
  | update i location =>
    simp only [step] at h
    split at h
    · next ctx found =>
      split at h
      · next guard =>
        cases h
        simp only [Bool.and_eq_true, Bool.or_eq_true, Bool.not_eq_true'] at guard
        obtain ⟨⟨owner, latest⟩, fresh⟩ := guard
        exact .update found owner latest fun strict => by simpa [strict] using fresh
      · cases h
    · cases h
  | updateInPlace i location =>
    simp only [step] at h
    split at h
    · next ctx found =>
      split at h
      · next guard =>
        cases h
        simp only [Bool.and_eq_true, beq_iff_eq] at guard
        exact .updateInPlace found guard.1.1 guard.1.2 guard.2
      · cases h
    · cases h
  | delete i location =>
    simp only [step] at h
    split at h
    · next ctx found =>
      split at h
      · next guard =>
        cases h
        simp only [Bool.and_eq_true, Bool.or_eq_true, Bool.not_eq_true', beq_iff_eq] at guard
        obtain ⟨⟨⟨reader, owner⟩, latest⟩, fresh⟩ := guard
        exact .delete found reader owner latest fun strict => by simpa [strict] using fresh
      · cases h
    · cases h
  | deleteInPlace i location =>
    simp only [step] at h
    split at h
    · next ctx found =>
      split at h
      · next guard =>
        cases h
        simp only [Bool.and_eq_true] at guard
        exact .deleteInPlace found guard.1 guard.2
      · cases h
    · cases h
  | commit i =>
    simp only [step] at h
    split at h
    · next ctx found => cases h; exact .commit found
    · cases h
  | abort i =>
    simp only [step] at h
    split at h
    · next ctx found => cases h; exact .abort found
    · cases h

def TmReachable : TmSystem → Prop :=
  TransitionSystem.Reachable TmSystem.initial (step disciplined)

end Peloton.Concurrency
