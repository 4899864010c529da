import Peloton.Concurrency.LocalEpoch
import Peloton.Lib.TransitionSystem

set_option autoImplicit false

namespace Peloton.Gc

open Concurrency

def MAX_ATTEMPT_COUNT : Nat := 100000

-- What the GC keeps of a recycled TransactionContext: the transaction (by the order transactions
-- began), its epoch, and whether it is READ_ONLY or has an empty GC set.
structure Garbage where
  txn : Nat
  epochId : Nat
  readOnly : Bool
  gcSetEmpty : Bool
  deriving DecidableEq, Repr

-- Where a transaction is.
inductive TxnPhase where
  | waiting (threadId : Nat) (isolation : IsolationLevelType)
  | entering (threadId : Nat) (isolation : IsolationLevelType) (epochId : Nat)
  | running (threadId : Nat) (epochId : Nat) (readOnly : Bool)
  | ended
  deriving DecidableEq, Repr

def beginTimestampType : IsolationLevelType → TimestampType
  | .readOnly | .snapshot => .snapshotRead
  | _ => .read

-- One GC thread of TransactionLevelGCManager::Running: its phase in the loop, and its
-- unlink_queues_, local_unlink_queues_ and reclaim_maps_ entries.
inductive GcPhase where
  | idle
  | scanning (remaining : List Nat) (expired : Nat)
  | reclaiming (expired : Nat)
  | unlinking (expired : Nat)
  deriving DecidableEq, Repr

structure GcThread where
  phase : GcPhase
  unlinkQueue : List Garbage
  localUnlinkQueue : List Garbage
  reclaimMap : List (Nat × Garbage)
  deriving DecidableEq, Repr

def GcThread.initial : GcThread := ⟨.idle, [], [], []⟩

-- What a run logs: a transaction enters its epoch, RecycleTransaction takes its context (its
-- ExitEpoch first), and AddToRecycleMap resets the slots of its GC set.
inductive Event where
  | entered (txn : Nat)
  | recycled (txn : Nat)
  | reclaimed (txn : Nat)
  deriving DecidableEq, Repr

-- The epoch manager's current_global_epoch_id_ and snapshot_global_epoch_id_, the LocalEpoch of
-- each worker thread, the transactions in the order they began, the GC threads, and the log.
structure GcSystem where
  currentEpochId : Nat
  snapshotEpochId : Nat
  localEpochs : Nat → LocalEpoch
  txns : List TxnPhase
  gcThreads : Nat → GcThread
  log : List Event

def GcSystem.initial : GcSystem :=
  { currentEpochId := 1, snapshotEpochId := 1, localEpochs := fun _ => LocalEpoch.initial,
    txns := [], gcThreads := fun _ => GcThread.initial, log := [] }

inductive Action where
  | advanceEpoch
  | beginTransaction (threadId : Nat) (isolation : IsolationLevelType)
  | readEpoch (txn : Nat)
  | enterEpoch (txn : Nat)
  | recycleTransaction (txn : Nat) (result : ResultType) (gcSetEmpty : Bool)
  | startScan (gc : Nat)
  | scanLocalEpoch (gc : Nat)
  | endScan (gc : Nat)
  | reclaim (gc : Nat)
  | unlink (gc : Nat)
  deriving DecidableEq, Repr

-- The worker threads registered with the epoch manager, in the order GetExpiredEpochId visits
-- local_epochs_, and the number of GC threads.
variable (threads : List Nat) (gcThreadCount : Nat)

namespace GcSystem

def setTxn (s : GcSystem) (txn : Nat) (phase : TxnPhase) : GcSystem :=
  { s with txns := s.txns.set txn phase }

def setLocalEpoch (s : GcSystem) (threadId : Nat) (le : LocalEpoch) : GcSystem :=
  { s with localEpochs := Function.update s.localEpochs threadId le }

def setGcThread (s : GcSystem) (gc : Nat) (thread : GcThread) : GcSystem :=
  { s with gcThreads := Function.update s.gcThreads gc thread }

def readEpoch (s : GcSystem) (txn threadId : Nat) (isolation : IsolationLevelType) : GcSystem :=
  let epochId :=
    if beginTimestampType isolation = .snapshotRead then s.snapshotEpochId else s.currentEpochId
  s.setTxn txn (.entering threadId isolation epochId)

-- DecentralizedEpochManager::EnterEpoch, its entry into the thread's LocalEpoch.
def enterEpoch (s : GcSystem) (txn threadId : Nat) (isolation : IsolationLevelType) (epochId : Nat) :
    GcSystem :=
  match (s.localEpochs threadId).enterEpoch epochId (beginTimestampType isolation) with
  | (le, true) =>
    { (s.setLocalEpoch threadId le).setTxn txn (.running threadId epochId (isolation = .readOnly))
      with log := s.log ++ [.entered txn] }
  | (_, false) => s.setTxn txn (.waiting threadId isolation)

-- RecycleTransaction: ExitEpoch, the epoch of an aborted writer moved to GetNextEpochId, and the
-- context queued for the GC thread HashToThread picks.
def recycleTransaction (s : GcSystem) (txn threadId epochId : Nat) (readOnly : Bool)
    (result : ResultType) (gcSetEmpty : Bool) : GcSystem :=
  let epochId' := if !readOnly && result ≠ .success && !gcSetEmpty then s.currentEpochId + 1
    else epochId
  let gc := threadId % gcThreadCount
  let thread := s.gcThreads gc
  { ((s.setLocalEpoch threadId ((s.localEpochs threadId).exitEpoch epochId)).setTxn txn .ended).setGcThread
      gc { thread with unlinkQueue := thread.unlinkQueue ++ [⟨txn, epochId', readOnly, gcSetEmpty⟩] }
    with log := s.log ++ [.recycled txn] }

end GcSystem

namespace GcThread

def reclaimed (thread : GcThread) (expired : Nat) : List (Nat × Garbage) :=
  thread.reclaimMap.takeWhile (·.1 ≤ expired)

def reclaim (thread : GcThread) (expired : Nat) : GcThread :=
  { thread with
    phase := .unlinking expired
    reclaimMap := thread.reclaimMap.dropWhile (·.1 ≤ expired) }

def unlinkOne (expired : Nat) (acc : List Garbage × List Garbage) (ctx : Garbage) :
    List Garbage × List Garbage :=
  if ctx.readOnly || ctx.gcSetEmpty then acc
  else if ctx.epochId ≤ expired then (acc.1 ++ [ctx], acc.2)
  else (acc.1, acc.2 ++ [ctx])

def unlinkGarbage (thread : GcThread) (expired : Nat) : List Garbage × List Garbage :=
  (thread.unlinkQueue.take MAX_ATTEMPT_COUNT).foldl (unlinkOne expired)
    (thread.localUnlinkQueue.filter (·.epochId ≤ expired),
      thread.localUnlinkQueue.filter fun ctx => !decide (ctx.epochId ≤ expired))

def park (currentEpochId : Nat) (map : List (Nat × Garbage)) (ctx : Garbage) :
    List (Nat × Garbage) :=
  map.orderedInsert (fun a b => a.1 < b.1) (currentEpochId, ctx)

-- Unlink: the garbage is parked under the epoch current at its end.
def unlink (thread : GcThread) (expired currentEpochId : Nat) : GcThread :=
  { phase := .idle
    unlinkQueue := thread.unlinkQueue.drop MAX_ATTEMPT_COUNT
    localUnlinkQueue := (thread.unlinkGarbage expired).2
    reclaimMap := (thread.unlinkGarbage expired).1.foldl (park currentEpochId) thread.reclaimMap }

end GcThread

namespace GcSystem

def advanceEpoch (s : GcSystem) : GcSystem := { s with currentEpochId := s.currentEpochId + 1 }

def beginTransaction (s : GcSystem) (threadId : Nat) (isolation : IsolationLevelType) : GcSystem :=
  { s with txns := s.txns ++ [.waiting threadId isolation] }

def startScan (s : GcSystem) (gc : Nat) : GcSystem :=
  s.setGcThread gc { s.gcThreads gc with phase := .scanning threads MAX_EID }

def scanLocalEpoch (s : GcSystem) (gc threadId : Nat) (rest : List Nat) (expired : Nat) :
    GcSystem :=
  let scanned := (s.localEpochs threadId).getExpiredEpochId s.currentEpochId
  (s.setLocalEpoch threadId scanned.1).setGcThread gc
    { s.gcThreads gc with phase := .scanning rest (min expired scanned.2) }

def endScan (s : GcSystem) (gc expired : Nat) : GcSystem :=
  let snapshotEpochId :=
    if expired ≠ MAX_EID ∧ expired ≥ s.snapshotEpochId then expired + 1 else s.snapshotEpochId
  { s with snapshotEpochId }.setGcThread gc
    { s.gcThreads gc with phase := if expired = MAX_EID then .idle else .reclaiming expired }

def reclaim (s : GcSystem) (gc expired : Nat) : GcSystem :=
  { s.setGcThread gc ((s.gcThreads gc).reclaim expired) with
    log := s.log ++ ((s.gcThreads gc).reclaimed expired).map fun entry => .reclaimed entry.2.txn }

def unlink (s : GcSystem) (gc expired : Nat) : GcSystem :=
  s.setGcThread gc ((s.gcThreads gc).unlink expired s.currentEpochId)

end GcSystem

def step (s : GcSystem) : Action → Option GcSystem
  | .advanceEpoch => some s.advanceEpoch
  | .beginTransaction threadId isolation =>
    if threadId ∈ threads then some (s.beginTransaction threadId isolation) else none
  | .readEpoch txn =>
    match s.txns[txn]? with
    | some (.waiting threadId isolation) => some (s.readEpoch txn threadId isolation)
    | _ => none
  | .enterEpoch txn =>
    match s.txns[txn]? with
    | some (.entering threadId isolation epochId) => some (s.enterEpoch txn threadId isolation epochId)
    | _ => none
  | .recycleTransaction txn result gcSetEmpty =>
    match s.txns[txn]? with
    | some (.running threadId epochId readOnly) =>
      some (s.recycleTransaction gcThreadCount txn threadId epochId readOnly result gcSetEmpty)
    | _ => none
  | .startScan gc =>
    if gc < gcThreadCount ∧ (s.gcThreads gc).phase = .idle then some (s.startScan threads gc)
    else none
  | .scanLocalEpoch gc =>
    match (s.gcThreads gc).phase with
    | .scanning (threadId :: rest) expired => some (s.scanLocalEpoch gc threadId rest expired)
    | _ => none
  | .endScan gc =>
    match (s.gcThreads gc).phase with
    | .scanning [] expired => some (s.endScan gc expired)
    | _ => none
  | .reclaim gc =>
    match (s.gcThreads gc).phase with
    | .reclaiming expired => some (s.reclaim gc expired)
    | _ => none
  | .unlink gc =>
    match (s.gcThreads gc).phase with
    | .unlinking expired => some (s.unlink gc expired)
    | _ => none

-- The transitions of the system, one constructor per action with the guard it needs.
inductive Transition (s : GcSystem) : GcSystem → Prop where
  | advanceEpoch : Transition s s.advanceEpoch
  | beginTransaction {threadId : Nat} {isolation : IsolationLevelType} :
      threadId ∈ threads → Transition s (s.beginTransaction threadId isolation)
  | readEpoch {txn threadId : Nat} {isolation : IsolationLevelType} :
      s.txns[txn]? = some (.waiting threadId isolation) →
      Transition s (s.readEpoch txn threadId isolation)
  | enterEpoch {txn threadId epochId : Nat} {isolation : IsolationLevelType} :
      s.txns[txn]? = some (.entering threadId isolation epochId) →
      Transition s (s.enterEpoch txn threadId isolation epochId)
  | recycleTransaction {txn threadId epochId : Nat} {readOnly : Bool} (result : ResultType)
      (gcSetEmpty : Bool) : s.txns[txn]? = some (.running threadId epochId readOnly) →
      Transition s (s.recycleTransaction gcThreadCount txn threadId epochId readOnly result gcSetEmpty)
  | startScan {gc : Nat} : (s.gcThreads gc).phase = .idle → Transition s (s.startScan threads gc)
  | scanLocalEpoch {gc threadId : Nat} {rest : List Nat} {expired : Nat} :
      (s.gcThreads gc).phase = .scanning (threadId :: rest) expired →
      Transition s (s.scanLocalEpoch gc threadId rest expired)
  | endScan {gc expired : Nat} :
      (s.gcThreads gc).phase = .scanning [] expired → Transition s (s.endScan gc expired)
  | reclaim {gc expired : Nat} :
      (s.gcThreads gc).phase = .reclaiming expired → Transition s (s.reclaim gc expired)
  | unlink {gc expired : Nat} :
      (s.gcThreads gc).phase = .unlinking expired → Transition s (s.unlink gc expired)

theorem transition_of_step {s s' : GcSystem} {a : Action} (h : step threads gcThreadCount s a = some s') :
    Transition threads gcThreadCount s s' := by
  cases a with
  | advanceEpoch =>
    cases h
    exact .advanceEpoch
  | beginTransaction threadId isolation =>
    simp only [step] at h
    split at h
    · next registered => cases h; exact .beginTransaction registered
    · cases h
  | readEpoch txn =>
    simp only [step] at h
    split at h
    · next found => cases h; exact .readEpoch found
    · cases h
  | enterEpoch txn =>
    simp only [step] at h
    split at h
    · next found => cases h; exact .enterEpoch found
    · cases h
  | recycleTransaction txn result gcSetEmpty =>
    simp only [step] at h
    split at h
    · next found => cases h; exact .recycleTransaction result gcSetEmpty found
    · cases h
  | startScan gc =>
    simp only [step] at h
    split at h
    · next guard => cases h; exact .startScan guard.2
    · cases h
  | scanLocalEpoch gc =>
    simp only [step] at h
    split at h
    · next scanning => cases h; exact .scanLocalEpoch scanning
    · cases h
  | endScan gc =>
    simp only [step] at h
    split at h
    · next scanning => cases h; exact .endScan scanning
    · cases h
  | reclaim gc =>
    simp only [step] at h
    split at h
    · next reclaiming => cases h; exact .reclaim reclaiming
    · cases h
  | unlink gc =>
    simp only [step] at h
    split at h
    · next unlinking => cases h; exact .unlink unlinking
    · cases h

def Reachable : GcSystem → Prop :=
  TransitionSystem.Reachable GcSystem.initial (step threads gcThreadCount)

end Peloton.Gc
