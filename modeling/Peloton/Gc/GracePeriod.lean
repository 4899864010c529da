import Peloton.Gc.EpochInvariant
import Peloton.Lib.History

set_option autoImplicit false

namespace Peloton.Gc

open Concurrency LocalEpoch History

/-! What the two-phase hand-off of TransactionLevelGCManager is for: the slots of a recycled
context are reset only after every transaction that entered its epoch before the context was
recycled has left its epoch. -/

def GracePeriod (log : List Event) : Prop :=
  ∀ x y, Event.reclaimed x ∈ log → Before log (.entered y) (.recycled x) →
    Before log (.recycled y) (.reclaimed x)

def GcPhase.Below (threadId epochId : Nat) : GcPhase → Prop
  | .scanning remaining expired => threadId ∉ remaining → expired < epochId
  | .reclaiming expired => expired < epochId
  | _ => True

def Waits (s : GcSystem) (gc : Nat) : Prop :=
  ∀ p ctx, (p, ctx) ∈ (s.gcThreads gc).reclaimMap → ∀ y,
    Before s.log (.entered y) (.recycled ctx.txn) → Event.recycled y ∉ s.log →
      ∃ t e readOnly, s.txns[y]? = some (.running t e readOnly) ∧ e ≤ p ∧
        (s.gcThreads gc).phase.Below t e

structure GraceInv (s : GcSystem) : Prop where
  waits : ∀ gc, Waits s gc
  reclaimed_recycled : ∀ x, Event.reclaimed x ∈ s.log → Event.recycled x ∈ s.log
  grace : GracePeriod s.log

theorem graceInv_initial : GraceInv GcSystem.initial where
  waits _ _ _ mem := by simp [GcSystem.initial, GcThread.initial] at mem
  reclaimed_recycled _ mem := by simp [GcSystem.initial] at mem
  grace _ _ mem := by simp [GcSystem.initial] at mem

variable {threads : List Nat} {gcThreadCount : Nat} {s : GcSystem}

theorem Waits.keep {gc : Nat} {s' : GcSystem} (h : Waits s gc) {later : List Event}
    (log : s'.log = s.log ++ later) (no_recycled : ∀ x, Event.recycled x ∉ later)
    (thread : s'.gcThreads gc = s.gcThreads gc)
    (running : ∀ (y t e : Nat) (readOnly : Bool), s.txns[y]? = some (.running t e readOnly) →
      s'.txns[y]? = some (TxnPhase.running t e readOnly)) : Waits s' gc := by
  intro p ctx parked y before not_recycled
  rw [thread] at parked ⊢
  rw [log, before_append_iff_of_not_mem (no_recycled _)] at before
  rw [log, List.mem_append, not_or] at not_recycled
  obtain ⟨t, e, readOnly, found, le_p, below⟩ := h p ctx parked y before not_recycled.1
  exact ⟨t, e, readOnly, running y t e readOnly found, le_p, below⟩

theorem GracePeriod.extend {log later : List Event} (h : GracePeriod log)
    (no_recycled : ∀ x, Event.recycled x ∉ later) (no_reclaimed : ∀ x, Event.reclaimed x ∉ later) :
    GracePeriod (log ++ later) := by
  intro x y reclaimed before
  rw [before_append_iff_of_not_mem (no_recycled x)] at before
  have reclaimed : Event.reclaimed x ∈ log :=
    (List.mem_append.mp reclaimed).resolve_right (no_reclaimed x)
  exact (h x y reclaimed before).append later

theorem running_set {txns : List TxnPhase} {txn : Nat} {old new : TxnPhase}
    (found : txns[txn]? = some old) (not_running : ∀ t e readOnly, old ≠ TxnPhase.running t e readOnly)
    {y t e : Nat} {readOnly : Bool} (running : txns[y]? = some (.running t e readOnly)) :
    (txns.set txn new)[y]? = some (.running t e readOnly) := by
  rw [getElem?_set_of_getElem? found]
  split
  · next same =>
    subst same
    exact absurd (Option.some.inj (found.symm.trans running)) (not_running t e readOnly)
  · exact running

theorem GraceInv.keep {s' : GcSystem} (h : GraceInv s) {later : List Event}
    (log : s'.log = s.log ++ later) (no_recycled : ∀ x, Event.recycled x ∉ later)
    (no_reclaimed : ∀ x, Event.reclaimed x ∉ later) (threads : s'.gcThreads = s.gcThreads)
    (running : ∀ (y t e : Nat) (readOnly : Bool), s.txns[y]? = some (.running t e readOnly) →
      s'.txns[y]? = some (TxnPhase.running t e readOnly)) : GraceInv s' where
  waits gc := (h.waits gc).keep log no_recycled (by rw [threads]) running
  reclaimed_recycled x reclaimed := by
    rw [log, List.mem_append] at reclaimed ⊢
    exact .inl (h.reclaimed_recycled x (reclaimed.resolve_right (no_reclaimed x)))
  grace := log ▸ h.grace.extend no_recycled no_reclaimed

theorem GraceInv.advanceEpoch (h : GraceInv s) : GraceInv s.advanceEpoch :=
  h.keep (List.append_nil _).symm (by simp) (by simp) rfl fun _ _ _ _ found => found

theorem GraceInv.beginTransaction (h : GraceInv s) (threadId : Nat)
    (isolation : IsolationLevelType) : GraceInv (s.beginTransaction threadId isolation) :=
  h.keep (List.append_nil _).symm (by simp) (by simp) rfl fun y t e readOnly found => by
    simp only [GcSystem.beginTransaction, getElem?_append_singleton]
    split
    · next new =>
      subst new
      simp at found
    · exact found

theorem GraceInv.readEpoch (h : GraceInv s) {txn threadId : Nat} {isolation : IsolationLevelType}
    (found : s.txns[txn]? = some (.waiting threadId isolation)) :
    GraceInv (s.readEpoch txn threadId isolation) :=
  h.keep (List.append_nil _).symm (by simp) (by simp) rfl fun _ _ _ _ running =>
    running_set found (fun _ _ _ => by simp) running

theorem GraceInv.enterEpoch (h : GraceInv s) {txn threadId epochId : Nat}
    {isolation : IsolationLevelType}
    (found : s.txns[txn]? = some (.entering threadId isolation epochId)) :
    GraceInv (s.enterEpoch txn threadId isolation epochId) := by
  have kept : ∀ new : TxnPhase, ∀ (y t e : Nat) (readOnly : Bool),
      s.txns[y]? = some (.running t e readOnly) →
        (s.txns.set txn new)[y]? = some (TxnPhase.running t e readOnly) :=
    fun _ _ _ _ _ running => running_set found (fun _ _ _ => by simp) running
  unfold GcSystem.enterEpoch
  split
  · -- the log gains the entry, which no pair of the grace period ends in
    exact h.keep rfl (by simp) (by simp) rfl (kept _)
  · exact h.keep (List.append_nil _).symm (by simp) (by simp) rfl (kept _)

theorem GraceInv.recycleTransaction (h : GraceInv s) (inv : EpochInv threads s)
    {txn threadId epochId : Nat} {readOnly : Bool}
    (found : s.txns[txn]? = some (.running threadId epochId readOnly)) (result : ResultType)
    (gcSetEmpty : Bool) :
    GraceInv (s.recycleTransaction gcThreadCount txn threadId epochId readOnly result gcSetEmpty) := by
  -- the transaction was not recycled yet, so no context held or reclaimed is its own
  have fresh : Event.recycled txn ∉ s.log := by
    rw [inv.recycled_iff, found]
    simp
  have not_reclaimed : Event.reclaimed txn ∉ s.log :=
    fun reclaimed => fresh (h.reclaimed_recycled txn reclaimed)
  -- queuing the context changes no GC thread's phase or parked contexts
  have thread_eq : ∀ gc,
      ((s.recycleTransaction gcThreadCount txn threadId epochId readOnly result gcSetEmpty).gcThreads
        gc).phase = (s.gcThreads gc).phase ∧
      ((s.recycleTransaction gcThreadCount txn threadId epochId readOnly result gcSetEmpty).gcThreads
        gc).reclaimMap = (s.gcThreads gc).reclaimMap := by
    intro gc
    unfold GcSystem.recycleTransaction
    by_cases same : gc = threadId % gcThreadCount
    · subst same
      simp
    · simp [Function.update_of_ne same]
  have log_eq : (s.recycleTransaction gcThreadCount txn threadId epochId readOnly result
      gcSetEmpty).log = s.log ++ [.recycled txn] := rfl
  have txns_eq : (s.recycleTransaction gcThreadCount txn threadId epochId readOnly result
      gcSetEmpty).txns = (s.txns.set txn .ended) := rfl
  refine ⟨?_, ?_, ?_⟩
  · intro gc p ctx parked y before not_recycled
    rw [(thread_eq gc).2] at parked
    rw [(thread_eq gc).1, txns_eq]
    rw [log_eq] at before not_recycled
    have ctx_recycled := inv.held_recycled gc ctx (.inr (.inr ⟨p, parked⟩))
    have before : Before s.log (.entered y) (.recycled ctx.txn) := by
      rcases before_append_singleton_iff.mp before with before | ⟨-, same⟩
      · exact before
      · exact absurd (Event.recycled.inj same ▸ ctx_recycled) fresh
    have not_recycled : Event.recycled y ∉ s.log ∧ y ≠ txn := by simpa using not_recycled
    obtain ⟨t, e, readOnly', found_y, le_p, below⟩ :=
      h.waits gc p ctx parked y before not_recycled.1
    refine ⟨t, e, readOnly', ?_, le_p, below⟩
    rw [List.getElem?_set_ne (Ne.symm not_recycled.2)]
    exact found_y
  · intro x reclaimed
    rw [log_eq] at reclaimed ⊢
    have reclaimed : Event.reclaimed x ∈ s.log := by simpa using reclaimed
    exact List.mem_append_left _ (h.reclaimed_recycled x reclaimed)
  · intro x y reclaimed before
    rw [log_eq] at reclaimed before ⊢
    have reclaimed : Event.reclaimed x ∈ s.log := by simpa using reclaimed
    rcases before_append_singleton_iff.mp before with before | ⟨-, same⟩
    · exact (h.grace x y reclaimed before).append _
    · exact absurd (Event.recycled.inj same ▸ reclaimed) not_reclaimed

theorem GraceInv.setGcThread (h : GraceInv s) {gc : Nat} {thread : GcThread}
    (waits : Waits (s.setGcThread gc thread) gc) : GraceInv (s.setGcThread gc thread) where
  waits gc' := by
    by_cases same : gc' = gc
    · exact same ▸ waits
    · exact (h.waits gc').keep (List.append_nil _).symm (by simp) (by simp [same])
        fun _ _ _ _ found => found
  reclaimed_recycled := h.reclaimed_recycled
  grace := h.grace

theorem GraceInv.startScan (h : GraceInv s) (inv : EpochInv threads s) (gc : Nat) :
    GraceInv (s.startScan threads gc) := by
  refine h.setGcThread ?_
  intro p ctx parked y before not_recycled
  simp only [GcSystem.setGcThread_gcThreads, Function.update_self] at parked ⊢
  obtain ⟨t, e, readOnly, found, le_p, -⟩ := h.waits gc p ctx parked y before not_recycled
  -- a scan starts with every registered thread left to visit
  exact ⟨t, e, readOnly, found, le_p, fun unvisited => absurd (inv.phases y _ found).1 unvisited⟩

theorem GraceInv.scanLocalEpoch (h : GraceInv s) (inv : EpochInv threads s)
    {gc threadId : Nat} {rest : List Nat} {expired : Nat}
    (scanning : (s.gcThreads gc).phase = .scanning (threadId :: rest) expired) :
    GraceInv (s.scanLocalEpoch gc threadId rest expired) := by
  have scanned : GraceInv (s.setLocalEpoch threadId
      ((s.localEpochs threadId).getExpiredEpochId s.currentEpochId).1) :=
    h.keep (List.append_nil _).symm (by simp) (by simp) rfl fun _ _ _ _ found => found
  refine scanned.setGcThread ?_
  intro p ctx parked y before not_recycled
  simp only [GcSystem.setGcThread_gcThreads, Function.update_self, GcSystem.setLocalEpoch_gcThreads,
    GcSystem.setGcThread_log, GcSystem.setLocalEpoch_log, GcSystem.setGcThread_txns,
    GcSystem.setLocalEpoch_txns] at parked before not_recycled ⊢
  obtain ⟨t, e, readOnly, found, le_p, below⟩ := h.waits gc p ctx parked y before not_recycled
  simp only [scanning, GcPhase.Below] at below
  refine ⟨t, e, readOnly, found, le_p, fun unvisited => ?_⟩
  by_cases visited_now : t = threadId
  · subst visited_now
    -- the transaction is counted in its epoch, so the thread reports an epoch below it
    have pos : 0 < txnCountOf (s.localEpochs t).epochQueue e := by
      rw [inv.counts]
      exact one_le_countP_of_getElem? found (by simp [TxnPhase.runsIn])
    exact lt_of_le_of_lt (min_le_right _ _) (getExpiredEpochId_lt (inv.wellFormed t) _ pos)
  · exact lt_of_le_of_lt (min_le_left _ _) (below (by simp [visited_now, unvisited]))

theorem GraceInv.endScan (h : GraceInv s) {gc expired : Nat}
    (scanning : (s.gcThreads gc).phase = .scanning [] expired) :
    GraceInv (s.endScan gc expired) := by
  have snapshot : GraceInv { s with
      snapshotEpochId :=
        if expired ≠ MAX_EID ∧ expired ≥ s.snapshotEpochId then expired + 1 else s.snapshotEpochId } :=
    h.keep (List.append_nil _).symm (by simp) (by simp) rfl fun _ _ _ _ found => found
  refine snapshot.setGcThread ?_
  intro p ctx parked y before not_recycled
  simp only [GcSystem.setGcThread_gcThreads, Function.update_self, GcSystem.setGcThread_log,
    GcSystem.setGcThread_txns] at parked before not_recycled ⊢
  obtain ⟨t, e, readOnly, found, le_p, below⟩ := h.waits gc p ctx parked y before not_recycled
  -- the scan has visited every thread, so its minimum is below the epoch
  simp only [scanning, GcPhase.Below, List.not_mem_nil, not_false_eq_true, forall_const] at below
  refine ⟨t, e, readOnly, found, le_p, ?_⟩
  split
  · trivial
  · exact below

theorem running_of_entered (inv : EpochInv threads s) {y : Nat} (entered : Event.entered y ∈ s.log)
    (not_recycled : Event.recycled y ∉ s.log) :
    ∃ t e readOnly, s.txns[y]? = some (.running t e readOnly) ∧ e ≤ s.currentEpochId := by
  rw [inv.entered_iff] at entered
  rw [inv.recycled_iff] at not_recycled
  cases found : s.txns[y]? with
  | none => simp [found] at entered
  | some phase =>
    cases phase with
    | waiting => simp [found, TxnPhase.started] at entered
    | entering => simp [found, TxnPhase.started] at entered
    | running t e readOnly => exact ⟨t, e, readOnly, rfl, (inv.phases y _ found).2⟩
    | ended => exact absurd found not_recycled

theorem GraceInv.reclaim (h : GraceInv s) (inv : EpochInv threads s) {gc expired : Nat}
    (reclaiming : (s.gcThreads gc).phase = .reclaiming expired) :
    GraceInv (s.reclaim gc expired) := by
  have no_recycled : ∀ x, Event.recycled x ∉
      ((s.gcThreads gc).reclaimed expired).map fun entry => Event.reclaimed entry.2.txn := by simp
  -- a reclaimed context was parked under an epoch at or below the expired one
  have parked_of : ∀ x, Event.reclaimed x ∈
      ((s.gcThreads gc).reclaimed expired).map (fun entry => Event.reclaimed entry.2.txn) →
      ∃ p ctx, (p, ctx) ∈ (s.gcThreads gc).reclaimMap ∧ p ≤ expired ∧ ctx.txn = x := by
    intro x mem
    obtain ⟨⟨p, ctx⟩, mem, same⟩ := List.mem_map.mp mem
    have : p ≤ expired := by simpa using List.mem_takeWhile_imp mem
    exact ⟨p, ctx, (List.takeWhile_prefix _).subset mem, this, Event.reclaimed.inj same⟩
  refine ⟨?_, ?_, ?_⟩
  · intro gc' p ctx parked y before not_recycled
    simp only [GcSystem.reclaim, GcSystem.setGcThread_gcThreads, GcSystem.setGcThread_txns,
      before_append_iff_of_not_mem (no_recycled _), List.mem_append, not_or]
      at parked before not_recycled ⊢
    by_cases same : gc' = gc
    · subst same
      simp only [Function.update_self, GcThread.reclaim] at parked ⊢
      obtain ⟨t, e, readOnly, found, le_p, -⟩ :=
        h.waits gc' p ctx ((List.dropWhile_suffix _).subset parked) y before not_recycled.1
      exact ⟨t, e, readOnly, found, le_p, trivial⟩
    · simp only [Function.update_of_ne same] at parked ⊢
      exact h.waits gc' p ctx parked y before not_recycled.1
  · intro x reclaimed
    simp only [GcSystem.reclaim, List.mem_append] at reclaimed ⊢
    rcases reclaimed with old | new
    · exact .inl (h.reclaimed_recycled x old)
    · obtain ⟨p, ctx, parked, -, rfl⟩ := parked_of x new
      exact .inl (inv.held_recycled gc ctx (.inr (.inr ⟨p, parked⟩)))
  · intro x y reclaimed before
    simp only [GcSystem.reclaim, before_append_iff_of_not_mem (no_recycled _)] at before ⊢
    rcases List.mem_append.mp reclaimed with old | new
    · exact (h.grace x y old before).append _
    · obtain ⟨p, ctx, parked, le_expired, rfl⟩ := parked_of _ new
      by_cases recycled : Event.recycled y ∈ s.log
      · exact before_append_of_mem recycled new
      · -- a transaction still running would keep the expired epoch below its own
        obtain ⟨t, e, readOnly, -, le_p, below⟩ := h.waits gc p ctx parked y before recycled
        simp only [reclaiming, GcPhase.Below] at below
        omega

theorem GraceInv.unlink (h : GraceInv s) (inv : EpochInv threads s) {gc expired : Nat} :
    GraceInv (s.unlink gc expired) := by
  refine h.setGcThread ?_
  intro p ctx parked y before not_recycled
  simp only [GcSystem.setGcThread_gcThreads, Function.update_self, GcSystem.setGcThread_log,
    GcSystem.setGcThread_txns] at parked before not_recycled ⊢
  rcases GcThread.mem_unlink_reclaimMap parked with old | ⟨now, -⟩
  · obtain ⟨t, e, readOnly, found, le_p, -⟩ := h.waits gc p ctx old y before not_recycled
    exact ⟨t, e, readOnly, found, le_p, trivial⟩
  · -- a context parked now waits under the current epoch, past every running transaction's
    obtain ⟨t, e, readOnly, found, le_current⟩ :=
      running_of_entered inv before.mem_left not_recycled
    exact ⟨t, e, readOnly, found, (show p = s.currentEpochId from now) ▸ le_current, trivial⟩

theorem GraceInv.step (h : GraceInv s) (inv : EpochInv threads s) {s' : GcSystem}
    (transition : Transition threads gcThreadCount s s') : GraceInv s' := by
  cases transition with
  | advanceEpoch => exact h.advanceEpoch
  | beginTransaction => exact h.beginTransaction _ _
  | readEpoch found => exact h.readEpoch found
  | enterEpoch found => exact h.enterEpoch found
  | recycleTransaction result gcSetEmpty found => exact h.recycleTransaction inv found result gcSetEmpty
  | startScan => exact h.startScan inv _
  | scanLocalEpoch scanning => exact h.scanLocalEpoch inv scanning
  | endScan scanning => exact h.endScan scanning
  | reclaim reclaiming => exact h.reclaim inv reclaiming
  | unlink => exact h.unlink inv

theorem graceInv_of_reachable (hs : Reachable threads gcThreadCount s) : GraceInv s := by
  have initial : EpochInv threads GcSystem.initial ∧ GraceInv GcSystem.initial :=
    ⟨epochInv_initial threads, graceInv_initial⟩
  -- the grace invariant rests on the epoch invariant of the same state
  have preserved : ∀ s s' a, EpochInv threads s ∧ GraceInv s →
      step threads gcThreadCount s a = some s' → EpochInv threads s' ∧ GraceInv s' := by
    intro s s' a h hstep
    have transition := transition_of_step threads gcThreadCount hstep
    exact ⟨h.1.step gcThreadCount transition, h.2.step h.1 transition⟩
  exact (@TransitionSystem.Reachable.invariant GcSystem Action GcSystem.initial
    (step threads gcThreadCount) (fun s => EpochInv threads s ∧ GraceInv s) initial preserved s hs).2

-- The slots of a recycled context are reset only after every transaction that entered its epoch
-- before the context was recycled has been recycled too, and so has left its epoch.
theorem reclaim_follows_recycle_of_earlier_txns (hs : Reachable threads gcThreadCount s)
    {x y : Nat} (reclaimed : Event.reclaimed x ∈ s.log)
    (before : Before s.log (.entered y) (.recycled x)) :
    Before s.log (.recycled y) (.reclaimed x) :=
  (graceInv_of_reachable hs).grace x y reclaimed before

def recycleBeforeReclaim : List Action :=
  [.beginTransaction 0 .serializable, .readEpoch 0, .enterEpoch 0,
    .beginTransaction 0 .serializable, .readEpoch 1, .enterEpoch 1,
    .recycleTransaction 0 .success false, .recycleTransaction 1 .success true,
    .advanceEpoch, .startScan 0, .scanLocalEpoch 0, .endScan 0, .reclaim 0, .unlink 0,
    .advanceEpoch, .startScan 0, .scanLocalEpoch 0, .endScan 0, .reclaim 0]

def recycleBeforeReclaimState : GcSystem :=
  (TransitionSystem.run (step [0] 1) GcSystem.initial recycleBeforeReclaim).getD GcSystem.initial

theorem recycleBeforeReclaimState_reachable : Reachable [0] 1 recycleBeforeReclaimState :=
  TransitionSystem.reachable_of_run recycleBeforeReclaim rfl

theorem reclaim_follows_recycle_of_earlier_txns_run :
    Event.reclaimed 0 ∈ recycleBeforeReclaimState.log ∧
      Before recycleBeforeReclaimState.log (.entered 1) (.recycled 0) ∧
      Before recycleBeforeReclaimState.log (.recycled 1) (.reclaimed 0) :=
  ⟨by decide, by decide,
    reclaim_follows_recycle_of_earlier_txns recycleBeforeReclaimState_reachable (by decide) (by decide)⟩

end Peloton.Gc
