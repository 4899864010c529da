import Peloton.Gc.TransactionLevelGcManager

set_option autoImplicit false

namespace Peloton.Gc

open Concurrency LocalEpoch

namespace GcSystem

variable (s : GcSystem)

@[simp] theorem setTxn_txns (txn : Nat) (phase : TxnPhase) :
    (s.setTxn txn phase).txns = s.txns.set txn phase := rfl
@[simp] theorem setTxn_localEpochs (txn : Nat) (phase : TxnPhase) :
    (s.setTxn txn phase).localEpochs = s.localEpochs := rfl
@[simp] theorem setTxn_gcThreads (txn : Nat) (phase : TxnPhase) :
    (s.setTxn txn phase).gcThreads = s.gcThreads := rfl
@[simp] theorem setTxn_log (txn : Nat) (phase : TxnPhase) : (s.setTxn txn phase).log = s.log := rfl
@[simp] theorem setTxn_currentEpochId (txn : Nat) (phase : TxnPhase) :
    (s.setTxn txn phase).currentEpochId = s.currentEpochId := rfl
@[simp] theorem setTxn_snapshotEpochId (txn : Nat) (phase : TxnPhase) :
    (s.setTxn txn phase).snapshotEpochId = s.snapshotEpochId := rfl

@[simp] theorem setLocalEpoch_localEpochs (threadId : Nat) (le : LocalEpoch) :
    (s.setLocalEpoch threadId le).localEpochs = Function.update s.localEpochs threadId le := rfl
@[simp] theorem setLocalEpoch_txns (threadId : Nat) (le : LocalEpoch) :
    (s.setLocalEpoch threadId le).txns = s.txns := rfl
@[simp] theorem setLocalEpoch_gcThreads (threadId : Nat) (le : LocalEpoch) :
    (s.setLocalEpoch threadId le).gcThreads = s.gcThreads := rfl
@[simp] theorem setLocalEpoch_log (threadId : Nat) (le : LocalEpoch) :
    (s.setLocalEpoch threadId le).log = s.log := rfl
@[simp] theorem setLocalEpoch_currentEpochId (threadId : Nat) (le : LocalEpoch) :
    (s.setLocalEpoch threadId le).currentEpochId = s.currentEpochId := rfl
@[simp] theorem setLocalEpoch_snapshotEpochId (threadId : Nat) (le : LocalEpoch) :
    (s.setLocalEpoch threadId le).snapshotEpochId = s.snapshotEpochId := rfl

@[simp] theorem setGcThread_gcThreads (gc : Nat) (thread : GcThread) :
    (s.setGcThread gc thread).gcThreads = Function.update s.gcThreads gc thread := rfl
@[simp] theorem setGcThread_txns (gc : Nat) (thread : GcThread) :
    (s.setGcThread gc thread).txns = s.txns := rfl
@[simp] theorem setGcThread_localEpochs (gc : Nat) (thread : GcThread) :
    (s.setGcThread gc thread).localEpochs = s.localEpochs := rfl
@[simp] theorem setGcThread_log (gc : Nat) (thread : GcThread) :
    (s.setGcThread gc thread).log = s.log := rfl
@[simp] theorem setGcThread_currentEpochId (gc : Nat) (thread : GcThread) :
    (s.setGcThread gc thread).currentEpochId = s.currentEpochId := rfl
@[simp] theorem setGcThread_snapshotEpochId (gc : Nat) (thread : GcThread) :
    (s.setGcThread gc thread).snapshotEpochId = s.snapshotEpochId := rfl

end GcSystem

theorem getElem?_append_singleton {α : Type} (l : List α) (a : α) (i : Nat) :
    (l ++ [a])[i]? = if i = l.length then some a else l[i]? := by
  rw [List.getElem?_append]
  split
  · next lt => simp [Nat.ne_of_lt lt]
  · next ge =>
    by_cases same : i = l.length
    · simp [same]
    · have beyond : [a].length ≤ i - l.length := by simp; omega
      rw [if_neg same, List.getElem?_eq_none beyond, List.getElem?_eq_none (by omega)]

theorem getElem?_set_of_getElem? {α : Type} {l : List α} {i : Nat} {old : α} (h : l[i]? = some old)
    (new : α) (j : Nat) : (l.set i new)[j]? = if j = i then some new else l[j]? := by
  obtain ⟨lt, -⟩ := List.getElem_of_getElem? h
  rw [List.getElem?_set]
  by_cases same : j = i
  · simp [same, lt]
  · simp [same, Ne.symm same]

theorem countP_set_of_getElem? {α : Type} {l : List α} {i : Nat} {old : α} (h : l[i]? = some old)
    (new : α) (p : α → Bool) :
    (l.set i new).countP p = l.countP p - (if p old then 1 else 0) + (if p new then 1 else 0) := by
  obtain ⟨lt, rfl⟩ := List.getElem_of_getElem? h
  exact List.countP_set lt

theorem one_le_countP_of_getElem? {α : Type} {l : List α} {i : Nat} {a : α} (h : l[i]? = some a)
    {p : α → Bool} (pa : p a = true) : 1 ≤ l.countP p :=
  List.countP_pos_iff.mpr ⟨a, List.mem_of_getElem? h, pa⟩

namespace GcThread

theorem mem_foldl_unlinkOne {expired : Nat} {ctx : Garbage} (queue : List Garbage) :
    ∀ acc : List Garbage × List Garbage,
      (ctx ∈ (queue.foldl (unlinkOne expired) acc).1 ∨ ctx ∈ (queue.foldl (unlinkOne expired) acc).2) →
      ctx ∈ acc.1 ∨ ctx ∈ acc.2 ∨ ctx ∈ queue := by
  induction queue with
  | nil => intro acc h; exact h.imp_right .inl
  | cons head rest ih =>
    intro acc h
    -- what one step adds is the head, and the rest comes from the queue's tail
    have one : ctx ∈ (unlinkOne expired acc head).1 ∨ ctx ∈ (unlinkOne expired acc head).2 →
        ctx ∈ acc.1 ∨ ctx ∈ acc.2 ∨ ctx = head := by
      unfold unlinkOne
      split
      · exact fun mem => mem.elim .inl (.inr ∘ .inl)
      · split
        · intro mem
          simp only [List.mem_append, List.mem_singleton] at mem
          tauto
        · intro mem
          simp only [List.mem_append, List.mem_singleton] at mem
          tauto
    have from_step : ctx ∈ (unlinkOne expired acc head).1 ∨ ctx ∈ (unlinkOne expired acc head).2 →
        ctx ∈ acc.1 ∨ ctx ∈ acc.2 ∨ ctx ∈ head :: rest := by
      intro mem
      rcases one mem with mem | mem | rfl
      · exact .inl mem
      · exact .inr (.inl mem)
      · exact .inr (.inr List.mem_cons_self)
    rcases ih _ h with mem | mem | mem
    · exact from_step (.inl mem)
    · exact from_step (.inr mem)
    · exact .inr (.inr (List.mem_cons_of_mem head mem))

theorem mem_unlinkGarbage {thread : GcThread} {expired : Nat} {ctx : Garbage}
    (h : ctx ∈ (thread.unlinkGarbage expired).1 ∨ ctx ∈ (thread.unlinkGarbage expired).2) :
    ctx ∈ thread.localUnlinkQueue ∨ ctx ∈ thread.unlinkQueue := by
  rcases mem_foldl_unlinkOne _ _ h with mem | mem | mem
  · exact .inl (List.mem_filter.mp mem).1
  · exact .inl (List.mem_filter.mp mem).1
  · exact .inr (List.mem_of_mem_take mem)

theorem mem_foldl_park {current : Nat} {entry : Nat × Garbage} (garbages : List Garbage) :
    ∀ map : List (Nat × Garbage), entry ∈ garbages.foldl (park current) map →
      entry ∈ map ∨ (entry.1 = current ∧ entry.2 ∈ garbages) := by
  induction garbages with
  | nil => intro map h; exact .inl h
  | cons ctx rest ih =>
    intro map h
    rcases ih _ h with mem | parked
    · rcases (List.mem_orderedInsert _).mp mem with rfl | mem
      · exact .inr ⟨rfl, List.mem_cons_self⟩
      · exact .inl mem
    · exact .inr ⟨parked.1, List.mem_cons_of_mem ctx parked.2⟩

theorem mem_unlink_reclaimMap {thread : GcThread} {expired current : Nat} {entry : Nat × Garbage}
    (h : entry ∈ (thread.unlink expired current).reclaimMap) :
    entry ∈ thread.reclaimMap ∨
      (entry.1 = current ∧ (entry.2 ∈ thread.localUnlinkQueue ∨ entry.2 ∈ thread.unlinkQueue)) :=
  (mem_foldl_park _ _ h).imp_right fun parked => ⟨parked.1, mem_unlinkGarbage (.inl parked.2)⟩

end GcThread

def TxnPhase.runsIn (threadId epochId : Nat) : TxnPhase → Bool
  | .running t e _ => t == threadId && e == epochId
  | _ => false

def TxnPhase.started : TxnPhase → Bool
  | .running .. | .ended => true
  | _ => false

variable (threads : List Nat) (gcThreadCount : Nat)

def TxnPhase.Sound (currentEpochId : Nat) : TxnPhase → Prop
  | .waiting threadId _ => threadId ∈ threads
  | .entering threadId _ epochId => threadId ∈ threads ∧ 0 < epochId ∧ epochId ≤ currentEpochId
  | .running threadId epochId _ => threadId ∈ threads ∧ epochId ≤ currentEpochId
  | .ended => True

def GcPhase.Sound (currentEpochId : Nat) : GcPhase → Prop
  | .scanning _ expired => expired = MAX_EID ∨ expired < currentEpochId
  | _ => True

-- The contexts a GC thread holds, queued or parked.
def GcThread.Holds (thread : GcThread) (ctx : Garbage) : Prop :=
  ctx ∈ thread.unlinkQueue ∨ ctx ∈ thread.localUnlinkQueue ∨ ∃ p, (p, ctx) ∈ thread.reclaimMap

-- The invariant of every reachable state: the epoch manager's bounds, each LocalEpoch well formed
-- and counting exactly the transactions running in it, and the log in step with the phases.
structure EpochInv (s : GcSystem) : Prop where
  current_pos : 0 < s.currentEpochId
  snapshot_pos : 0 < s.snapshotEpochId
  snapshot_le : s.snapshotEpochId ≤ s.currentEpochId
  wellFormed : ∀ t : Nat, (s.localEpochs t).WellFormed
  bounded : ∀ t : Nat, (s.localEpochs t).Bounded s.currentEpochId
  counts : ∀ t e : Nat, txnCountOf (s.localEpochs t).epochQueue e = s.txns.countP (TxnPhase.runsIn t e)
  phases : ∀ (txn : Nat) (phase : TxnPhase), s.txns[txn]? = some phase →
    phase.Sound threads s.currentEpochId
  scans : ∀ gc : Nat, (s.gcThreads gc).phase.Sound s.currentEpochId
  entered_iff : ∀ txn : Nat, Event.entered txn ∈ s.log ↔ (s.txns[txn]?).any TxnPhase.started = true
  recycled_iff : ∀ txn : Nat, Event.recycled txn ∈ s.log ↔ s.txns[txn]? = some .ended
  held_recycled : ∀ (gc : Nat) (ctx : Garbage), (s.gcThreads gc).Holds ctx → Event.recycled ctx.txn ∈ s.log

theorem epochInv_initial : EpochInv threads GcSystem.initial where
  current_pos := by decide
  snapshot_pos := by decide
  snapshot_le := le_refl _
  wellFormed _ := wellFormed_initial
  bounded _ := bounded_initial _
  counts _ _ := rfl
  phases _ _ h := by simp [GcSystem.initial] at h
  scans _ := trivial
  entered_iff _ := by simp [GcSystem.initial]
  recycled_iff _ := by simp [GcSystem.initial]
  held_recycled _ _ h := by simp [GcSystem.initial, GcThread.initial, GcThread.Holds] at h

theorem TxnPhase.Sound.mono {phase : TxnPhase} {current current' : Nat}
    (h : phase.Sound threads current) (le_current : current ≤ current') :
    phase.Sound threads current' := by
  cases phase with
  | waiting => exact h
  | entering => exact ⟨h.1, h.2.1, h.2.2.trans le_current⟩
  | running => exact ⟨h.1, h.2.trans le_current⟩
  | ended => trivial

theorem GcPhase.Sound.mono {phase : GcPhase} {current current' : Nat}
    (h : phase.Sound current) (le_current : current ≤ current') : phase.Sound current' := by
  cases phase with
  | scanning => exact h.imp id (fun lt => lt.trans_le le_current)
  | _ => trivial

variable {threads} {s : GcSystem}

theorem EpochInv.advanceEpoch (h : EpochInv threads s) : EpochInv threads s.advanceEpoch where
  current_pos := Nat.succ_pos _
  snapshot_pos := h.snapshot_pos
  snapshot_le := h.snapshot_le.trans (Nat.le_succ _)
  wellFormed := h.wellFormed
  bounded t := (h.bounded t).mono (Nat.le_succ _)
  counts := h.counts
  phases txn phase found := (h.phases txn phase found).mono threads (Nat.le_succ _)
  scans gc := (h.scans gc).mono (Nat.le_succ _)
  entered_iff := h.entered_iff
  recycled_iff := h.recycled_iff
  held_recycled := h.held_recycled

theorem EpochInv.beginTransaction (h : EpochInv threads s) {threadId : Nat}
    (registered : threadId ∈ threads) (isolation : IsolationLevelType) :
    EpochInv threads (s.beginTransaction threadId isolation) where
  current_pos := h.current_pos
  snapshot_pos := h.snapshot_pos
  snapshot_le := h.snapshot_le
  wellFormed := h.wellFormed
  bounded := h.bounded
  counts t e := by
    simp [GcSystem.beginTransaction, List.countP_append, TxnPhase.runsIn, h.counts]
  phases txn phase found := by
    simp only [GcSystem.beginTransaction, getElem?_append_singleton] at found
    split at found
    · cases found
      exact registered
    · exact h.phases txn phase found
  scans := h.scans
  entered_iff txn := by
    simp only [GcSystem.beginTransaction, getElem?_append_singleton]
    split
    · next new =>
      have : s.txns[txn]? = none := List.getElem?_eq_none (by omega)
      simpa [this, TxnPhase.started] using h.entered_iff txn
    · exact h.entered_iff txn
  recycled_iff txn := by
    simp only [GcSystem.beginTransaction, getElem?_append_singleton]
    split
    · next new =>
      have : s.txns[txn]? = none := List.getElem?_eq_none (by omega)
      simpa [this] using h.recycled_iff txn
    · exact h.recycled_iff txn
  held_recycled := h.held_recycled

theorem EpochInv.setTxn (h : EpochInv threads s) {txn : Nat} {old new : TxnPhase}
    (found : s.txns[txn]? = some old) (sound : new.Sound threads s.currentEpochId)
    (started : old.started = new.started) (ended : old = .ended ↔ new = .ended)
    (runs : ∀ t e, old.runsIn t e = new.runsIn t e) : EpochInv threads (s.setTxn txn new) where
  current_pos := h.current_pos
  snapshot_pos := h.snapshot_pos
  snapshot_le := h.snapshot_le
  wellFormed := h.wellFormed
  bounded := h.bounded
  counts t e := by
    simp only [GcSystem.setTxn_localEpochs, GcSystem.setTxn_txns, h.counts,
      countP_set_of_getElem? found, runs t e]
    cases runs_new : new.runsIn t e
    · simp
    · have := one_le_countP_of_getElem? found ((runs t e).trans runs_new)
      simp only [if_true]
      omega
  phases txn' phase found' := by
    simp only [GcSystem.setTxn_txns, getElem?_set_of_getElem? found] at found'
    split at found'
    · cases found'
      exact sound
    · exact h.phases txn' phase found'
  scans := h.scans
  entered_iff txn' := by
    simp only [GcSystem.setTxn_log, GcSystem.setTxn_txns, getElem?_set_of_getElem? found]
    split
    · next same => simpa [same, found, started] using h.entered_iff txn
    · exact h.entered_iff txn'
  recycled_iff txn' := by
    simp only [GcSystem.setTxn_log, GcSystem.setTxn_txns, getElem?_set_of_getElem? found]
    split
    · next same => simpa [same, found, ended] using h.recycled_iff txn
    · exact h.recycled_iff txn'
  held_recycled := h.held_recycled

theorem EpochInv.readEpoch (h : EpochInv threads s) {txn threadId : Nat}
    {isolation : IsolationLevelType} (found : s.txns[txn]? = some (.waiting threadId isolation)) :
    EpochInv threads (s.readEpoch txn threadId isolation) := by
  -- the epoch read is the snapshot epoch or the current one
  have sound : (TxnPhase.entering threadId isolation
      (if beginTimestampType isolation = .snapshotRead then s.snapshotEpochId
        else s.currentEpochId)).Sound threads s.currentEpochId := by
    refine ⟨h.phases txn _ found, ?_⟩
    split
    · exact ⟨h.snapshot_pos, h.snapshot_le⟩
    · exact ⟨h.current_pos, le_refl _⟩
  exact h.setTxn found sound rfl (by simp) (by simp [TxnPhase.runsIn])

theorem beginTimestampType_ne_commit (isolation : IsolationLevelType) :
    beginTimestampType isolation ≠ .commit := by
  cases isolation <;> simp [beginTimestampType]

theorem EpochInv.entered (h : EpochInv threads s) {txn threadId epochId : Nat}
    {isolation : IsolationLevelType} {le : LocalEpoch}
    (found : s.txns[txn]? = some (.entering threadId isolation epochId))
    (entry : (s.localEpochs threadId).enterEpoch epochId (beginTimestampType isolation) = (le, true)) :
    EpochInv threads { (s.setLocalEpoch threadId le).setTxn txn
      (.running threadId epochId (isolation = .readOnly)) with log := s.log ++ [.entered txn] } := by
  obtain ⟨registered, pos, le_current⟩ := h.phases txn _ found
  have le_eq : le = ((s.localEpochs threadId).enterEpoch epochId (beginTimestampType isolation)).1 :=
    by rw [entry]
  subst le_eq
  refine ⟨h.current_pos, h.snapshot_pos, h.snapshot_le, ?_, ?_, ?_, ?_, h.scans, ?_, ?_, ?_⟩
  · intro t
    by_cases same : t = threadId
    · subst same
      simpa using wellFormed_enterEpoch (h.wellFormed t) pos _
    · simpa [same] using h.wellFormed t
  · intro t
    by_cases same : t = threadId
    · subst same
      simpa using bounded_enterEpoch (h.bounded t) h.current_pos le_current _
    · simpa [same] using h.bounded t
  · -- the thread counts one more transaction in the epoch, and one more transaction runs in it
    intro t e
    simp only [GcSystem.setTxn_localEpochs, GcSystem.setLocalEpoch_localEpochs, GcSystem.setTxn_txns,
      GcSystem.setLocalEpoch_txns, countP_set_of_getElem? found, TxnPhase.runsIn, Bool.false_eq_true,
      if_false, Nat.sub_zero]
    by_cases same : t = threadId
    · subst same
      rw [Function.update_self, txnCountOf_enterEpoch (h.wellFormed t), entry, h.counts]
      by_cases same_epoch : e = epochId
      · simp [same_epoch, beginTimestampType_ne_commit]
      · simp [same_epoch, Ne.symm same_epoch]
    · rw [Function.update_of_ne same, h.counts]
      simp [Ne.symm same]
  · intro txn' phase found'
    simp only [GcSystem.setTxn_txns, GcSystem.setLocalEpoch_txns, getElem?_set_of_getElem? found]
      at found'
    split at found'
    · cases found'
      exact ⟨registered, le_current⟩
    · exact h.phases txn' phase found'
  · intro txn'
    simp only [GcSystem.setTxn_txns, GcSystem.setLocalEpoch_txns, getElem?_set_of_getElem? found,
      List.mem_append, List.mem_singleton, Event.entered.injEq]
    split
    · next same => simp [same, TxnPhase.started]
    · next other => simpa [other] using h.entered_iff txn'
  · intro txn'
    simp only [GcSystem.setTxn_txns, GcSystem.setLocalEpoch_txns, getElem?_set_of_getElem? found,
      List.mem_append, List.mem_singleton, reduceCtorEq, or_false]
    split
    · next same => simpa [same, found] using h.recycled_iff txn
    · exact h.recycled_iff txn'
  · intro gc ctx held
    exact List.mem_append_left _ (h.held_recycled gc ctx held)

theorem EpochInv.enterEpoch (h : EpochInv threads s) {txn threadId epochId : Nat}
    {isolation : IsolationLevelType}
    (found : s.txns[txn]? = some (.entering threadId isolation epochId)) :
    EpochInv threads (s.enterEpoch txn threadId isolation epochId) := by
  unfold GcSystem.enterEpoch
  split
  · next le entry => exact h.entered found entry
  · -- a refused entry goes back to reading the epoch
    exact h.setTxn found (h.phases txn _ found).1 rfl (by simp) (by simp [TxnPhase.runsIn])

theorem EpochInv.recycleTransaction (h : EpochInv threads s) {txn threadId epochId : Nat}
    {readOnly : Bool} (found : s.txns[txn]? = some (.running threadId epochId readOnly))
    (result : ResultType) (gcSetEmpty : Bool) :
    EpochInv threads
      (s.recycleTransaction gcThreadCount txn threadId epochId readOnly result gcSetEmpty) := by
  unfold GcSystem.recycleTransaction
  refine ⟨h.current_pos, h.snapshot_pos, h.snapshot_le, ?_, ?_, ?_, ?_, ?_, ?_, ?_, ?_⟩
  · intro t
    by_cases same : t = threadId
    · subst same
      simpa using wellFormed_exitEpoch (h.wellFormed t) epochId
    · simpa [same] using h.wellFormed t
  · intro t
    by_cases same : t = threadId
    · subst same
      simpa using bounded_exitEpoch (h.bounded t) h.current_pos epochId
    · simpa [same] using h.bounded t
  · -- the thread counts one transaction less in the epoch, and one transaction less runs in it
    intro t e
    simp only [GcSystem.setGcThread_localEpochs, GcSystem.setTxn_localEpochs,
      GcSystem.setLocalEpoch_localEpochs, GcSystem.setGcThread_txns, GcSystem.setTxn_txns,
      GcSystem.setLocalEpoch_txns, countP_set_of_getElem? found, TxnPhase.runsIn,
      Bool.false_eq_true, if_false, Nat.add_zero]
    by_cases same : t = threadId
    · subst same
      rw [Function.update_self, txnCountOf_exitEpoch (h.wellFormed t), h.counts]
      by_cases same_epoch : e = epochId
      · simp [same_epoch]
      · simp [same_epoch, Ne.symm same_epoch]
    · rw [Function.update_of_ne same, h.counts]
      simp [Ne.symm same]
  · intro txn' phase found'
    simp only [GcSystem.setGcThread_txns, GcSystem.setTxn_txns, GcSystem.setLocalEpoch_txns,
      getElem?_set_of_getElem? found] at found'
    split at found'
    · cases found'
      trivial
    · exact h.phases txn' phase found'
  · intro gc
    simp only [GcSystem.setGcThread_gcThreads, GcSystem.setTxn_gcThreads,
      GcSystem.setLocalEpoch_gcThreads, GcSystem.setGcThread_currentEpochId,
      GcSystem.setTxn_currentEpochId, GcSystem.setLocalEpoch_currentEpochId, Function.update_apply]
    split
    · next same => exact same ▸ h.scans _
    · exact h.scans gc
  · intro txn'
    simp only [GcSystem.setGcThread_txns, GcSystem.setTxn_txns, GcSystem.setLocalEpoch_txns,
      getElem?_set_of_getElem? found, List.mem_append, List.mem_singleton, reduceCtorEq, or_false]
    split
    · next same => simpa [same, found, TxnPhase.started] using h.entered_iff txn
    · exact h.entered_iff txn'
  · intro txn'
    simp only [GcSystem.setGcThread_txns, GcSystem.setTxn_txns, GcSystem.setLocalEpoch_txns,
      getElem?_set_of_getElem? found, List.mem_append, List.mem_singleton, Event.recycled.injEq]
    split
    · next same => simp [same]
    · next other => simpa [other] using h.recycled_iff txn'
  · -- the queued context is the transaction just recycled
    intro gc ctx held
    simp only [GcSystem.setGcThread_gcThreads, GcSystem.setTxn_gcThreads,
      GcSystem.setLocalEpoch_gcThreads, Function.update_apply] at held
    split at held
    · next same =>
      subst same
      rcases held with queued | held
      · rcases List.mem_append.mp queued with queued | queued
        · exact List.mem_append_left _ (h.held_recycled _ ctx (.inl queued))
        · rw [List.mem_singleton.mp queued]
          simp
      · exact List.mem_append_left _ (h.held_recycled _ ctx (.inr held))
    · exact List.mem_append_left _ (h.held_recycled gc ctx held)

theorem EpochInv.setGcThread (h : EpochInv threads s) {gc : Nat} {thread : GcThread}
    (sound : thread.phase.Sound s.currentEpochId)
    (held : ∀ ctx, thread.Holds ctx → (s.gcThreads gc).Holds ctx) :
    EpochInv threads (s.setGcThread gc thread) := by
  refine ⟨h.current_pos, h.snapshot_pos, h.snapshot_le, h.wellFormed, h.bounded, h.counts,
    h.phases, ?_, h.entered_iff, h.recycled_iff, ?_⟩
  · intro gc'
    simp only [GcSystem.setGcThread_gcThreads, GcSystem.setGcThread_currentEpochId,
      Function.update_apply]
    split
    · exact sound
    · exact h.scans gc'
  · intro gc' ctx held'
    simp only [GcSystem.setGcThread_gcThreads, Function.update_apply] at held'
    split at held'
    · next same => exact h.held_recycled gc' ctx (same ▸ held ctx held')
    · exact h.held_recycled gc' ctx held'

theorem EpochInv.startScan (h : EpochInv threads s) (gc : Nat) :
    EpochInv threads (s.startScan threads gc) :=
  h.setGcThread (.inl rfl) fun _ held => held

theorem EpochInv.scanLocalEpoch (h : EpochInv threads s) {gc threadId : Nat} {rest : List Nat}
    {expired : Nat} : EpochInv threads (s.scanLocalEpoch gc threadId rest expired) := by
  have scanned : EpochInv threads (s.setLocalEpoch threadId
      ((s.localEpochs threadId).getExpiredEpochId s.currentEpochId).1) := by
    refine ⟨h.current_pos, h.snapshot_pos, h.snapshot_le, ?_, ?_, ?_, h.phases, h.scans,
      h.entered_iff, h.recycled_iff, h.held_recycled⟩
    · intro t
      by_cases same : t = threadId
      · subst same
        simpa using wellFormed_getExpiredEpochId (h.wellFormed t) _
      · simpa [same] using h.wellFormed t
    · intro t
      by_cases same : t = threadId
      · subst same
        simpa using bounded_getExpiredEpochId (h.bounded t) h.current_pos
      · simpa [same] using h.bounded t
    · intro t e
      by_cases same : t = threadId
      · subst same
        simpa [txnCountOf_getExpiredEpochId] using h.counts t e
      · simpa [same] using h.counts t e
  -- the thread reports an epoch before the current one, so the minimum stays below it
  have reported := getExpiredEpochId_lt_current (h.wellFormed threadId) (h.bounded threadId)
    h.current_pos
  exact scanned.setGcThread (.inr (lt_of_le_of_lt (min_le_right _ _) reported)) fun _ held => held

theorem EpochInv.endScan (h : EpochInv threads s) {gc expired : Nat}
    (scanning : (s.gcThreads gc).phase = .scanning [] expired) :
    EpochInv threads (s.endScan gc expired) := by
  have below : expired = MAX_EID ∨ expired < s.currentEpochId := by
    simpa [scanning, GcPhase.Sound] using h.scans gc
  have snapshot : EpochInv threads { s with
      snapshotEpochId :=
        if expired ≠ MAX_EID ∧ expired ≥ s.snapshotEpochId then expired + 1 else s.snapshotEpochId } := by
    refine ⟨h.current_pos, ?_, ?_, h.wellFormed, h.bounded, h.counts, h.phases, h.scans,
      h.entered_iff, h.recycled_iff, h.held_recycled⟩
    · split
      · exact Nat.succ_pos _
      · exact h.snapshot_pos
    · split
      · next caught_up =>
        have := below.resolve_left caught_up.1
        exact this
      · exact h.snapshot_le
  have sound : (if expired = MAX_EID then GcPhase.idle else .reclaiming expired).Sound
      s.currentEpochId := by
    split <;> trivial
  exact snapshot.setGcThread sound fun _ held => held

theorem EpochInv.reclaim (h : EpochInv threads s) {gc expired : Nat} :
    EpochInv threads (s.reclaim gc expired) := by
  have parked : EpochInv threads (s.setGcThread gc ((s.gcThreads gc).reclaim expired)) := by
    refine h.setGcThread trivial fun ctx held => ?_
    rcases held with queued | queued | ⟨p, mem⟩
    · exact .inl queued
    · exact .inr (.inl queued)
    · exact .inr (.inr ⟨p, (List.dropWhile_suffix _).subset mem⟩)
  -- the log gains only reclaimed events
  refine ⟨parked.current_pos, parked.snapshot_pos, parked.snapshot_le, parked.wellFormed,
    parked.bounded, parked.counts, parked.phases, parked.scans, ?_, ?_, ?_⟩
  · intro txn
    simpa [GcSystem.reclaim] using parked.entered_iff txn
  · intro txn
    simpa [GcSystem.reclaim] using parked.recycled_iff txn
  · intro gc' ctx held
    exact List.mem_append_left _ (parked.held_recycled gc' ctx held)

theorem EpochInv.unlink (h : EpochInv threads s) {gc expired : Nat} :
    EpochInv threads (s.unlink gc expired) := by
  refine h.setGcThread trivial fun ctx held => ?_
  rcases held with queued | queued | ⟨p, mem⟩
  · exact .inl (List.mem_of_mem_drop queued)
  · exact (GcThread.mem_unlinkGarbage (.inr queued)).elim (.inr ∘ .inl) .inl
  · rcases GcThread.mem_unlink_reclaimMap mem with mem | ⟨-, queued⟩
    · exact .inr (.inr ⟨p, mem⟩)
    · exact queued.elim (.inr ∘ .inl) .inl

theorem EpochInv.step (h : EpochInv threads s) {s' : GcSystem}
    (transition : Transition threads gcThreadCount s s') : EpochInv threads s' := by
  cases transition with
  | advanceEpoch => exact h.advanceEpoch
  | beginTransaction registered => exact h.beginTransaction registered _
  | readEpoch found => exact h.readEpoch found
  | enterEpoch found => exact h.enterEpoch found
  | recycleTransaction result gcSetEmpty found =>
    exact h.recycleTransaction gcThreadCount found result gcSetEmpty
  | startScan => exact h.startScan _
  | scanLocalEpoch => exact h.scanLocalEpoch
  | endScan scanning => exact h.endScan scanning
  | reclaim => exact h.reclaim
  | unlink => exact h.unlink

theorem epochInv_of_reachable (hs : Reachable threads gcThreadCount s) : EpochInv threads s :=
  TransitionSystem.Reachable.invariant (epochInv_initial threads)
    (fun _ _ _ h hstep => h.step gcThreadCount (transition_of_step threads gcThreadCount hstep)) hs

def enterRecycleScan : List Action :=
  [.beginTransaction 0 .serializable, .readEpoch 0, .enterEpoch 0, .advanceEpoch,
    .recycleTransaction 0 .success true, .startScan 0, .scanLocalEpoch 0, .endScan 0]

theorem epochInv_of_reachable_after_scan :
    EpochInv [0] ((TransitionSystem.run (step [0] 1) GcSystem.initial enterRecycleScan).getD GcSystem.initial) :=
  epochInv_of_reachable 1 (TransitionSystem.reachable_of_run enterRecycleScan rfl)

end Peloton.Gc
