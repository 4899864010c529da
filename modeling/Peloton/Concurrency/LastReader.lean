import Peloton.Concurrency.Ownership
import Peloton.Lib.History

set_option autoImplicit false

namespace Peloton.Concurrency

open Storage History

/-! The last-reader handshake of SetLastReaderCommitId and AcquireOwnership. A read of a version
nobody holds raises its last reader to the reader's commit id; AcquireOwnership refuses a version
whose last reader is above the acquirer's commit id; and a transaction holds every version it
updates or deletes until it commits. So once Tj has read V, no transaction with a smaller commit
id commits an UPDATE or DELETE of V. PerformRead does not look at the version's interval: a read
of V after such a commit succeeds. -/

/-! ## The last reader through one call -/

section Calls

variable {s : Store} {location : ItemPointer} {ctx : TransactionContext}

theorem setLastReaderCommitId_lastReaderCid_le (c : Cid) (isOwner : Bool) :
    ((setLastReaderCommitId s location c isOwner).1.headers location).lastReaderCid ≤
      max (s.headers location).lastReaderCid c := by
  unfold setLastReaderCommitId
  split
  · exact le_max_left _ _
  · split <;> simp

@[simp] theorem acquireOwnership_lastReaderCid (ℓ : ItemPointer) :
    ((acquireOwnership s ctx location).1.headers ℓ).lastReaderCid = (s.headers ℓ).lastReaderCid := by
  unfold acquireOwnership
  split_ifs <;> simp

theorem performRead_lastReaderCid_le (acquire : Bool)
    (serializable : ctx.isolationLevel = .serializable) :
    ((performRead s ctx location acquire).1.headers location).lastReaderCid ≤
      max (s.headers location).lastReaderCid ctx.commitId := by
  rw [performRead_of_serializable acquire serializable]
  have acquired : ∀ s₁ b, acquireOwnership s ctx location = (s₁, b) →
      (s₁.headers location).lastReaderCid = (s.headers location).lastReaderCid := by
    intro s₁ b result
    have same : ((acquireOwnership s ctx location).1.headers location).lastReaderCid = _ :=
      acquireOwnership_lastReaderCid location
    rwa [result] at same
  split
  · unfold ownForRead
    split
    · exact le_max_left _ _
    · split
      · exact le_max_left _ _
      · split
        · next s₁ result =>
          rw [← acquired s₁ true result]
          exact setLastReaderCommitId_lastReaderCid_le ctx.commitId true
        · next s₁ result => rw [acquired s₁ false result]; exact le_max_left _ _
  · split
    · exact le_max_left _ _
    · have raised := @setLastReaderCommitId_lastReaderCid_le s location ctx.commitId false
      split <;> next s' result => rw [result] at raised; exact raised

end Calls

/-! ## What one step does to the last readers -/

-- What a step of the transaction ctx may do to the last readers: raise them on the slots handed
-- out, leave them on the versions another transaction holds, and give a version the transaction
-- takes a last reader not above its commit id.
structure ReaderFrame (s s' : TmSystem) (ctx : TransactionContext) : Prop where
  grows : s.nextSlot ≤ s'.nextSlot
  raised : ∀ ℓ, s.Allocated ℓ →
    (s.store.headers ℓ).lastReaderCid ≤ (s'.store.headers ℓ).lastReaderCid
  others : ∀ ℓ, (s'.store.headers ℓ).transactionId ≠ ctx.txnId →
    (s'.store.headers ℓ).transactionId ≠ INITIAL_TXN_ID →
    (s'.store.headers ℓ).transactionId ≠ INVALID_TXN_ID →
    (s'.store.headers ℓ).transactionId = (s.store.headers ℓ).transactionId ∧
      (s'.store.headers ℓ).lastReaderCid = (s.store.headers ℓ).lastReaderCid
  mine : ∀ ℓ, (s'.store.headers ℓ).transactionId = ctx.txnId →
    (s'.store.headers ℓ).lastReaderCid ≤ ctx.commitId ∨
      ((s.store.headers ℓ).transactionId = ctx.txnId ∧
        (s'.store.headers ℓ).lastReaderCid = (s.store.headers ℓ).lastReaderCid)

def SlotKept (s s' : TmSystem) (ctx : TransactionContext) (ℓ : ItemPointer) : Prop :=
  ((s'.store.headers ℓ).lastReaderCid = (s.store.headers ℓ).lastReaderCid ∧
    ((s'.store.headers ℓ).transactionId = (s.store.headers ℓ).transactionId ∨
      (s'.store.headers ℓ).transactionId = INITIAL_TXN_ID ∨
      (s'.store.headers ℓ).transactionId = INVALID_TXN_ID)) ∨
  (¬ s.Allocated ℓ ∧ (s'.store.headers ℓ).transactionId = ctx.txnId ∧
    (s'.store.headers ℓ).lastReaderCid = 0)

section Frames

variable {s s' : TmSystem} {ctx : TransactionContext}

theorem SlotKept.of_same {ℓ : ItemPointer}
    (reader : (s'.store.headers ℓ).lastReaderCid = (s.store.headers ℓ).lastReaderCid)
    (owner : (s'.store.headers ℓ).transactionId = (s.store.headers ℓ).transactionId) :
    SlotKept s s' ctx ℓ :=
  .inl ⟨reader, .inl owner⟩

theorem ReaderFrame.of_slots (two : 2 ≤ ctx.txnId) (slots : s.nextSlot ≤ s'.nextSlot)
    (slot : ∀ ℓ, SlotKept s s' ctx ℓ) : ReaderFrame s s' ctx where
  grows := slots
  raised ℓ allocated := by
    rcases slot ℓ with ⟨same, _⟩ | ⟨fresh, _⟩
    · exact same.ge
    · exact absurd allocated fresh
  others ℓ notMine notFree unused := by
    rcases slot ℓ with ⟨same, keep | free | invalid⟩ | ⟨_, taken, _⟩
    · exact ⟨keep, same⟩
    · exact absurd free notFree
    · exact absurd invalid unused
    · exact absurd taken notMine
  mine ℓ taken := by
    rcases slot ℓ with ⟨same, keep | free | invalid⟩ | ⟨_, _, zero⟩
    · exact .inr ⟨keep.symm.trans taken, same⟩
    · exact absurd (taken.symm.trans free) (ne_initial_of_two_le two)
    · exact absurd (taken.symm.trans invalid) (ne_invalid_of_two_le two)
    · exact .inl (by rw [zero]; exact Nat.zero_le _)

theorem ReaderFrame.of_readsOnly {location : ItemPointer} (two : 2 ≤ ctx.txnId)
    (reads : ReadsOnly s.store s'.store location ctx) (slots : s'.nextSlot = s.nextSlot)
    (bounded : (s'.store.headers location).lastReaderCid ≤
      max (s.store.headers location).lastReaderCid ctx.commitId)
    (held : (s.store.headers location).transactionId ≠ INITIAL_TXN_ID →
      s'.store.headers location = s.store.headers location) :
    ReaderFrame s s' ctx where
  grows := slots.ge
  raised ℓ _ := reads.lastReaderCid_le ℓ
  others ℓ notMine notFree _ := by
    have keep : (s'.store.headers ℓ).transactionId = (s.store.headers ℓ).transactionId :=
      (reads.transactionId ℓ).resolve_right fun ⟨_, _, taken⟩ => notMine taken
    refine ⟨keep, ?_⟩
    by_cases same : ℓ = location
    · subst same
      rw [held (by rw [← keep]; exact notFree)]
    · rw [reads.others ℓ same]
  mine ℓ taken := by
    by_cases same : ℓ = location
    · subst same
      rcases reads.owner with keep | ⟨_, below, _⟩
      · have owned := keep.symm.trans taken
        exact .inr ⟨owned, by rw [held (by rw [owned]; exact ne_initial_of_two_le two)]⟩
      · exact .inl (le_trans bounded (max_le below le_rfl))
    · rw [reads.others ℓ same] at taken ⊢
      exact .inr ⟨taken, rfl⟩

end Frames

/-! ## What a step logs -/

-- What a step of the transaction at index i logs: nothing, a read of a version it did not hold
-- that left the version a last reader at least its commit id, or its commit.
inductive Logs (s' : TmSystem) (i : Nat) (ctx ctx' : TransactionContext) (status : TxnStatus) :
    List TmEvent → Prop where
  | nothing : Logs s' i ctx ctx' status []
  | read {ℓ : ItemPointer} : s'.Allocated ℓ → ctx.commitId ≤ (s'.store.headers ℓ).lastReaderCid →
      Logs s' i ctx ctx' status [.read i ℓ]
  | committed : status = .committed → ctx'.rwSet = ctx.rwSet →
      Logs s' i ctx ctx' status [.committed i]

section Logs

variable {s' : TmSystem} {i : Nat} {ctx ctx' : TransactionContext} {status : TxnStatus}
  {extra : List TmEvent}

theorem Logs.reads (logged : Logs s' i ctx ctx' status extra) {j : Nat} {ℓ : ItemPointer}
    (mem : TmEvent.read j ℓ ∈ extra) :
    j = i ∧ s'.Allocated ℓ ∧ ctx.commitId ≤ (s'.store.headers ℓ).lastReaderCid := by
  cases logged with
  | nothing => cases mem
  | read allocated below =>
    obtain ⟨rfl, rfl⟩ : j = i ∧ ℓ = _ := by simpa using mem
    exact ⟨rfl, allocated, below⟩
  | committed => simp at mem

theorem Logs.commits (logged : Logs s' i ctx ctx' status extra) {k : Nat}
    (mem : TmEvent.committed k ∈ extra) :
    k = i ∧ status = .committed ∧ ctx'.rwSet = ctx.rwSet ∧ extra = [.committed i] := by
  cases logged with
  | nothing => cases mem
  | read => simp at mem
  | committed done same => exact ⟨by simpa using mem, done, same, rfl⟩

end Logs

/-! ## The invariant -/

def CommitIdAtMost (s : TmSystem) (j : Nat) (c : Cid) : Prop :=
  ∃ tj : TmTxn, s.txns[j]? = some tj ∧ tj.ctx.commitId ≤ c

structure ReaderInv (s : TmSystem) : Prop where
  reads : ∀ j ℓ, TmEvent.read j ℓ ∈ s.log →
    s.Allocated ℓ ∧ CommitIdAtMost s j (s.store.headers ℓ).lastReaderCid
  owners : ∀ k ctx ℓ, s.activeCtx k = some ctx → (s.store.headers ℓ).transactionId = ctx.txnId →
    (s.store.headers ℓ).lastReaderCid ≤ ctx.commitId
  finished : ∀ k, TmEvent.committed k ∈ s.log → ∃ ctx, s.txns[k]? = some ⟨ctx, .committed⟩
  ordered : ∀ i j ℓ (ti : TmTxn), Before s.log (.read j ℓ) (.committed i) → s.txns[i]? = some ti →
    (∃ type, ti.ctx.rwSet.lookup ℓ = some type ∧ type.replaces) →
    CommitIdAtMost s j ti.ctx.commitId

theorem CommitIdAtMost.mono {s : TmSystem} {j : Nat} {c c' : Cid} (h : CommitIdAtMost s j c)
    (le : c ≤ c') : CommitIdAtMost s j c' :=
  let ⟨tj, lookup, below⟩ := h
  ⟨tj, lookup, le_trans below le⟩

theorem CommitIdAtMost.of_set {s s' : TmSystem} {i : Nat} {ctx ctx' : TransactionContext}
    {status : TxnStatus} (found : s.activeCtx i = some ctx)
    (txns : s'.txns = s.txns.set i ⟨ctx', status⟩) (sameCommit : ctx'.commitId = ctx.commitId)
    {j : Nat} {c : Cid} (h : CommitIdAtMost s j c) : CommitIdAtMost s' j c := by
  obtain ⟨tj, lookup, below⟩ := h
  rw [CommitIdAtMost, txns, TmSystem.getElem?_set_of_activeCtx found]
  by_cases same : j = i
  · rw [same, TmSystem.activeCtx_eq_some.mp found] at lookup
    cases lookup
    exact ⟨_, if_pos same, by rw [sameCommit]; exact below⟩
  · exact ⟨tj, by rw [if_neg same]; exact lookup, below⟩

section Step

variable {s s' : TmSystem} {i : Nat} {ctx ctx' : TransactionContext} {status : TxnStatus}
  {extra : List TmEvent}

theorem ReaderInv.of_step (inv : ReaderInv s) (own : OwnInv s) (found : s.activeCtx i = some ctx)
    (txns : s'.txns = s.txns.set i ⟨ctx', status⟩) (sameId : ctx'.txnId = ctx.txnId)
    (sameCommit : ctx'.commitId = ctx.commitId) (frame : ReaderFrame s s' ctx)
    (log : s'.log = s.log ++ extra) (logged : Logs s' i ctx ctx' status extra) :
    ReaderInv s' := by
  have mine := TmSystem.activeCtx_eq_some.mp found
  have lookupTxn : ∀ j, s'.txns[j]? = if j = i then some ⟨ctx', status⟩ else s.txns[j]? := by
    intro j; rw [txns]; exact TmSystem.getElem?_set_of_activeCtx found _ j
  have transfer : ∀ {j c}, CommitIdAtMost s j c → CommitIdAtMost s' j c :=
    CommitIdAtMost.of_set found txns sameCommit
  -- a transaction that committed is not the one that steps, and keeps its entry
  have kept : ∀ k, TmEvent.committed k ∈ s.log → s'.txns[k]? = s.txns[k]? := by
    intro k committed
    obtain ⟨c, lookup⟩ := inv.finished k committed
    have notActor : k ≠ i := by
      rintro rfl
      rw [mine] at lookup
      cases lookup
    rw [lookupTxn, if_neg notActor]
  have older : ∀ k j ℓ (tk : TmTxn), Before s.log (.read j ℓ) (.committed k) →
      s'.txns[k]? = some tk → (∃ type, tk.ctx.rwSet.lookup ℓ = some type ∧ type.replaces) →
      CommitIdAtMost s' j tk.ctx.commitId := by
    intro k j ℓ tk before lookup replaced
    rw [kept k before.mem_right] at lookup
    exact transfer (inv.ordered k j ℓ tk before lookup replaced)
  refine ⟨fun j ℓ read => ?_, fun k c ℓ active held => ?_, fun k committed => ?_,
    fun k j ℓ tk before lookup replaced => ?_⟩
  · rw [log, List.mem_append] at read
    rcases read with old | new
    · obtain ⟨allocated, reader⟩ := inv.reads j ℓ old
      exact ⟨⟨allocated.1, lt_of_lt_of_le allocated.2 frame.grows⟩,
        transfer (reader.mono (frame.raised ℓ allocated))⟩
    · obtain ⟨rfl, allocated, below⟩ := logged.reads new
      exact ⟨allocated, _, by rw [lookupTxn, if_pos rfl], by rw [sameCommit]; exact below⟩
  · have lookup := TmSystem.activeCtx_eq_some.mp active
    rw [lookupTxn] at lookup
    split at lookup
    · cases lookup
      rw [sameId] at held
      rcases frame.mine ℓ held with below | ⟨owned, same⟩
      · rw [sameCommit]; exact below
      · rw [same, sameCommit]; exact inv.owners i ctx ℓ found owned
    · next other =>
      -- another running transaction: the step leaves its versions and their last readers
      have before : s.activeCtx k = some c := TmSystem.activeCtx_eq_some.mpr lookup
      have two := own.two_le before
      have notMine : c.txnId ≠ ctx.txnId := fun same => other (own.distinct k i _ _ lookup mine same)
      obtain ⟨keep, same⟩ := frame.others ℓ (by rw [held]; exact notMine)
        (by rw [held]; exact ne_initial_of_two_le two) (by rw [held]; exact ne_invalid_of_two_le two)
      rw [same]
      exact inv.owners k c ℓ before (by rw [← keep]; exact held)
  · rw [log, List.mem_append] at committed
    rcases committed with old | new
    · obtain ⟨c, lookup⟩ := inv.finished k old
      exact ⟨c, by rw [kept k old]; exact lookup⟩
    · obtain ⟨rfl, done, _⟩ := logged.commits new
      exact ⟨ctx', by rw [lookupTxn, if_pos rfl, done]⟩
  · rw [log] at before
    by_cases new : TmEvent.committed k ∈ extra
    · obtain ⟨same, _, sameSet, rfl⟩ := logged.commits new
      rcases before_append_singleton_iff.mp before with old | ⟨read, _⟩
      · exact older k j ℓ tk old lookup replaced
      · -- the commit of i itself: i holds what it replaces, so its last reader is at most its
        -- commit id, and a read logged before is at most that last reader
        rw [same, lookupTxn, if_pos rfl] at lookup
        cases lookup
        obtain ⟨type, entry, replaces⟩ := replaced
        rw [sameSet] at entry
        have owned := (own.writes i ctx found).owned ℓ type entry (RWType.owns_of_replaces replaces)
        rw [sameCommit]
        exact transfer (((inv.reads j ℓ read).2).mono (inv.owners i ctx ℓ found owned))
    · exact older k j ℓ tk ((before_append_iff_of_not_mem new).mp before) lookup replaced

end Step

/-! ## Each step -/

section Steps

variable {s : TmSystem} (inv : ReaderInv s) (own : OwnInv s) {i : Nat} {ctx : TransactionContext}
  (found : s.activeCtx i = some ctx)
include inv own found

theorem ReaderInv.read {location : ItemPointer} {acquire : Bool} :
    ReaderInv (s.read i ctx location acquire) := by
  have serializable := own.serializable found
  have contexts := @performRead_ctx s.store location ctx acquire serializable
  have sameId : (performRead s.store ctx location acquire).2.1.txnId = ctx.txnId := by
    rcases contexts with same | ⟨same, _⟩ | ⟨same, _⟩ <;> rw [same] <;> rfl
  have sameCommit : (performRead s.store ctx location acquire).2.1.commitId = ctx.commitId := by
    rcases contexts with same | ⟨same, _⟩ | ⟨same, _⟩ <;> rw [same] <;> rfl
  have held : (s.store.headers location).transactionId ≠ INITIAL_TXN_ID →
      (performRead s.store ctx location acquire).1.headers location = s.store.headers location := by
    intro notFree
    cases owner : isOwner s.store ctx location
    · rw [performRead_store_of_held acquire serializable notFree owner]
    · rw [performRead_of_owner acquire serializable owner]
  have frame : ReaderFrame s (s.read i ctx location acquire) ctx :=
    ReaderFrame.of_readsOnly (own.two_le found) (performRead_readsOnly acquire serializable) rfl
      (performRead_lastReaderCid_le acquire serializable) held
  -- the read is logged when it succeeds on a version the reader did not hold
  by_cases logged : ((performRead s.store ctx location acquire).2.2 &&
      !isOwner s.store ctx location) = true
  · simp only [Bool.and_eq_true, Bool.not_eq_true'] at logged
    obtain ⟨free, below, _⟩ := performRead_success acquire serializable logged.1 logged.2
    have log : (s.read i ctx location acquire).log = s.log ++ [.read i location] := by
      simp [TmSystem.read, logged]
    exact inv.of_step own found rfl sameId sameCommit frame log
      (.read (own.allocated_of_ne_invalid (by rw [free]; decide)) below)
  · rw [Bool.not_eq_true] at logged
    have log : (s.read i ctx location acquire).log = s.log ++ [] := by
      simp only [TmSystem.read, logged, Bool.false_eq_true, if_false, List.append_nil]
    exact inv.of_step own found rfl sameId sameCommit frame log .nothing

theorem ReaderInv.acquire {location : ItemPointer} : ReaderInv (s.acquire ctx location) :=
  inv.of_step own found (TmSystem.txns_set_self found).symm rfl rfl
    (ReaderFrame.of_readsOnly (own.two_le found) readsOnly_acquireOwnership rfl
      (by rw [TmSystem.acquire, acquireOwnership_lastReaderCid]; exact le_max_left _ _)
      fun notFree => by rw [TmSystem.acquire, acquireOwnership_of_ne_initial notFree])
    (List.append_nil _).symm .nothing

theorem ReaderInv.insert : ReaderInv (s.insert i ctx) := by
  have headers : ∀ ℓ, (s.insert i ctx).store.headers ℓ =
      if ℓ = s.freshSlot then
        { s.store.headers ℓ with
          transactionId := ctx.txnId, lastReaderCid := 0, indirection := some s.nextCell }
      else s.store.headers ℓ := fun ℓ => performInsert_headers _ ctx s.freshSlot _ ℓ
  refine inv.of_step own found rfl rfl rfl
    (ReaderFrame.of_slots (own.two_le found) (Nat.le_succ _) fun ℓ => ?_) (List.append_nil _).symm
    .nothing
  by_cases fresh : ℓ = s.freshSlot
  · refine .inr ⟨?_, by rw [headers, if_pos fresh], by rw [headers, if_pos fresh]⟩
    rw [fresh]
    exact TmSystem.freshSlot_not_allocated s
  · exact SlotKept.of_same (by rw [headers, if_neg fresh]) (by rw [headers, if_neg fresh])

theorem ReaderInv.link {location : ItemPointer} (owner : isOwner s.store ctx location)
    (newEnd : Option Cid) {ctx' : TransactionContext} (sameId : ctx'.txnId = ctx.txnId)
    (sameCommit : ctx'.commitId = ctx.commitId) :
    ReaderInv { s.setTxn i ctx' .active with
      store := linkNewVersion s.store ctx.txnId location s.freshSlot newEnd
      nextSlot := s.nextSlot + 1 } := by
  have held : (s.store.headers location).transactionId = ctx.txnId := by simpa [isOwner] using owner
  have different : location ≠ s.freshSlot :=
    TmSystem.ne_freshSlot_of_allocated (own.allocated_of_held found held)
  have headers := linkNewVersion_headers s.store ctx.txnId different newEnd
  refine inv.of_step own found rfl sameId sameCommit
    (ReaderFrame.of_slots (own.two_le found) (Nat.le_succ _) fun ℓ => ?_) (List.append_nil _).symm
    .nothing
  show SlotKept s { s with store := linkNewVersion s.store ctx.txnId location s.freshSlot newEnd } ctx ℓ
  unfold SlotKept
  dsimp only
  rw [headers]
  by_cases fresh : ℓ = s.freshSlot
  · rw [if_pos fresh]
    exact .inr ⟨by rw [fresh]; exact TmSystem.freshSlot_not_allocated s, rfl, rfl⟩
  · rw [if_neg fresh]
    split <;> exact .inl ⟨rfl, .inl rfl⟩

theorem ReaderInv.update {location : ItemPointer} (owner : isOwner s.store ctx location) :
    ReaderInv (s.update i ctx location) :=
  inv.link own found owner none rfl rfl

theorem ReaderInv.delete {location : ItemPointer} (owner : isOwner s.store ctx location) :
    ReaderInv (s.delete i ctx location) :=
  inv.link own found owner (some INVALID_CID) rfl rfl

theorem ReaderInv.updateInPlace {location : ItemPointer} :
    ReaderInv (s.updateInPlace i ctx location) :=
  inv.of_step own found rfl rfl rfl
    (ReaderFrame.of_slots (own.two_le found) le_rfl fun _ => SlotKept.of_same rfl rfl)
    (List.append_nil _).symm .nothing

theorem ReaderInv.deleteInPlace {location : ItemPointer} :
    ReaderInv (s.deleteInPlace i ctx location) := by
  have context := performDeleteInPlace_ctx s.store ctx location
  have headers : ∀ ℓ, (s.deleteInPlace i ctx location).store.headers ℓ =
      { s.store.headers ℓ with endCommitId :=
        if ℓ = location then INVALID_CID else (s.store.headers ℓ).endCommitId } := by
    intro ℓ
    show (performDeleteInPlace s.store ctx location).1.headers ℓ = _
    rw [performDeleteInPlace_store, Store.setEndCommitId_headers]
  exact inv.of_step own found rfl (by rw [context]; rfl) (by rw [context]; rfl)
    (ReaderFrame.of_slots (own.two_le found) le_rfl fun ℓ =>
      SlotKept.of_same (by rw [headers]) (by rw [headers]))
    (List.append_nil _).symm .nothing

theorem ReaderInv.commit : ReaderInv (s.commit i ctx) := by
  obtain ⟨gc, context⟩ := commitTransaction_ctx s.store ctx
  exact inv.of_step own found rfl (by rw [context]) (by rw [context])
    (ReaderFrame.of_slots (own.two_le found) le_rfl fun ℓ =>
      .inl ⟨(commitTransaction_restamped s.store ctx ℓ).reader,
        (commitTransaction_restamped s.store ctx ℓ).owner⟩)
    rfl (.committed rfl (by rw [context]))

theorem ReaderInv.abort : ReaderInv (s.abort i ctx) := by
  obtain ⟨gc, context⟩ := abortTransaction_ctx s.store ctx
  exact inv.of_step own found rfl (by rw [context]) (by rw [context])
    (ReaderFrame.of_slots (own.two_le found) le_rfl fun ℓ =>
      .inl ⟨(abortTransaction_restamped s.store ctx ℓ).reader,
        (abortTransaction_restamped s.store ctx ℓ).owner⟩)
    (List.append_nil _).symm .nothing

end Steps

theorem ReaderInv.begin {s : TmSystem} (inv : ReaderInv s) (own : OwnInv s) {commitId : Cid}
    (low : 2 ≤ commitId) (unique : ∀ t ∈ s.txns, t.ctx.commitId ≠ commitId) :
    ReaderInv (s.begin commitId) := by
  have transfer : ∀ {j c}, CommitIdAtMost s j c → CommitIdAtMost (s.begin commitId) j c :=
    fun ⟨tj, lookup, below⟩ => ⟨tj, TmSystem.getElem?_begin_of_getElem? lookup, below⟩
  refine ⟨fun j ℓ read => ?_, fun k c ℓ active held => ?_, fun k committed => ?_,
    fun k j ℓ tk before lookup replaced => ?_⟩
  · obtain ⟨allocated, reader⟩ := inv.reads j ℓ read
    exact ⟨allocated, transfer reader⟩
  · have lookup := TmSystem.activeCtx_eq_some.mp active
    rw [TmSystem.getElem?_begin] at lookup
    split at lookup
    · exact inv.owners k c ℓ (TmSystem.activeCtx_eq_some.mpr lookup) held
    · split at lookup
      · cases lookup
        exact absurd held (own.unheld low unique ℓ)
      · cases lookup
  · obtain ⟨c, lookup⟩ := inv.finished k committed
    exact ⟨c, TmSystem.getElem?_begin_of_getElem? lookup⟩
  · obtain ⟨c, old⟩ := inv.finished k before.mem_right
    rw [TmSystem.getElem?_begin_of_getElem? old] at lookup
    cases lookup
    exact transfer (inv.ordered k j ℓ _ before old replaced)

theorem readerInv_initial : ReaderInv TmSystem.initial where
  reads _ _ read := by cases read
  owners _ _ _ active := by cases active
  finished _ committed := by cases committed
  ordered _ _ _ _ before := by cases before.mem_right

theorem ReaderInv.step {s s' : TmSystem} (inv : ReaderInv s) (own : OwnInv s)
    (h : Transition true s s') : ReaderInv s' := by
  cases h with
  | begin low _ unique => exact inv.begin own low unique
  | read location acquire found _ => exact inv.read own found
  | acquire location found _ => exact inv.acquire own found
  | insert found => exact inv.insert own found
  | update found owner _ _ => exact inv.update own found owner
  | updateInPlace found _ _ _ => exact inv.updateInPlace own found
  | delete found _ owner _ _ => exact inv.delete own found owner
  | deleteInPlace found _ _ => exact inv.deleteInPlace own found
  | commit found => exact inv.commit own found
  | abort found => exact inv.abort own found

theorem readerInv_of_reachable {s : TmSystem} (hs : TmReachable true s) : ReaderInv s := by
  have both := @TransitionSystem.Reachable.invariant TmSystem TmAction TmSystem.initial (step true)
    (fun s => OwnInv s ∧ ReaderInv s) ⟨ownInv_initial, readerInv_initial⟩
    (fun _ _ _ ⟨own, inv⟩ step =>
      ⟨own.step (transition_of_step true step), inv.step own (transition_of_step true step)⟩) s hs
  exact both.2

/-! ## A younger reader and an older writer -/

def staleRead : List TmAction :=
  [.begin 2, .insert 0, .commit 0, .begin 3, .begin 4, .acquire 1 ⟨0, 0⟩, .update 1 ⟨0, 0⟩,
    .commit 1, .read 2 ⟨0, 0⟩ false, .commit 2]

def staleReadState : TmSystem :=
  (TransitionSystem.run (step true) TmSystem.initial staleRead).getD TmSystem.initial

theorem staleReadState_reachable : TmReachable true staleReadState :=
  TransitionSystem.reachable_of_run staleRead rfl

theorem younger_read_commits_after_older_update :
    TmReachable true staleReadState ∧
      staleReadState.txns[1]?.map (fun t => (t.ctx.commitId, t.ctx.rwSet.lookup ⟨0, 0⟩, t.status)) =
        some (3, some .update, .committed) ∧
      staleReadState.txns[2]?.map (fun t => (t.ctx.commitId, t.status)) = some (4, .committed) ∧
      Before staleReadState.log (.committed 1) (.read 2 ⟨0, 0⟩) :=
  ⟨staleReadState_reachable, by decide, by decide, by decide⟩

-- Once Tj has read V without holding it, no transaction with a smaller commit id commits an
-- UPDATE or DELETE of V afterwards.
theorem older_replace_never_commits_after_younger_read {s : TmSystem} (hs : TmReachable true s)
    {i j : Nat} {ti tj : TmTxn} {location : ItemPointer}
    (hi : s.txns[i]? = some ti) (hj : s.txns[j]? = some tj)
    (replaced : ti.ctx.rwSet.lookup location = some .update ∨
      ti.ctx.rwSet.lookup location = some .delete)
    (older : ti.ctx.commitId < tj.ctx.commitId) :
    ¬ Before s.log (.read j location) (.committed i) := by
  intro before
  have entry : ∃ type, ti.ctx.rwSet.lookup location = some type ∧ type.replaces := by
    rcases replaced with entry | entry
    · exact ⟨_, entry, rfl⟩
    · exact ⟨_, entry, rfl⟩
  obtain ⟨tj', lookup, below⟩ :=
    (readerInv_of_reachable hs).ordered i j location ti before hi entry
  rw [hj] at lookup
  cases lookup
  exact absurd older (not_lt.mpr below)

theorem older_replace_never_commits_after_younger_read_of_stale_read :
    ¬ Before staleReadState.log (.read 2 ⟨0, 0⟩) (.committed 1) := by
  obtain ⟨ti, hi⟩ := Option.isSome_iff_exists.mp (by decide : (staleReadState.txns[1]?).isSome)
  obtain ⟨tj, hj⟩ := Option.isSome_iff_exists.mp (by decide : (staleReadState.txns[2]?).isSome)
  have writer : staleReadState.txns[1]?.map (fun t => (t.ctx.rwSet.lookup ⟨0, 0⟩, t.ctx.commitId)) =
      some (some .update, 3) := by decide
  have reader : staleReadState.txns[2]?.map (fun t => t.ctx.commitId) = some 4 := by decide
  rw [hi] at writer
  rw [hj] at reader
  simp only [Option.map_some, Option.some.injEq, Prod.mk.injEq] at writer reader
  exact older_replace_never_commits_after_younger_read staleReadState_reachable hi hj
    (.inl writer.1) (by rw [writer.2, reader]; decide)

end Peloton.Concurrency
