import Peloton.Concurrency.TransactionSystem
import Peloton.Concurrency.TimestampOrderingSpec

set_option autoImplicit false

namespace Peloton.Concurrency

open Storage KeyedList

/-! Which versions a running transaction holds. A transaction holds every version its
read/write set names with an owning entry, and the newer version of each UPDATE and DELETE entry;
a version it wrote that replaces another points at one it holds, whose prev pointer points back.
Nobody else touches a held version, so one step of one transaction keeps what every other
transaction holds. -/

namespace TmSystem

def Allocated (s : TmSystem) (ℓ : ItemPointer) : Prop := ℓ.block = 0 ∧ ℓ.offset < s.nextSlot

theorem activeCtx_eq_some {s : TmSystem} {i : Nat} {ctx : TransactionContext} :
    s.activeCtx i = some ctx ↔ s.txns[i]? = some ⟨ctx, .active⟩ := by
  unfold activeCtx
  split
  · next found => simp [found]
  · next notActive =>
    simp only [reduceCtorEq, false_iff]
    intro found
    exact notActive ctx found

theorem lt_length_of_activeCtx {s : TmSystem} {i : Nat} {ctx : TransactionContext}
    (found : s.activeCtx i = some ctx) : i < s.txns.length :=
  (List.getElem?_eq_some_iff.mp (activeCtx_eq_some.mp found)).1

theorem getElem?_set_of_activeCtx {s : TmSystem} {i : Nat} {ctx : TransactionContext}
    (found : s.activeCtx i = some ctx) (t : TmTxn) (j : Nat) :
    (s.txns.set i t)[j]? = if j = i then some t else s.txns[j]? := by
  rw [List.getElem?_set]
  by_cases same : j = i
  · subst same; simp [lt_length_of_activeCtx found]
  · simp [same, Ne.symm same]

theorem txns_set_self {s : TmSystem} {i : Nat} {ctx : TransactionContext}
    (found : s.activeCtx i = some ctx) : s.txns.set i ⟨ctx, .active⟩ = s.txns := by
  apply List.ext_getElem?
  intro j
  rw [getElem?_set_of_activeCtx found]
  split
  · next same => rw [same, activeCtx_eq_some.mp found]
  · rfl

theorem allocated_freshSlot_succ (s : TmSystem) : s.freshSlot.block = 0 ∧ s.freshSlot.offset < s.nextSlot + 1 :=
  ⟨rfl, Nat.lt_succ_self _⟩

theorem freshSlot_not_allocated (s : TmSystem) : ¬ s.Allocated s.freshSlot :=
  fun allocated => Nat.lt_irrefl _ allocated.2

theorem ne_freshSlot_of_allocated {s : TmSystem} {ℓ : ItemPointer} (allocated : s.Allocated ℓ) :
    ℓ ≠ s.freshSlot := by
  rintro rfl
  exact freshSlot_not_allocated s allocated

theorem isNull_of_allocated {s : TmSystem} {ℓ : ItemPointer} (allocated : s.Allocated ℓ) :
    ℓ.isNull = false := by
  simp [ItemPointer.isNull, allocated.1, INVALID_OID]

theorem getElem?_begin (s : TmSystem) (commitId : Cid) (j : Nat) :
    (s.begin commitId).txns[j]? =
      if j < s.txns.length then s.txns[j]?
      else if j = s.txns.length then
        some ⟨TransactionContext.init 0 .serializable commitId commitId, .active⟩
      else none := by
  show (s.txns ++ _)[j]? = _
  by_cases old : j < s.txns.length
  · rw [if_pos old, List.getElem?_append_left old]
  · rw [if_neg old, List.getElem?_append_right (Nat.le_of_not_lt old)]
    by_cases last : j = s.txns.length
    · subst last; simp
    · rw [if_neg last]
      exact List.getElem?_eq_none (by simp; omega)

theorem getElem?_begin_of_getElem? {s : TmSystem} {commitId : Cid} {j : Nat} {t : TmTxn}
    (lookup : s.txns[j]? = some t) : (s.begin commitId).txns[j]? = some t := by
  rw [getElem?_begin, if_pos (List.getElem?_eq_some_iff.mp lookup).1]
  exact lookup

end TmSystem

theorem ne_initial_of_two_le {x : Nat} (two : 2 ≤ x) : x ≠ INITIAL_TXN_ID := by
  unfold INITIAL_TXN_ID; omega

theorem ne_invalid_of_two_le {x : Nat} (two : 2 ≤ x) : x ≠ INVALID_TXN_ID := by
  unfold INVALID_TXN_ID; omega

/-! ## What one transaction holds -/

structure OwnsWrites (store : Store) (ctx : TransactionContext) : Prop where
  owned : ∀ loc type, ctx.rwSet.lookup loc = some type → type.owns →
    (store.headers loc).transactionId = ctx.txnId
  prevOwned : ∀ loc type, ctx.rwSet.lookup loc = some type → type.replaces →
    (store.headers (store.headers loc).prevItemPointer).transactionId = ctx.txnId
  linked : ∀ v, (store.headers v).transactionId = ctx.txnId →
    (store.headers v).beginCommitId = MAX_CID → (store.headers v).nextItemPointer.isNull = false →
    (store.headers (store.headers v).nextItemPointer).transactionId = ctx.txnId ∧
      (store.headers (store.headers v).nextItemPointer).prevItemPointer = v
  inserted : ∀ v, (store.headers v).transactionId = ctx.txnId →
    (store.headers v).beginCommitId = MAX_CID → (store.headers v).nextItemPointer.isNull = true →
    ctx.rwSet.lookup v = some .insert ∨ ctx.rwSet.lookup v = some .insDel

theorem OwnsWrites.transfer {store store' : Store} {ctx : TransactionContext}
    (h : OwnsWrites store ctx)
    (kept : ∀ ℓ, (store.headers ℓ).transactionId = ctx.txnId → store'.headers ℓ = store.headers ℓ)
    (noneGained : ∀ ℓ, (store'.headers ℓ).transactionId = ctx.txnId →
      (store.headers ℓ).transactionId = ctx.txnId) :
    OwnsWrites store' ctx where
  owned loc type found owns := by
    rw [kept loc (h.owned loc type found owns)]
    exact h.owned loc type found owns
  prevOwned loc type found replaces := by
    have held := h.owned loc type found (RWType.owns_of_replaces replaces)
    rw [kept loc held]
    rw [kept _ (h.prevOwned loc type found replaces)]
    exact h.prevOwned loc type found replaces
  linked v owner written replacing := by
    have held := noneGained v owner
    rw [kept v held] at written replacing ⊢
    obtain ⟨nextHeld, back⟩ := h.linked v held written replacing
    rw [kept _ nextHeld]
    exact ⟨nextHeld, back⟩
  inserted v owner written unlinked := by
    have held := noneGained v owner
    rw [kept v held] at written unlinked
    exact h.inserted v held written unlinked

/-! ## One step of one transaction -/

-- A step of the transaction with id txnId: a slot changes only if that transaction holds it,
-- nobody does, or it has just been handed out; and a slot changes hands only to that
-- transaction or to nobody.
structure StepFrame (s s' : TmSystem) (txnId : TxnId) : Prop where
  kept : ∀ ℓ, (s.store.headers ℓ).transactionId ≠ txnId →
    (s.store.headers ℓ).transactionId ≠ INITIAL_TXN_ID → (s.Allocated ℓ ∨ ¬ s'.Allocated ℓ) →
    s'.store.headers ℓ = s.store.headers ℓ
  owner : ∀ ℓ, (s'.store.headers ℓ).transactionId = (s.store.headers ℓ).transactionId ∨
    (s'.store.headers ℓ).transactionId = txnId ∨
    (s'.store.headers ℓ).transactionId = INITIAL_TXN_ID ∨
    (s'.store.headers ℓ).transactionId = INVALID_TXN_ID
  grows : s.nextSlot ≤ s'.nextSlot

structure OwnInv (s : TmSystem) : Prop where
  fresh : ∀ ℓ, ¬ s.Allocated ℓ → s.store.headers ℓ = TupleHeader.initial
  ids : ∀ (i : Nat) (t : TmTxn), s.txns[i]? = some t → 2 ≤ t.ctx.commitId ∧ t.ctx.commitId < MAX_CID ∧
    t.ctx.txnId = t.ctx.commitId ∧ t.ctx.isolationLevel = .serializable
  distinct : ∀ (i j : Nat) (ti tj : TmTxn), s.txns[i]? = some ti → s.txns[j]? = some tj →
    ti.ctx.txnId = tj.ctx.txnId → i = j
  nodup : ∀ (i : Nat) (t : TmTxn), s.txns[i]? = some t → (t.ctx.rwSet.map Prod.fst).Nodup
  allocated : ∀ (i : Nat) (t : TmTxn) (loc : ItemPointer) (type : RWType), s.txns[i]? = some t → t.ctx.rwSet.lookup loc = some type →
    s.Allocated loc
  writes : ∀ (i : Nat) (ctx : TransactionContext), s.activeCtx i = some ctx → OwnsWrites s.store ctx
  owners : ∀ ℓ, (s.store.headers ℓ).transactionId ≠ INITIAL_TXN_ID →
    (s.store.headers ℓ).transactionId ≠ INVALID_TXN_ID →
    ∃ (i : Nat) (t : TmTxn), s.txns[i]? = some t ∧ t.ctx.txnId = (s.store.headers ℓ).transactionId

section OwnInv

variable {s s' : TmSystem} {txnId : TxnId}

theorem OwnInv.allocated_of_ne_invalid (inv : OwnInv s) {ℓ : ItemPointer}
    (used : (s.store.headers ℓ).transactionId ≠ INVALID_TXN_ID) : s.Allocated ℓ := by
  by_contra unused
  exact used (by rw [inv.fresh ℓ unused]; rfl)

theorem OwnInv.two_le (inv : OwnInv s) {i : Nat} {ctx : TransactionContext}
    (found : s.activeCtx i = some ctx) : 2 ≤ ctx.txnId := by
  obtain ⟨two, _, same, _⟩ := inv.ids i _ (TmSystem.activeCtx_eq_some.mp found)
  rw [same]
  exact two

theorem OwnInv.serializable (inv : OwnInv s) {i : Nat} {ctx : TransactionContext}
    (found : s.activeCtx i = some ctx) : ctx.isolationLevel = .serializable :=
  (inv.ids i _ (TmSystem.activeCtx_eq_some.mp found)).2.2.2

theorem OwnInv.allocated_of_held (inv : OwnInv s) {i : Nat} {ctx : TransactionContext}
    (found : s.activeCtx i = some ctx) {ℓ : ItemPointer}
    (held : (s.store.headers ℓ).transactionId = ctx.txnId) : s.Allocated ℓ :=
  inv.allocated_of_ne_invalid (by rw [held]; exact ne_invalid_of_two_le (inv.two_le found))

theorem StepFrame.ownsWrites (frame : StepFrame s s' txnId) (inv : OwnInv s) {ctx : TransactionContext}
    (h : OwnsWrites s.store ctx) (two : 2 ≤ ctx.txnId) (other : ctx.txnId ≠ txnId) :
    OwnsWrites s'.store ctx :=
  h.transfer
    (fun ℓ held => frame.kept ℓ (by rw [held]; exact other) (by rw [held]; exact ne_initial_of_two_le two)
      (.inl (inv.allocated_of_ne_invalid (by rw [held]; exact ne_invalid_of_two_le two))))
    (fun ℓ held => by
      rcases frame.owner ℓ with same | mine | free | unused
      · rw [← same]; exact held
      · exact absurd (held.symm.trans mine) other
      · exact absurd (held.symm.trans free) (ne_initial_of_two_le two)
      · exact absurd (held.symm.trans unused) (ne_invalid_of_two_le two))

theorem StepFrame.fresh (frame : StepFrame s s' txnId) (inv : OwnInv s) (two : 2 ≤ txnId) :
    ∀ ℓ, ¬ s'.Allocated ℓ → s'.store.headers ℓ = TupleHeader.initial := by
  intro ℓ unused
  have before : ¬ s.Allocated ℓ := fun allocated =>
    unused ⟨allocated.1, lt_of_lt_of_le allocated.2 frame.grows⟩
  have initial := inv.fresh ℓ before
  have unowned : (s.store.headers ℓ).transactionId = INVALID_TXN_ID := by rw [initial]; rfl
  rw [frame.kept ℓ (by rw [unowned]; exact (ne_invalid_of_two_le two).symm)
    (by rw [unowned]; decide) (.inr unused), initial]

end OwnInv

/-! ## The read/write set keeps one entry a version -/

namespace TransactionContext

variable (ctx : TransactionContext) (location : ItemPointer)
  (nodup : (ctx.rwSet.map Prod.fst).Nodup)
include nodup

theorem nodup_recordRead : ((ctx.recordRead location).rwSet.map Prod.fst).Nodup := by
  unfold recordRead
  cases absent : ctx.rwSet.lookup location with
  | none => exact nodup_insertNew _ _ _ nodup absent
  | some _ => exact nodup

theorem nodup_recordReadOwn : ((ctx.recordReadOwn location).rwSet.map Prod.fst).Nodup := by
  unfold recordReadOwn
  cases found : ctx.rwSet.lookup location with
  | none => exact nodup_insertNew _ _ _ nodup found
  | some type => cases type <;> simpa [keys_updateKey] using nodup

theorem nodup_recordUpdate : ((ctx.recordUpdate location).rwSet.map Prod.fst).Nodup := by
  unfold recordUpdate
  cases found : ctx.rwSet.lookup location with
  | none => exact nodup_insertNew _ _ _ nodup found
  | some type => cases type <;> simpa [keys_updateKey] using nodup

theorem nodup_recordInsert : ((ctx.recordInsert location).rwSet.map Prod.fst).Nodup := by
  unfold recordInsert isInRWSet
  cases found : ctx.rwSet.lookup location with
  | none => simpa using nodup_insertNew _ _ RWType.insert nodup found
  | some _ => simpa using nodup

theorem nodup_recordDelete : ((ctx.recordDelete location).1.rwSet.map Prod.fst).Nodup := by
  unfold recordDelete
  cases found : ctx.rwSet.lookup location with
  | none => exact nodup_insertNew _ _ _ nodup found
  | some type => cases type <;> simpa [keys_updateKey] using nodup

end TransactionContext

/-! ## The invariant through one step -/

section Steps

variable {s s' : TmSystem} {txnId : TxnId}

theorem OwnsWrites.congr {store store' : Store} {ctx : TransactionContext} (h : OwnsWrites store ctx)
    (owner : ∀ ℓ, (store'.headers ℓ).transactionId = (store.headers ℓ).transactionId)
    (began : ∀ ℓ, (store'.headers ℓ).beginCommitId = (store.headers ℓ).beginCommitId)
    (next : ∀ ℓ, (store'.headers ℓ).nextItemPointer = (store.headers ℓ).nextItemPointer)
    (prev : ∀ ℓ, (store'.headers ℓ).prevItemPointer = (store.headers ℓ).prevItemPointer) :
    OwnsWrites store' ctx where
  owned loc type found owns := by rw [owner]; exact h.owned loc type found owns
  prevOwned loc type found replaces := by
    rw [prev, owner]; exact h.prevOwned loc type found replaces
  linked v held written replacing := by
    rw [owner] at held; rw [began] at written; rw [next] at replacing ⊢
    rw [owner, prev]
    exact h.linked v held written replacing
  inserted v held written unlinked := by
    rw [owner] at held; rw [began] at written; rw [next] at unlinked
    exact h.inserted v held written unlinked

theorem OwnInv.of_step (inv : OwnInv s) {i : Nat} {ctx ctx' : TransactionContext}
    {status : TxnStatus} (found : s.activeCtx i = some ctx)
    (txns : s'.txns = s.txns.set i ⟨ctx', status⟩) (frame : StepFrame s s' ctx.txnId)
    (sameId : ctx'.txnId = ctx.txnId) (sameCommit : ctx'.commitId = ctx.commitId)
    (sameIsolation : ctx'.isolationLevel = ctx.isolationLevel)
    (nodup : (ctx'.rwSet.map Prod.fst).Nodup)
    (allocated : ∀ loc type, ctx'.rwSet.lookup loc = some type → s'.Allocated loc)
    (actor : status = .active → OwnsWrites s'.store ctx') : OwnInv s' := by
  have mine := TmSystem.activeCtx_eq_some.mp found
  have two := inv.two_le found
  have lookupTxn : ∀ j, s'.txns[j]? = if j = i then some ⟨ctx', status⟩ else s.txns[j]? := by
    intro j; rw [txns]; exact TmSystem.getElem?_set_of_activeCtx found _ j
  have wider : ∀ ℓ, s.Allocated ℓ → s'.Allocated ℓ :=
    fun ℓ allocated => ⟨allocated.1, lt_of_lt_of_le allocated.2 frame.grows⟩
  refine ⟨frame.fresh inv two, ?_, ?_, ?_, ?_, ?_, ?_⟩
  · intro j t lookup
    rw [lookupTxn] at lookup
    split at lookup
    · cases lookup
      rw [sameCommit, sameId, sameIsolation]
      exact inv.ids i _ mine
    · exact inv.ids j t lookup
  · intro j k tj tk lookupJ lookupK same
    rw [lookupTxn] at lookupJ lookupK
    split at lookupJ <;> split at lookupK
    · next isJ isK => rw [isJ, isK]
    · next isJ _ =>
      cases lookupJ
      exact absurd (inv.distinct i k _ tk mine lookupK (by rw [← same, sameId])).symm (by omega)
    · next _ isK =>
      cases lookupK
      exact absurd (inv.distinct j i tj _ lookupJ mine (by rw [same, sameId])) (by omega)
    · exact inv.distinct j k tj tk lookupJ lookupK same
  · intro j t lookup
    rw [lookupTxn] at lookup
    split at lookup
    · cases lookup; exact nodup
    · exact inv.nodup j t lookup
  · intro j t loc type lookup entry
    rw [lookupTxn] at lookup
    split at lookup
    · cases lookup; exact allocated loc type entry
    · exact wider loc (inv.allocated j t loc type lookup entry)
  · intro j c active
    have lookup := TmSystem.activeCtx_eq_some.mp active
    rw [lookupTxn] at lookup
    split at lookup
    · cases lookup; exact actor rfl
    · next other =>
      have before : s.activeCtx j = some c := TmSystem.activeCtx_eq_some.mpr lookup
      refine frame.ownsWrites inv (inv.writes j c before) (inv.two_le before) fun same => other ?_
      exact inv.distinct j i _ _ lookup mine same
  · intro ℓ notFree used
    -- a version keeps its owner, or passes to the stepping transaction
    rcases frame.owner ℓ with same | mine' | free | unused
    · obtain ⟨j, t, lookup, owner⟩ := inv.owners ℓ (by rw [← same]; exact notFree)
        (by rw [← same]; exact used)
      by_cases isActor : j = i
      · subst isActor
        rw [mine] at lookup
        cases lookup
        exact ⟨j, ⟨ctx', status⟩, by rw [lookupTxn, if_pos rfl], by rw [sameId, owner, same]⟩
      · exact ⟨j, t, by rw [lookupTxn, if_neg isActor]; exact lookup, by rw [owner, same]⟩
    · exact ⟨i, ⟨ctx', status⟩, by rw [lookupTxn, if_pos rfl], by rw [sameId, mine']⟩
    · exact absurd free notFree
    · exact absurd unused used

theorem OwnsWrites.of_readsOnly {store store' : Store} {ctx ctx' : TransactionContext}
    {location : ItemPointer} (h : OwnsWrites store ctx) (reads : ReadsOnly store store' location ctx)
    (notHeld : (store.headers location).transactionId ≠ ctx.txnId)
    (began : (store'.headers location).transactionId = ctx.txnId →
      (store.headers location).beginCommitId ≠ MAX_CID)
    (sameId : ctx'.txnId = ctx.txnId)
    (entries : ∀ loc, loc ≠ location → ctx'.rwSet.lookup loc = ctx.rwSet.lookup loc)
    (entry : ctx'.rwSet.lookup location = ctx.rwSet.lookup location ∨
      ctx'.rwSet.lookup location = some .read ∨
      (ctx'.rwSet.lookup location = some .readOwn ∧
        (store'.headers location).transactionId = ctx.txnId)) :
    OwnsWrites store' ctx' := by
  have kept : ∀ ℓ, (store.headers ℓ).transactionId = ctx.txnId → store'.headers ℓ = store.headers ℓ :=
    fun ℓ held => reads.others ℓ fun same => notHeld (same ▸ held)
  have gained : ∀ ℓ, ℓ ≠ location → (store'.headers ℓ).transactionId = (store.headers ℓ).transactionId :=
    fun ℓ different => by rw [reads.others ℓ different]
  -- an entry at the read version is no owning entry of the transaction from before
  have notOwned : ∀ type, ctx.rwSet.lookup location = some type → type.owns = false := by
    intro type found
    by_contra owns
    exact notHeld (h.owned location type found (by simpa using owns))
  refine ⟨fun loc type found owns => ?_, fun loc type found replaces => ?_,
    fun v held written replacing => ?_, fun v held written unlinked => ?_⟩ <;>
    simp only [sameId] at *
  · by_cases same : loc = location
    · subst same
      rcases entry with old | read | ⟨readOwn, taken⟩
      · rw [old] at found; simp [notOwned type found] at owns
      · rw [read] at found; cases found; simp [RWType.owns] at owns
      · exact taken
    · rw [entries loc same] at found
      rw [kept loc (h.owned loc type found owns)]
      exact h.owned loc type found owns
  · by_cases same : loc = location
    · subst same
      rcases entry with old | read | ⟨readOwn, _⟩
      · rw [old] at found
        exact absurd (RWType.owns_of_replaces replaces) (by simp [notOwned type found])
      · rw [read] at found; cases found; simp [RWType.replaces] at replaces
      · rw [readOwn] at found; cases found; simp [RWType.replaces] at replaces
    · rw [entries loc same] at found
      have held := h.owned loc type found (RWType.owns_of_replaces replaces)
      rw [kept loc held, kept _ (h.prevOwned loc type found replaces)]
      exact h.prevOwned loc type found replaces
  · have different : v ≠ location := by
      rintro rfl
      exact began held (by rw [← reads.beginCommitId]; exact written)
    rw [gained v different] at held
    rw [kept v held] at written replacing ⊢
    obtain ⟨nextHeld, back⟩ := h.linked v held written replacing
    rw [kept _ nextHeld]
    exact ⟨nextHeld, back⟩
  · have different : v ≠ location := by
      rintro rfl
      exact began held (by rw [← reads.beginCommitId]; exact written)
    rw [gained v different] at held
    rw [kept v held] at written unlinked
    rw [entries v different]
    exact h.inserted v held written unlinked

theorem OwnsWrites.link {store : Store} {ctx ctx' : TransactionContext} {location fresh : ItemPointer}
    (newEnd : Option Cid) (h : OwnsWrites store ctx)
    (held : (store.headers location).transactionId = ctx.txnId)
    (latest : (store.headers location).prevItemPointer.isNull = true)
    (unused : store.headers fresh = TupleHeader.initial)
    (heldOld : ∀ ℓ, (store.headers ℓ).transactionId = ctx.txnId → ℓ ≠ fresh)
    (nonNull : ∀ ℓ, (store.headers ℓ).transactionId = ctx.txnId → ℓ.isNull = false)
    (sameId : ctx'.txnId = ctx.txnId) (absent : ctx'.rwSet.lookup fresh = none)
    (entries : ∀ loc, loc ≠ location → ctx'.rwSet.lookup loc = ctx.rwSet.lookup loc)
    (entry : ctx.rwSet.lookup location = some .insert ∨ ctx.rwSet.lookup location = some .insDel →
      ctx'.rwSet.lookup location = some .insert ∨ ctx'.rwSet.lookup location = some .insDel) :
    OwnsWrites (linkNewVersion store ctx.txnId location fresh newEnd) ctx' := by
  have different : location ≠ fresh := heldOld location held
  have headers := linkNewVersion_headers store ctx.txnId different newEnd
  have keep : ∀ ℓ, ℓ ≠ fresh → ℓ ≠ location →
      (linkNewVersion store ctx.txnId location fresh newEnd).headers ℓ = store.headers ℓ :=
    fun ℓ notFresh notOld => by rw [headers, if_neg notFresh, if_neg notOld]
  -- off the new slot only the old version's prev pointer changes
  have owner : ∀ ℓ, ℓ ≠ fresh →
      ((linkNewVersion store ctx.txnId location fresh newEnd).headers ℓ).transactionId =
        (store.headers ℓ).transactionId := by
    intro ℓ notFresh
    rw [headers, if_neg notFresh]
    split <;> rfl
  have began : ∀ ℓ, ℓ ≠ fresh →
      ((linkNewVersion store ctx.txnId location fresh newEnd).headers ℓ).beginCommitId =
        (store.headers ℓ).beginCommitId := by
    intro ℓ notFresh
    rw [headers, if_neg notFresh]
    split <;> rfl
  have next : ∀ ℓ, ℓ ≠ fresh →
      ((linkNewVersion store ctx.txnId location fresh newEnd).headers ℓ).nextItemPointer =
        (store.headers ℓ).nextItemPointer := by
    intro ℓ notFresh
    rw [headers, if_neg notFresh]
    split <;> rfl
  have newHeader : (linkNewVersion store ctx.txnId location fresh newEnd).headers fresh =
      { store.headers fresh with
        nextItemPointer := location
        transactionId := ctx.txnId
        endCommitId := newEnd.getD (store.headers fresh).endCommitId
        lastReaderCid := 0
        indirection := (store.headers location).indirection.or (store.headers fresh).indirection } := by
    rw [headers, if_pos rfl]
  have oldHeader : (linkNewVersion store ctx.txnId location fresh newEnd).headers location =
      { store.headers location with prevItemPointer := fresh } := by
    rw [headers, if_neg different, if_pos rfl]
  refine ⟨fun loc type found owns => ?_, fun loc type found replaces => ?_,
    fun v held' written replacing => ?_, fun v held' written unlinked => ?_⟩ <;>
    simp only [sameId] at *
  · have notFresh : loc ≠ fresh := by rintro rfl; rw [absent] at found; cases found
    rw [owner loc notFresh]
    by_cases same : loc = location
    · rw [same]; exact held
    · rw [entries loc same] at found
      exact h.owned loc type found owns
  · have notFresh : loc ≠ fresh := by rintro rfl; rw [absent] at found; cases found
    by_cases same : loc = location
    · rw [same, oldHeader, newHeader]
    · rw [entries loc same] at found
      have prevHeld := h.prevOwned loc type found replaces
      rw [keep loc notFresh same, owner _ (heldOld _ prevHeld)]
      exact prevHeld
  · by_cases same : v = fresh
    · subst same
      rw [newHeader, oldHeader]
      exact ⟨held, rfl⟩
    · rw [owner v same] at held'
      rw [began v same] at written
      rw [next v same] at replacing ⊢
      obtain ⟨nextHeld, back⟩ := h.linked v held' written replacing
      have notOld : (store.headers v).nextItemPointer ≠ location := by
        intro isOld
        rw [isOld] at back
        rw [back, nonNull v held'] at latest
        cases latest
      rw [keep _ (heldOld _ nextHeld) notOld]
      exact ⟨nextHeld, back⟩
  · by_cases same : v = fresh
    · subst same
      rw [newHeader] at unlinked
      rw [nonNull location held] at unlinked
      cases unlinked
    · rw [owner v same] at held'
      rw [began v same] at written
      rw [next v same] at unlinked
      have old := h.inserted v held' written unlinked
      by_cases isOld : v = location
      · subst isOld; exact entry old
      · rw [entries v isOld]; exact old

theorem OwnsWrites.recordDelete {store : Store} {ctx : TransactionContext} {target : ItemPointer}
    (h : OwnsWrites store ctx) (held : (store.headers target).transactionId = ctx.txnId)
    (prevHeld : ∀ type, (ctx.recordDelete target).1.rwSet.lookup target = some type → type.replaces →
      (store.headers (store.headers target).prevItemPointer).transactionId = ctx.txnId) :
    OwnsWrites store (ctx.recordDelete target).1 := by
  refine ⟨fun loc type found owns => ?_, fun loc type found replaces => ?_,
    fun v held' written replacing => h.linked v held' written replacing,
    fun v held' written unlinked => ?_⟩
  · by_cases same : loc = target
    · rw [same]; exact held
    · rw [ctx.recordDelete_lookup_of_ne same] at found
      exact h.owned loc type found owns
  · by_cases same : loc = target
    · subst same; exact prevHeld type found replaces
    · rw [ctx.recordDelete_lookup_of_ne same] at found
      exact h.prevOwned loc type found replaces
  · have old := h.inserted v held' written unlinked
    by_cases same : v = target
    · subst same
      rw [TransactionContext.recordDelete_lookup]
      rcases old with entry | entry <;> simp [entry]
    · rw [ctx.recordDelete_lookup_of_ne same]; exact old

theorem OwnsWrites.untouched {store : Store} {ctx : TransactionContext} (h : OwnsWrites store ctx)
    (nodup : (ctx.rwSet.map Prod.fst).Nodup) {ℓ : ItemPointer}
    (notMine : (store.headers ℓ).transactionId ≠ ctx.txnId) :
    (∀ e ∈ ctx.rwSet, e.2.owns → ℓ ≠ e.1) ∧
      (∀ e ∈ ctx.rwSet, e.2.replaces → ℓ ≠ (store.headers e.1).prevItemPointer) := by
  constructor
  · intro e mem owns same
    exact notMine (same ▸ h.owned e.1 e.2 (lookup_of_mem nodup mem) owns)
  · intro e mem replaces same
    exact notMine (same ▸ h.prevOwned e.1 e.2 (lookup_of_mem nodup mem) replaces)

section Reads

variable (inv : OwnInv s) {i : Nat} {ctx : TransactionContext} (found : s.activeCtx i = some ctx)
include inv found

theorem OwnInv.began_of_begun {location : ItemPointer} (allowed : begun s.store ctx location = true) :
    (s.store.headers location).beginCommitId ≠ MAX_CID := by
  have below := (inv.ids i _ (TmSystem.activeCtx_eq_some.mp found)).2.1
  have le : (s.store.headers location).beginCommitId ≤ ctx.commitId := by simpa [begun] using allowed
  grind

theorem OwnInv.read {location : ItemPointer} {acquire : Bool}
    (discipline : acquire → begun s.store ctx location) :
    OwnInv (s.read i ctx location acquire) := by
  have serializable := inv.serializable found
  have mine := TmSystem.activeCtx_eq_some.mp found
  have reads := @performRead_readsOnly s.store location ctx acquire serializable
  have contexts := @performRead_ctx s.store location ctx acquire serializable
  -- a version stays where it was unless the read finds it free
  have unused : (s.store.headers location).transactionId = INITIAL_TXN_ID ∨
      (s.store.headers location).transactionId = ctx.txnId →
      s.Allocated location := fun used => inv.allocated_of_ne_invalid (by
        rcases used with free | held
        · rw [free]; decide
        · rw [held]; exact ne_invalid_of_two_le (inv.two_le found))
  refine inv.of_step found rfl ⟨fun ℓ other notFree _ => ?_, fun ℓ => ?_, le_rfl⟩ ?_ ?_ ?_ ?_ ?_ ?_
  · by_cases same : ℓ = location
    · subst same
      have notOwner : isOwner s.store ctx ℓ = false := by simpa [isOwner] using other
      show (performRead s.store ctx ℓ acquire).1.headers ℓ = _
      rw [performRead_store_of_held acquire serializable notFree notOwner]
    · exact reads.others ℓ same
  · rcases reads.transactionId ℓ with same | ⟨_, _, taken⟩
    · exact .inl same
    · exact .inr (.inl taken)
  · rcases contexts with same | ⟨same, _⟩ | ⟨same, _⟩ <;> rw [same] <;> rfl
  · rcases contexts with same | ⟨same, _⟩ | ⟨same, _⟩ <;> rw [same] <;> rfl
  · rcases contexts with same | ⟨same, _⟩ | ⟨same, _⟩ <;> rw [same] <;> rfl
  · have nodup := inv.nodup i _ mine
    rcases contexts with same | ⟨same, _⟩ | ⟨same, _⟩ <;> rw [same]
    · exact nodup
    · exact TransactionContext.nodup_recordRead ctx location nodup
    · exact TransactionContext.nodup_recordReadOwn ctx location nodup
  · intro loc type entry
    by_cases same : loc = location
    · subst same
      rcases contexts with kept | ⟨_, free⟩ | ⟨_, taken⟩
      · rw [kept] at entry; exact inv.allocated i _ loc type mine entry
      · exact unused (.inl free)
      · rcases reads.transactionId loc with keep | ⟨free, _⟩
        · exact unused (.inr (keep.symm.trans taken))
        · exact unused (.inl free)
    · have old : ctx.rwSet.lookup loc = some type := by
        rcases contexts with kept | ⟨kept, _⟩ | ⟨kept, _⟩ <;> rw [kept] at entry <;>
          first | exact entry | simpa [same] using entry
      exact inv.allocated i _ loc type mine old
  · intro _
    by_cases owner : isOwner s.store ctx location
    · show OwnsWrites (performRead s.store ctx location acquire).1
        (performRead s.store ctx location acquire).2.1
      rw [performRead_of_owner acquire serializable owner]
      exact inv.writes i ctx found
    · have notHeld : (s.store.headers location).transactionId ≠ ctx.txnId := by
        simpa [isOwner] using owner
      have began : ((performRead s.store ctx location acquire).1.headers location).transactionId =
          ctx.txnId → (s.store.headers location).beginCommitId ≠ MAX_CID := by
        intro taken
        cases acquire with
        | false => exact absurd ((performRead_transactionId serializable location).symm.trans taken) notHeld
        | true => exact inv.began_of_begun found (discipline rfl)
      rcases contexts with same | ⟨same, _⟩ | ⟨same, _⟩
      · exact (inv.writes i ctx found).of_readsOnly reads notHeld began (by rw [same])
          (fun loc _ => by rw [same]) (.inl (by rw [same]))
      · refine (inv.writes i ctx found).of_readsOnly reads notHeld began (by rw [same]; rfl)
          (fun loc different => by rw [same]; exact ctx.recordRead_lookup_of_ne different) ?_
        rw [same, TransactionContext.recordRead_lookup]
        cases ctx.rwSet.lookup location <;> simp
      · next taken =>
        refine (inv.writes i ctx found).of_readsOnly reads notHeld began (by rw [same]; rfl)
          (fun loc different => by rw [same]; exact ctx.recordReadOwn_lookup_of_ne different) ?_
        rw [same, TransactionContext.recordReadOwn_lookup]
        rcases ctx.rwSet.lookup location with _ | type
        · exact .inr (.inr ⟨rfl, taken⟩)
        · cases type <;> first | exact .inl rfl | exact .inr (.inr ⟨rfl, taken⟩)

theorem OwnInv.acquire {location : ItemPointer} (discipline : begun s.store ctx location) :
    OwnInv (s.acquire ctx location) := by
  have mine := TmSystem.activeCtx_eq_some.mp found
  have reads := @readsOnly_acquireOwnership s.store location ctx
  refine inv.of_step found (TmSystem.txns_set_self found).symm
    ⟨fun ℓ _ notFree _ => ?_, fun ℓ => ?_, le_rfl⟩ rfl rfl rfl (inv.nodup i _ mine)
    (fun loc type entry => inv.allocated i _ loc type mine entry) fun _ => ?_
  · by_cases same : ℓ = location
    · subst same
      show (acquireOwnership s.store ctx ℓ).1.headers ℓ = _
      rw [acquireOwnership_of_ne_initial notFree]
    · exact reads.others ℓ same
  · rcases reads.transactionId ℓ with same | ⟨_, _, taken⟩
    · exact .inl same
    · exact .inr (.inl taken)
  · by_cases held : (s.store.headers location).transactionId = ctx.txnId
    · show OwnsWrites (acquireOwnership s.store ctx location).1 ctx
      rw [acquireOwnership_of_ne_initial (by rw [held]; exact ne_initial_of_two_le (inv.two_le found))]
      exact inv.writes i ctx found
    · exact (inv.writes i ctx found).of_readsOnly reads held
        (fun _ => inv.began_of_begun found discipline) rfl (fun _ _ => rfl) (.inl rfl)

theorem OwnInv.insert : OwnInv (s.insert i ctx) := by
  have mine := TmSystem.activeCtx_eq_some.mp found
  have writes := inv.writes i ctx found
  have unused := inv.fresh s.freshSlot (TmSystem.freshSlot_not_allocated s)
  have absent : ctx.rwSet.lookup s.freshSlot = none := by
    cases entry : ctx.rwSet.lookup s.freshSlot with
    | none => rfl
    | some type => exact absurd (inv.allocated i _ _ type mine entry) (TmSystem.freshSlot_not_allocated s)
  have headers : ∀ ℓ, (s.insert i ctx).store.headers ℓ =
      if ℓ = s.freshSlot then
        { s.store.headers ℓ with
          transactionId := ctx.txnId, lastReaderCid := 0, indirection := some s.nextCell }
      else s.store.headers ℓ := fun ℓ => performInsert_headers _ ctx s.freshSlot _ ℓ
  have keep : ∀ ℓ, ℓ ≠ s.freshSlot → (s.insert i ctx).store.headers ℓ = s.store.headers ℓ :=
    fun ℓ different => by rw [headers, if_neg different]
  have heldOld : ∀ ℓ, (s.store.headers ℓ).transactionId = ctx.txnId → ℓ ≠ s.freshSlot :=
    fun ℓ held => TmSystem.ne_freshSlot_of_allocated (inv.allocated_of_held found held)
  have entries : ∀ loc, loc ≠ s.freshSlot →
      (ctx.recordInsert s.freshSlot).rwSet.lookup loc = ctx.rwSet.lookup loc :=
    fun loc different => ctx.recordInsert_lookup_of_ne different
  have inserted : (ctx.recordInsert s.freshSlot).rwSet.lookup s.freshSlot = some .insert := by
    rw [TransactionContext.recordInsert_lookup, absent]; rfl
  refine inv.of_step found rfl ⟨fun ℓ _ _ allocated => ?_, fun ℓ => ?_, Nat.le_succ _⟩ rfl rfl rfl
    (TransactionContext.nodup_recordInsert ctx _ (inv.nodup i _ mine)) ?_ fun _ => ?_
  · refine keep ℓ fun same => ?_
    subst same
    rcases allocated with before | after
    · exact TmSystem.freshSlot_not_allocated s before
    · exact after (TmSystem.allocated_freshSlot_succ s)
  · by_cases same : ℓ = s.freshSlot
    · exact .inr (.inl (by rw [headers, if_pos same]))
    · exact .inl (by rw [keep ℓ same])
  · intro loc type entry
    rw [performInsert_ctx] at entry
    by_cases same : loc = s.freshSlot
    · subst same; exact TmSystem.allocated_freshSlot_succ s
    · rw [entries loc same] at entry
      have before := inv.allocated i _ loc type mine entry
      exact ⟨before.1, Nat.lt_succ_of_lt before.2⟩
  · rw [performInsert_ctx]
    refine ⟨fun loc type entry owns => ?_, fun loc type entry replaces => ?_,
      fun v held written replacing => ?_, fun v held written unlinked => ?_⟩
    · by_cases same : loc = s.freshSlot
      · rw [headers, if_pos same]; rfl
      · rw [entries loc same] at entry
        rw [keep loc same]
        exact writes.owned loc type entry owns
    · by_cases same : loc = s.freshSlot
      · rw [same, inserted] at entry
        cases entry
        simp [RWType.replaces] at replaces
      · rw [entries loc same] at entry
        have prevHeld := writes.prevOwned loc type entry replaces
        rw [keep loc same, keep _ (heldOld _ prevHeld)]
        exact prevHeld
    · by_cases same : v = s.freshSlot
      · rw [headers, if_pos same, same, unused] at replacing
        simp [TupleHeader.initial] at replacing
      · rw [keep v same] at held written replacing ⊢
        obtain ⟨nextHeld, back⟩ := writes.linked v held written replacing
        rw [keep _ (heldOld _ nextHeld)]
        exact ⟨nextHeld, back⟩
    · by_cases same : v = s.freshSlot
      · rw [same, inserted]; exact .inl rfl
      · rw [keep v same] at held written unlinked
        rw [entries v same]
        exact writes.inserted v held written unlinked

theorem OwnInv.link {location : ItemPointer} (owner : isOwner s.store ctx location)
    (latest : (s.store.headers location).prevItemPointer.isNull) (newEnd : Option Cid)
    {ctx' : TransactionContext} (sameId : ctx'.txnId = ctx.txnId)
    (sameCommit : ctx'.commitId = ctx.commitId) (sameIsolation : ctx'.isolationLevel = ctx.isolationLevel)
    (nodup : (ctx'.rwSet.map Prod.fst).Nodup)
    (entries : ∀ loc, loc ≠ location → ctx'.rwSet.lookup loc = ctx.rwSet.lookup loc)
    (entryAllocated : ∀ type, ctx'.rwSet.lookup location = some type → s.Allocated location)
    (entry : ctx.rwSet.lookup location = some .insert ∨ ctx.rwSet.lookup location = some .insDel →
      ctx'.rwSet.lookup location = some .insert ∨ ctx'.rwSet.lookup location = some .insDel) :
    OwnInv { s.setTxn i ctx' .active with
      store := linkNewVersion s.store ctx.txnId location s.freshSlot newEnd
      nextSlot := s.nextSlot + 1 } := by
  have mine := TmSystem.activeCtx_eq_some.mp found
  have held : (s.store.headers location).transactionId = ctx.txnId := by simpa [isOwner] using owner
  have heldOld : ∀ ℓ, (s.store.headers ℓ).transactionId = ctx.txnId → ℓ ≠ s.freshSlot :=
    fun ℓ held => TmSystem.ne_freshSlot_of_allocated (inv.allocated_of_held found held)
  have different : location ≠ s.freshSlot := heldOld location held
  have headers := linkNewVersion_headers s.store ctx.txnId different newEnd
  have wider : ∀ ℓ, s.Allocated ℓ → ℓ.block = 0 ∧ ℓ.offset < s.nextSlot + 1 :=
    fun ℓ allocated => ⟨allocated.1, Nat.lt_succ_of_lt allocated.2⟩
  refine inv.of_step found rfl ⟨fun ℓ notMine _ allocated => ?_, fun ℓ => ?_, Nat.le_succ _⟩
    sameId sameCommit sameIsolation nodup ?_ fun _ => ?_
  · have notFresh : ℓ ≠ s.freshSlot := by
      rintro rfl
      rcases allocated with before | after
      · exact TmSystem.freshSlot_not_allocated s before
      · exact after (TmSystem.allocated_freshSlot_succ s)
    have notOld : ℓ ≠ location := by rintro rfl; exact notMine held
    show (linkNewVersion s.store ctx.txnId location s.freshSlot newEnd).headers ℓ = _
    rw [headers, if_neg notFresh, if_neg notOld]
  · show ((linkNewVersion s.store ctx.txnId location s.freshSlot newEnd).headers ℓ).transactionId = _ ∨ _
    rw [headers]
    split
    · exact .inr (.inl rfl)
    · split <;> exact .inl rfl
  · intro loc type found'
    by_cases same : loc = location
    · subst same; exact wider loc (entryAllocated type found')
    · rw [entries loc same] at found'
      exact wider loc (inv.allocated i _ loc type mine found')
  · refine (inv.writes i ctx found).link newEnd held latest
      (inv.fresh _ (TmSystem.freshSlot_not_allocated s)) heldOld
      (fun ℓ held => TmSystem.isNull_of_allocated (inv.allocated_of_held found held)) sameId ?_
      entries entry
    rw [entries _ (Ne.symm different)]
    cases entry' : ctx.rwSet.lookup s.freshSlot with
    | none => rfl
    | some type => exact absurd (inv.allocated i _ _ type mine entry') (TmSystem.freshSlot_not_allocated s)

theorem OwnInv.update {location : ItemPointer} (owner : isOwner s.store ctx location)
    (latest : (s.store.headers location).prevItemPointer.isNull) :
    OwnInv (s.update i ctx location) := by
  have held : (s.store.headers location).transactionId = ctx.txnId := by simpa [isOwner] using owner
  refine inv.link found owner latest none rfl rfl rfl
    (TransactionContext.nodup_recordUpdate ctx location (inv.nodup i _ (TmSystem.activeCtx_eq_some.mp found)))
    (fun loc different => ctx.recordUpdate_lookup_of_ne different)
    (fun _ _ => inv.allocated_of_held found held) fun old => ?_
  show (ctx.recordUpdate location).rwSet.lookup location = some .insert ∨
    (ctx.recordUpdate location).rwSet.lookup location = some .insDel
  rw [TransactionContext.recordUpdate_lookup]
  rcases old with entry | entry <;> simp [entry]

theorem OwnInv.delete {location : ItemPointer} (owner : isOwner s.store ctx location)
    (latest : (s.store.headers location).prevItemPointer.isNull) :
    OwnInv (s.delete i ctx location) := by
  have held : (s.store.headers location).transactionId = ctx.txnId := by simpa [isOwner] using owner
  refine inv.link found owner latest (some INVALID_CID) rfl rfl rfl
    (TransactionContext.nodup_recordDelete ctx location (inv.nodup i _ (TmSystem.activeCtx_eq_some.mp found)))
    (fun loc different => ctx.recordDelete_lookup_of_ne different)
    (fun _ _ => inv.allocated_of_held found held) fun old => ?_
  show (ctx.recordDelete location).1.rwSet.lookup location = some .insert ∨
    (ctx.recordDelete location).1.rwSet.lookup location = some .insDel
  rw [TransactionContext.recordDelete_lookup]
  rcases old with entry | entry <;> simp [entry]

theorem OwnInv.updateInPlace {location : ItemPointer} : OwnInv (s.updateInPlace i ctx location) :=
  inv.of_step found rfl ⟨fun _ _ _ _ => rfl, fun _ => .inl rfl, le_rfl⟩ rfl rfl rfl
    (inv.nodup i _ (TmSystem.activeCtx_eq_some.mp found))
    (fun loc type entry => inv.allocated i _ loc type (TmSystem.activeCtx_eq_some.mp found) entry)
    fun _ => inv.writes i ctx found

theorem OwnInv.deleteInPlace {location : ItemPointer} (owner : isOwner s.store ctx location)
    (written : isWritten s.store location) : OwnInv (s.deleteInPlace i ctx location) := by
  have mine := TmSystem.activeCtx_eq_some.mp found
  have writes := inv.writes i ctx found
  have held : (s.store.headers location).transactionId = ctx.txnId := by simpa [isOwner] using owner
  have began : (s.store.headers location).beginCommitId = MAX_CID := by simpa [isWritten] using written
  have context := performDeleteInPlace_ctx s.store ctx location
  -- the delete lands on the version the written one replaces, which the transaction holds and
  -- whose prev pointer names the written one; or on an inserted version replacing none
  have recorded : OwnsWrites s.store (performDeleteInPlace s.store ctx location).2 ∧
      s.Allocated (if (s.store.headers location).nextItemPointer.isNull then location
        else (s.store.headers location).nextItemPointer) := by
    rw [context]
    by_cases unlinked : (s.store.headers location).nextItemPointer.isNull
    · simp only [unlinked, if_true]
      refine ⟨writes.recordDelete held fun type entry replaces => ?_, inv.allocated_of_held found held⟩
      rw [TransactionContext.recordDelete_lookup] at entry
      rcases writes.inserted location held began unlinked with old | old <;>
        rw [old] at entry <;> cases entry <;> simp [RWType.replaces] at replaces
    · have linked := writes.linked location held began (by simpa using unlinked)
      simp only [unlinked, Bool.false_eq_true, if_false]
      refine ⟨writes.recordDelete linked.1 fun _ _ _ => ?_, inv.allocated_of_held found linked.1⟩
      rw [linked.2]
      exact held
  have sameStore : ∀ ℓ, (s.deleteInPlace i ctx location).store.headers ℓ =
      { s.store.headers ℓ with endCommitId :=
        if ℓ = location then INVALID_CID else (s.store.headers ℓ).endCommitId } := by
    intro ℓ
    show (performDeleteInPlace s.store ctx location).1.headers ℓ = _
    rw [performDeleteInPlace_store, Store.setEndCommitId_headers]
  refine inv.of_step found rfl ⟨fun ℓ notMine _ _ => ?_, fun ℓ => .inl (by rw [sameStore]), le_rfl⟩
    (by rw [context]; rfl) (by rw [context]; rfl) (by rw [context]; rfl) ?_ ?_ fun _ => ?_
  · have notOld : ℓ ≠ location := by rintro rfl; exact notMine held
    rw [sameStore, if_neg notOld]
  · rw [context]
    exact TransactionContext.nodup_recordDelete ctx _ (inv.nodup i _ mine)
  · intro loc type entry
    by_cases same : loc = (if (s.store.headers location).nextItemPointer.isNull then location
        else (s.store.headers location).nextItemPointer)
    · rw [same]; exact recorded.2
    · rw [context, TransactionContext.recordDelete_lookup_of_ne _ same] at entry
      exact inv.allocated i _ loc type mine entry
  · exact recorded.1.congr (fun ℓ => by rw [sameStore]) (fun ℓ => by rw [sameStore])
      (fun ℓ => by rw [sameStore]) (fun ℓ => by rw [sameStore])

theorem OwnInv.commit : OwnInv (s.commit i ctx) := by
  have mine := TmSystem.activeCtx_eq_some.mp found
  have nodup := inv.nodup i _ mine
  obtain ⟨gc, context⟩ := commitTransaction_ctx s.store ctx
  refine inv.of_step found rfl ⟨fun ℓ notMine _ _ => ?_,
    fun ℓ => (commitTransaction_restamped s.store ctx ℓ).owner.imp_right .inr, le_rfl⟩
    (by rw [context]) (by rw [context]) (by rw [context]) (by rw [context]; exact nodup)
    (fun loc type entry => inv.allocated i _ loc type mine (by rw [context] at entry; exact entry))
    fun committed => by cases committed
  obtain ⟨owned, replaced⟩ := (inv.writes i ctx found).untouched nodup notMine
  exact commitTransaction_headers_of_untouched ℓ nodup owned replaced

theorem OwnInv.abort : OwnInv (s.abort i ctx) := by
  have mine := TmSystem.activeCtx_eq_some.mp found
  have nodup := inv.nodup i _ mine
  obtain ⟨gc, context⟩ := abortTransaction_ctx s.store ctx
  refine inv.of_step found rfl ⟨fun ℓ notMine _ _ => ?_,
    fun ℓ => (abortTransaction_restamped s.store ctx ℓ).owner.imp_right .inr, le_rfl⟩
    (by rw [context]) (by rw [context]) (by rw [context]) (by rw [context]; exact nodup)
    (fun loc type entry => inv.allocated i _ loc type mine (by rw [context] at entry; exact entry))
    fun aborted => by cases aborted
  obtain ⟨owned, replaced⟩ := (inv.writes i ctx found).untouched nodup notMine
  exact abortTransaction_headers_of_untouched ℓ nodup owned replaced

end Reads

theorem OwnInv.other_of_unique (inv : OwnInv s) {commitId : Cid}
    (unique : ∀ t ∈ s.txns, t.ctx.commitId ≠ commitId) (j : Nat) (t : TmTxn)
    (lookup : s.txns[j]? = some t) : t.ctx.txnId ≠ commitId := by
  rw [(inv.ids j t lookup).2.2.1]
  exact unique t (List.mem_of_getElem? lookup)

theorem OwnInv.unheld (inv : OwnInv s) {commitId : Cid} (low : 2 ≤ commitId)
    (unique : ∀ t ∈ s.txns, t.ctx.commitId ≠ commitId) (ℓ : ItemPointer) :
    (s.store.headers ℓ).transactionId ≠ commitId := by
  intro held
  obtain ⟨j, t, lookup, owner⟩ := inv.owners ℓ (by rw [held]; exact ne_initial_of_two_le low)
    (by rw [held]; exact ne_invalid_of_two_le low)
  exact inv.other_of_unique unique j t lookup (owner.trans held)

theorem OwnInv.begin (inv : OwnInv s) {commitId : Cid} (low : 2 ≤ commitId)
    (high : commitId < MAX_CID) (unique : ∀ t ∈ s.txns, t.ctx.commitId ≠ commitId) :
    OwnInv (s.begin commitId) := by
  have lookupTxn := TmSystem.getElem?_begin s commitId
  have other := inv.other_of_unique unique
  have unheld := inv.unheld low unique
  refine ⟨inv.fresh, fun j t lookup => ?_, fun j k tj tk lookupJ lookupK same => ?_,
    fun j t lookup => ?_, fun j t loc type lookup entry => ?_, fun j c active => ?_,
    fun ℓ notFree used => ?_⟩
  · rw [lookupTxn] at lookup
    split at lookup
    · exact inv.ids j t lookup
    · split at lookup
      · cases lookup; exact ⟨low, high, rfl, rfl⟩
      · cases lookup
  · rw [lookupTxn] at lookupJ lookupK
    split at lookupJ <;> split at lookupK
    · exact inv.distinct j k tj tk lookupJ lookupK same
    · split at lookupK
      · cases lookupK; exact absurd same (other j tj lookupJ)
      · cases lookupK
    · split at lookupJ
      · cases lookupJ; exact absurd same.symm (other k tk lookupK)
      · cases lookupJ
    · have newJ : j = s.txns.length := by
        split at lookupJ
        · assumption
        · cases lookupJ
      have newK : k = s.txns.length := by
        split at lookupK
        · assumption
        · cases lookupK
      rw [newJ, newK]
  · rw [lookupTxn] at lookup
    split at lookup
    · exact inv.nodup j t lookup
    · split at lookup
      · cases lookup; exact List.nodup_nil
      · cases lookup
  · rw [lookupTxn] at lookup
    split at lookup
    · exact inv.allocated j t loc type lookup entry
    · split at lookup
      · cases lookup; cases entry
      · cases lookup
  · have lookup := TmSystem.activeCtx_eq_some.mp active
    rw [lookupTxn] at lookup
    split at lookup
    · exact inv.writes j c (TmSystem.activeCtx_eq_some.mpr lookup)
    · split at lookup
      · have same : TransactionContext.init 0 .serializable commitId commitId = c :=
          (TmTxn.mk.inj (Option.some.inj lookup)).1
        subst same
        exact ⟨fun _ _ entry _ => (by cases entry), fun _ _ entry _ => (by cases entry),
          fun v held _ _ => absurd held (unheld v), fun v held _ _ => absurd held (unheld v)⟩
      · cases lookup
  · obtain ⟨j, t, lookup, owner⟩ := inv.owners ℓ notFree used
    exact ⟨j, t, TmSystem.getElem?_begin_of_getElem? lookup, owner⟩

theorem ownInv_initial : OwnInv TmSystem.initial where
  fresh _ _ := rfl
  ids _ _ lookup := by cases lookup
  distinct _ _ _ _ lookup := by cases lookup
  nodup _ _ lookup := by cases lookup
  allocated _ _ _ _ lookup := by cases lookup
  writes _ _ active := by cases active
  owners _ _ used := absurd rfl used

theorem OwnInv.step (inv : OwnInv s) (h : Transition true s s') : OwnInv s' := by
  cases h with
  | begin low high unique => exact inv.begin low high unique
  | read location acquire found discipline => exact inv.read found fun wants => discipline rfl wants
  | acquire location found discipline => exact inv.acquire found (discipline rfl)
  | insert found => exact inv.insert found
  | update found owner latest _ => exact inv.update found owner latest
  | updateInPlace found _ _ _ => exact inv.updateInPlace found
  | delete found _ owner latest _ => exact inv.delete found owner latest
  | deleteInPlace found owner written => exact inv.deleteInPlace found owner written
  | commit found => exact inv.commit found
  | abort found => exact inv.abort found

theorem ownInv_of_reachable (hs : TmReachable true s) : OwnInv s :=
  TransitionSystem.Reachable.invariant ownInv_initial
    (fun _ _ _ inv step => inv.step (transition_of_step true step)) hs

def insertThenUpdate : List TmAction :=
  [.begin 2, .insert 0, .commit 0, .begin 3, .acquire 1 ⟨0, 0⟩, .update 1 ⟨0, 0⟩, .commit 1]

theorem ownInv_of_reachable_after_update :
    OwnInv ((TransitionSystem.run (step true) TmSystem.initial insertThenUpdate).getD TmSystem.initial) :=
  ownInv_of_reachable (TransitionSystem.reachable_of_run insertThenUpdate rfl)

end Steps

end Peloton.Concurrency
