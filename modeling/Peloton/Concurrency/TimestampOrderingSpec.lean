import Peloton.Concurrency.TimestampOrdering

set_option autoImplicit false

/-! What each call of the timestamp-ordering manager does to the version headers, stated once so
that the invariants of the transaction system never unfold a call. -/

namespace Peloton

def RWType.owns : RWType → Bool
  | .readOwn | .update | .delete | .insert | .insDel => true
  | .invalid | .read => false

def RWType.replaces : RWType → Bool
  | .update | .delete => true
  | _ => false

theorem RWType.owns_of_replaces {t : RWType} (h : t.replaces) : t.owns := by
  cases t <;> simp_all [RWType.replaces, RWType.owns]

end Peloton

namespace Peloton.Storage.Store

/-! Each setter as the header it leaves at every slot, so that a field it does not write reads
back unchanged. -/

variable (s : Store) (loc ℓ : ItemPointer)

@[simp] theorem setTransactionId_headers (v : TxnId) :
    (s.setTransactionId loc v).headers ℓ =
      { s.headers ℓ with transactionId := if ℓ = loc then v else (s.headers ℓ).transactionId } := by
  by_cases same : ℓ = loc
  · subst same; simp [setTransactionId]
  · simp [setTransactionId, same]

@[simp] theorem setBeginCommitId_headers (v : Cid) :
    (s.setBeginCommitId loc v).headers ℓ =
      { s.headers ℓ with beginCommitId := if ℓ = loc then v else (s.headers ℓ).beginCommitId } := by
  by_cases same : ℓ = loc
  · subst same; simp [setBeginCommitId]
  · simp [setBeginCommitId, same]

@[simp] theorem setEndCommitId_headers (v : Cid) :
    (s.setEndCommitId loc v).headers ℓ =
      { s.headers ℓ with endCommitId := if ℓ = loc then v else (s.headers ℓ).endCommitId } := by
  by_cases same : ℓ = loc
  · subst same; simp [setEndCommitId]
  · simp [setEndCommitId, same]

@[simp] theorem setNextItemPointer_headers (v : ItemPointer) :
    (s.setNextItemPointer loc v).headers ℓ =
      { s.headers ℓ with
        nextItemPointer := if ℓ = loc then v else (s.headers ℓ).nextItemPointer } := by
  by_cases same : ℓ = loc
  · subst same; simp [setNextItemPointer]
  · simp [setNextItemPointer, same]

@[simp] theorem setPrevItemPointer_headers (v : ItemPointer) :
    (s.setPrevItemPointer loc v).headers ℓ =
      { s.headers ℓ with
        prevItemPointer := if ℓ = loc then v else (s.headers ℓ).prevItemPointer } := by
  by_cases same : ℓ = loc
  · subst same; simp [setPrevItemPointer]
  · simp [setPrevItemPointer, same]

@[simp] theorem setIndirection_headers (v : Option Nat) :
    (s.setIndirection loc v).headers ℓ =
      { s.headers ℓ with indirection := if ℓ = loc then v else (s.headers ℓ).indirection } := by
  by_cases same : ℓ = loc
  · subst same; simp [setIndirection]
  · simp [setIndirection, same]

@[simp] theorem setLastReaderCid_headers (v : Cid) :
    (s.setLastReaderCid loc v).headers ℓ =
      { s.headers ℓ with lastReaderCid := if ℓ = loc then v else (s.headers ℓ).lastReaderCid } := by
  by_cases same : ℓ = loc
  · subst same; simp [setLastReaderCid]
  · simp [setLastReaderCid, same]

@[simp] theorem setTransactionId_indirections (v : TxnId) :
    (s.setTransactionId loc v).indirections = s.indirections := rfl

@[simp] theorem setBeginCommitId_indirections (v : Cid) :
    (s.setBeginCommitId loc v).indirections = s.indirections := rfl

@[simp] theorem setEndCommitId_indirections (v : Cid) :
    (s.setEndCommitId loc v).indirections = s.indirections := rfl

@[simp] theorem setNextItemPointer_indirections (v : ItemPointer) :
    (s.setNextItemPointer loc v).indirections = s.indirections := rfl

@[simp] theorem setPrevItemPointer_indirections (v : ItemPointer) :
    (s.setPrevItemPointer loc v).indirections = s.indirections := rfl

@[simp] theorem setIndirection_indirections (v : Option Nat) :
    (s.setIndirection loc v).indirections = s.indirections := rfl

@[simp] theorem setLastReaderCid_indirections (v : Cid) :
    (s.setLastReaderCid loc v).indirections = s.indirections := rfl

end Peloton.Storage.Store

namespace Peloton.Concurrency

open Storage KeyedList

/-! ## Reads and acquisitions -/

-- What a read or an acquisition may do: at its one version, raise the last reader and take a
-- version nobody holds, with a last reader not above the commit id.
structure ReadsOnly (s s' : Store) (location : ItemPointer) (ctx : TransactionContext) : Prop where
  indirections : s'.indirections = s.indirections
  others : ∀ ℓ, ℓ ≠ location → s'.headers ℓ = s.headers ℓ
  shape : s'.headers location =
    { s.headers location with
      transactionId := (s'.headers location).transactionId
      lastReaderCid := (s'.headers location).lastReaderCid }
  reader_le : (s.headers location).lastReaderCid ≤ (s'.headers location).lastReaderCid
  owner : (s'.headers location).transactionId = (s.headers location).transactionId ∨
    ((s.headers location).transactionId = INITIAL_TXN_ID ∧
      (s.headers location).lastReaderCid ≤ ctx.commitId ∧
      (s'.headers location).transactionId = ctx.txnId)

section ReadsOnly

variable {s s' s'' : Store} {location : ItemPointer} {ctx : TransactionContext}

theorem readsOnly_refl : ReadsOnly s s location ctx :=
  ⟨rfl, fun _ _ => rfl, rfl, le_rfl, .inl rfl⟩

theorem ReadsOnly.headers_eq (h : ReadsOnly s s' location ctx) (ℓ : ItemPointer) :
    s'.headers ℓ = s.headers ℓ ∨
      (ℓ = location ∧ s'.headers ℓ = { s.headers ℓ with
        transactionId := (s'.headers ℓ).transactionId
        lastReaderCid := (s'.headers ℓ).lastReaderCid }) := by
  by_cases same : ℓ = location
  · subst same; exact .inr ⟨rfl, h.shape⟩
  · exact .inl (h.others ℓ same)

theorem ReadsOnly.beginCommitId (h : ReadsOnly s s' location ctx) (ℓ : ItemPointer) :
    (s'.headers ℓ).beginCommitId = (s.headers ℓ).beginCommitId := by
  rcases h.headers_eq ℓ with same | ⟨_, same⟩ <;> rw [same]

theorem ReadsOnly.endCommitId (h : ReadsOnly s s' location ctx) (ℓ : ItemPointer) :
    (s'.headers ℓ).endCommitId = (s.headers ℓ).endCommitId := by
  rcases h.headers_eq ℓ with same | ⟨_, same⟩ <;> rw [same]

theorem ReadsOnly.nextItemPointer (h : ReadsOnly s s' location ctx) (ℓ : ItemPointer) :
    (s'.headers ℓ).nextItemPointer = (s.headers ℓ).nextItemPointer := by
  rcases h.headers_eq ℓ with same | ⟨_, same⟩ <;> rw [same]

theorem ReadsOnly.prevItemPointer (h : ReadsOnly s s' location ctx) (ℓ : ItemPointer) :
    (s'.headers ℓ).prevItemPointer = (s.headers ℓ).prevItemPointer := by
  rcases h.headers_eq ℓ with same | ⟨_, same⟩ <;> rw [same]

theorem ReadsOnly.indirection (h : ReadsOnly s s' location ctx) (ℓ : ItemPointer) :
    (s'.headers ℓ).indirection = (s.headers ℓ).indirection := by
  rcases h.headers_eq ℓ with same | ⟨_, same⟩ <;> rw [same]

theorem ReadsOnly.lastReaderCid_le (h : ReadsOnly s s' location ctx) (ℓ : ItemPointer) :
    (s.headers ℓ).lastReaderCid ≤ (s'.headers ℓ).lastReaderCid := by
  by_cases same : ℓ = location
  · subst same; exact h.reader_le
  · rw [h.others ℓ same]

theorem ReadsOnly.transactionId (h : ReadsOnly s s' location ctx) (ℓ : ItemPointer) :
    (s'.headers ℓ).transactionId = (s.headers ℓ).transactionId ∨
      ((s.headers ℓ).transactionId = INITIAL_TXN_ID ∧
        (s.headers ℓ).lastReaderCid ≤ ctx.commitId ∧
        (s'.headers ℓ).transactionId = ctx.txnId) := by
  by_cases same : ℓ = location
  · subst same; exact h.owner
  · exact .inl (by rw [h.others ℓ same])

theorem ReadsOnly.trans_reader (h : ReadsOnly s s' location ctx) (h' : ReadsOnly s' s'' location ctx)
    (keep : (s''.headers location).transactionId = (s'.headers location).transactionId) :
    ReadsOnly s s'' location ctx where
  indirections := by rw [h'.indirections, h.indirections]
  others ℓ different := by rw [h'.others ℓ different, h.others ℓ different]
  shape := by rw [h'.shape, h.shape]
  reader_le := le_trans h.reader_le h'.reader_le
  owner := by rw [keep]; exact h.owner

theorem readsOnly_setLastReaderCid {v : Cid} (raise : (s.headers location).lastReaderCid ≤ v) :
    ReadsOnly s (s.setLastReaderCid location v) location ctx where
  indirections := rfl
  others ℓ different := by simp [Store.setLastReaderCid, different]
  shape := by simp [Store.setLastReaderCid]
  reader_le := by simpa [Store.setLastReaderCid] using raise
  owner := .inl (by simp [Store.setLastReaderCid])

theorem readsOnly_setLastReaderCommitId (isOwner : Bool) :
    ReadsOnly s (setLastReaderCommitId s location ctx.commitId isOwner).1 location ctx := by
  unfold setLastReaderCommitId
  split
  · exact readsOnly_refl
  · split
    · next below => exact readsOnly_setLastReaderCid (le_of_lt below)
    · exact readsOnly_refl

theorem readsOnly_acquireOwnership :
    ReadsOnly s (acquireOwnership s ctx location).1 location ctx := by
  unfold acquireOwnership
  split
  · exact readsOnly_refl
  · next reader =>
    split
    · next free =>
      refine ⟨rfl, fun ℓ different => ?_, ?_, ?_, .inr ⟨free, ?_, ?_⟩⟩
      · simp [Store.setTransactionId, different]
      · simp [Store.setTransactionId]
      · simp [Store.setTransactionId]
      · exact Nat.le_of_not_lt reader
      · simp [Store.setTransactionId]
    · exact readsOnly_refl

theorem acquireOwnership_owner (success : (acquireOwnership s ctx location).2 = true) :
    ((acquireOwnership s ctx location).1.headers location).transactionId = ctx.txnId := by
  unfold acquireOwnership at success ⊢
  by_cases reader : ctx.commitId < (s.headers location).lastReaderCid
  · simp [reader] at success
  · by_cases free : (s.headers location).transactionId = INITIAL_TXN_ID
    · simp [reader, free, Store.setTransactionId]
    · simp [reader, free] at success

theorem acquireOwnership_of_ne_initial
    (held : (s.headers location).transactionId ≠ INITIAL_TXN_ID) :
    (acquireOwnership s ctx location).1 = s := by
  unfold acquireOwnership
  split_ifs <;> rfl

theorem ownForRead_readsOnly (afterAcquire : Store → Store)
    (after : ∀ s₀, ReadsOnly s₀ (afterAcquire s₀) location ctx ∧
      ((afterAcquire s₀).headers location).transactionId = (s₀.headers location).transactionId) :
    ReadsOnly s (ownForRead s ctx location afterAcquire).1 location ctx := by
  unfold ownForRead
  split
  · exact readsOnly_refl
  · split
    · exact readsOnly_refl
    · split
      · next s₁ acquired =>
        have first : ReadsOnly s s₁ location ctx := by
          have := (readsOnly_acquireOwnership : ReadsOnly s (acquireOwnership s ctx location).1 location ctx)
          rwa [acquired] at this
        exact first.trans_reader (after s₁).1 (after s₁).2
      · next s₁ refused =>
        have := (readsOnly_acquireOwnership : ReadsOnly s (acquireOwnership s ctx location).1 location ctx)
        rwa [refused] at this

theorem setLastReaderCommitId_transactionId (isOwner : Bool) :
    ((setLastReaderCommitId s location ctx.commitId isOwner).1.headers location).transactionId =
      (s.headers location).transactionId := by
  unfold setLastReaderCommitId
  split
  · rfl
  · split <;> simp [Store.setLastReaderCid]

theorem performRead_of_serializable (acquire : Bool) (serializable : ctx.isolationLevel = .serializable) :
    performRead s ctx location acquire =
      if acquire then
        ownForRead s ctx location fun s' => (setLastReaderCommitId s' location ctx.commitId true).1
      else if isOwner s ctx location then (s, ctx, true)
      else match setLastReaderCommitId s location ctx.commitId false with
        | (s', true) => (s', ctx.recordRead location, true)
        | (s', false) => (s', ctx, false) := by
  unfold performRead
  rewrite [serializable]
  rfl

theorem performRead_readsOnly (acquire : Bool) (serializable : ctx.isolationLevel = .serializable) :
    ReadsOnly s (performRead s ctx location acquire).1 location ctx := by
  rw [performRead_of_serializable acquire serializable]
  split
  · exact ownForRead_readsOnly _ fun s₀ =>
      ⟨readsOnly_setLastReaderCommitId true, setLastReaderCommitId_transactionId true⟩
  · split
    · exact readsOnly_refl
    · have setReader : ReadsOnly s (setLastReaderCommitId s location ctx.commitId false).1 location ctx :=
        readsOnly_setLastReaderCommitId false
      split
      · next s' result => rw [result] at setReader; exact setReader
      · next s' result => rw [result] at setReader; exact setReader

end ReadsOnly


section PerformRead

variable {s : Store} {location : ItemPointer} {ctx : TransactionContext}

theorem performRead_of_owner (acquire : Bool) (serializable : ctx.isolationLevel = .serializable)
    (owner : isOwner s ctx location = true) :
    performRead s ctx location acquire = (s, ctx, true) := by
  rw [performRead_of_serializable acquire serializable]
  split
  · simp [ownForRead, owner]
  · simp [owner]

theorem performRead_ctx (acquire : Bool) (serializable : ctx.isolationLevel = .serializable) :
    (performRead s ctx location acquire).2.1 = ctx ∨
      ((performRead s ctx location acquire).2.1 = ctx.recordRead location ∧
        (s.headers location).transactionId = INITIAL_TXN_ID) ∨
      ((performRead s ctx location acquire).2.1 = ctx.recordReadOwn location ∧
        ((performRead s ctx location acquire).1.headers location).transactionId = ctx.txnId) := by
  rw [performRead_of_serializable acquire serializable]
  split
  · unfold ownForRead
    split
    · exact .inl rfl
    · split
      · exact .inl rfl
      · split
        · next s₁ acquired =>
          have owner := (acquireOwnership_owner (by rw [acquired]) :
            ((acquireOwnership s ctx location).1.headers location).transactionId = ctx.txnId)
          rw [acquired] at owner
          exact .inr (.inr ⟨rfl, by rw [setLastReaderCommitId_transactionId]; exact owner⟩)
        · exact .inl rfl
  · split
    · exact .inl rfl
    · split
      · next s' recorded =>
        refine .inr (.inl ⟨rfl, ?_⟩)
        unfold setLastReaderCommitId at recorded
        by_contra held
        simp [held] at recorded
      · exact .inl rfl

theorem performRead_success (acquire : Bool) (serializable : ctx.isolationLevel = .serializable)
    (success : (performRead s ctx location acquire).2.2 = true)
    (notOwner : isOwner s ctx location = false) :
    (s.headers location).transactionId = INITIAL_TXN_ID ∧
      ctx.commitId ≤ ((performRead s ctx location acquire).1.headers location).lastReaderCid ∧
      (((performRead s ctx location acquire).1.headers location).transactionId = INITIAL_TXN_ID ∨
        ((performRead s ctx location acquire).1.headers location).transactionId = ctx.txnId) := by
  rw [performRead_of_serializable acquire serializable] at success ⊢
  split
  · next wants =>
    simp only [wants, if_true] at success
    unfold ownForRead at success ⊢
    rw [notOwner] at success ⊢
    simp only [Bool.false_eq_true, if_false] at success ⊢
    by_cases ownable : isOwnable s location
    · simp only [ownable, Bool.not_true, Bool.false_eq_true, if_false] at success ⊢
      have free : (s.headers location).transactionId = INITIAL_TXN_ID :=
        (by simpa [isOwnable] using ownable : _ ∧ _).1
      split
      · next s₁ acquired =>
        have owner := (acquireOwnership_owner (by rw [acquired]) :
          ((acquireOwnership s ctx location).1.headers location).transactionId = ctx.txnId)
        rw [acquired] at owner
        refine ⟨free, ?_, .inr (by rw [setLastReaderCommitId_transactionId]; exact owner)⟩
        unfold setLastReaderCommitId
        simp only [Bool.not_true, Bool.false_and, Bool.false_eq_true, if_false]
        split
        · simp [Store.setLastReaderCid]
        · next notBelow => exact Nat.le_of_not_lt notBelow
      · next s₁ refused =>
        rw [refused] at success
        cases success
    · simp [ownable] at success
  · next plain =>
    simp only [plain, Bool.false_eq_true, if_false, notOwner] at success ⊢
    unfold setLastReaderCommitId at success ⊢
    by_cases free : (s.headers location).transactionId = INITIAL_TXN_ID
    · have freeBeq : ((s.headers location).transactionId != INITIAL_TXN_ID) = false := by
        simp [free]
      simp only [Bool.not_false, freeBeq, Bool.and_false, Bool.false_eq_true, if_false] at success ⊢
      by_cases below : (s.headers location).lastReaderCid < ctx.commitId
      · simp [below, Store.setLastReaderCid, free]
      · simp only [below, if_false]
        exact ⟨free, Nat.le_of_not_lt below, .inl free⟩
    · simp [free] at success

theorem performRead_store_of_held (acquire : Bool) (serializable : ctx.isolationLevel = .serializable)
    (held : (s.headers location).transactionId ≠ INITIAL_TXN_ID)
    (notOwner : isOwner s ctx location = false) :
    (performRead s ctx location acquire).1 = s := by
  rw [performRead_of_serializable acquire serializable]
  have notOwnable : isOwnable s location = false := by simp [isOwnable, held]
  split
  · simp [ownForRead, notOwner, notOwnable]
  · simp only [notOwner, Bool.false_eq_true, if_false]
    have refused : setLastReaderCommitId s location ctx.commitId false = (s, false) := by
      simp [setLastReaderCommitId, held]
    rw [refused]

theorem performRead_transactionId (serializable : ctx.isolationLevel = .serializable)
    (ℓ : ItemPointer) :
    ((performRead s ctx location false).1.headers ℓ).transactionId = (s.headers ℓ).transactionId := by
  by_cases same : ℓ = location
  · subst same
    rw [performRead_of_serializable false serializable]
    simp only [Bool.false_eq_true, if_false]
    split
    · rfl
    · have keep : ((setLastReaderCommitId s ℓ ctx.commitId false).1.headers ℓ).transactionId =
          (s.headers ℓ).transactionId := setLastReaderCommitId_transactionId false
      split
      · next s' result => rw [result] at keep; exact keep
      · next s' result => rw [result] at keep; exact keep
  · rw [(performRead_readsOnly false serializable).others ℓ same]

end PerformRead

/-! ## Inserts and new versions -/

section Writes

variable (s : Store) (ctx : TransactionContext)

theorem performInsert_headers (location : ItemPointer) (cell : Option Nat) (ℓ : ItemPointer) :
    (performInsert s ctx location cell).1.headers ℓ =
      if ℓ = location then
        { s.headers ℓ with transactionId := ctx.txnId, lastReaderCid := 0, indirection := cell }
      else s.headers ℓ := by
  by_cases same : ℓ = location
  · simp [performInsert, initTupleReserved, same]
  · simp [performInsert, initTupleReserved, same]

@[simp] theorem performInsert_indirections (location : ItemPointer) (cell : Option Nat) :
    (performInsert s ctx location cell).1.indirections = s.indirections := rfl

@[simp] theorem performInsert_ctx (location : ItemPointer) (cell : Option Nat) :
    (performInsert s ctx location cell).2 = ctx.recordInsert location := rfl

theorem linkNewVersion_headers (transactionId : TxnId) {old new : ItemPointer} (different : old ≠ new)
    (newEnd : Option Cid) (ℓ : ItemPointer) :
    (linkNewVersion s transactionId old new newEnd).headers ℓ =
      if ℓ = new then
        { s.headers ℓ with
          nextItemPointer := old
          transactionId := transactionId
          endCommitId := newEnd.getD (s.headers ℓ).endCommitId
          lastReaderCid := 0
          indirection := (s.headers old).indirection.or (s.headers ℓ).indirection }
      else if ℓ = old then { s.headers ℓ with prevItemPointer := new }
      else s.headers ℓ := by
  unfold linkNewVersion
  dsimp only
  by_cases isNew : ℓ = new
  · subst isNew
    cases newEnd <;> cases cell : (s.headers old).indirection <;>
      simp [initTupleReserved, different, Ne.symm different, cell]
  · by_cases isOld : ℓ = old
    · subst isOld
      cases newEnd <;> cases cell : (s.headers ℓ).indirection <;>
        simp [initTupleReserved, different, cell]
    · cases newEnd <;> cases cell : (s.headers old).indirection <;>
        simp [initTupleReserved, different, cell, isNew, isOld]

theorem linkNewVersion_indirections (transactionId : TxnId) {old new : ItemPointer}
    (different : old ≠ new) (newEnd : Option Cid) (cell : Nat) :
    (linkNewVersion s transactionId old new newEnd).indirections cell =
      if (s.headers old).indirection = some cell then new else s.indirections cell := by
  unfold linkNewVersion
  dsimp only
  cases newEnd <;> cases owned : (s.headers old).indirection <;>
    simp [initTupleReserved, different, owned, eq_comm]

theorem performDeleteInPlace_store (location : ItemPointer) :
    (performDeleteInPlace s ctx location).1 = s.setEndCommitId location INVALID_CID := by
  unfold performDeleteInPlace
  dsimp only
  split <;> rfl

theorem performDeleteInPlace_ctx (location : ItemPointer) :
    (performDeleteInPlace s ctx location).2 =
      (ctx.recordDelete (if (s.headers location).nextItemPointer.isNull then location
        else (s.headers location).nextItemPointer)).1 := by
  unfold performDeleteInPlace
  by_cases unlinked : (s.headers location).nextItemPointer.isNull <;> simp [unlinked]

end Writes

/-! ## Commit and abort -/

-- What CommitTransaction and AbortTransaction may do to a header: restamp it, release or discard
-- it, and unlink its newer version; the next pointer, the index cell and the last reader stay.
structure Restamped (h h' : TupleHeader) : Prop where
  next : h'.nextItemPointer = h.nextItemPointer
  prev : h'.prevItemPointer = h.prevItemPointer ∨ h'.prevItemPointer = INVALID_ITEMPOINTER
  indirection : h'.indirection = h.indirection
  reader : h'.lastReaderCid = h.lastReaderCid
  owner : h'.transactionId = h.transactionId ∨ h'.transactionId = INITIAL_TXN_ID ∨
    h'.transactionId = INVALID_TXN_ID

theorem Restamped.refl (h : TupleHeader) : Restamped h h :=
  ⟨rfl, .inl rfl, rfl, rfl, .inl rfl⟩

theorem Restamped.trans {h h' h'' : TupleHeader} (first : Restamped h h')
    (second : Restamped h' h'') : Restamped h h'' where
  next := second.next.trans first.next
  prev := by
    rcases second.prev with same | reset
    · rw [same]; exact first.prev
    · exact .inr reset
  indirection := second.indirection.trans first.indirection
  reader := second.reader.trans first.reader
  owner := by
    rcases second.owner with same | released
    · rw [same]; exact first.owner
    · exact .inr released

theorem rollbackVersion_headers (s : Store) (location : ItemPointer) :
    (rollbackVersion s location).headers =
      (((((s.setBeginCommitId (s.headers location).prevItemPointer MAX_CID).setEndCommitId
        (s.headers location).prevItemPointer MAX_CID).setTransactionId
        (s.headers location).prevItemPointer INVALID_TXN_ID).setPrevItemPointer location
        INVALID_ITEMPOINTER).setTransactionId location INITIAL_TXN_ID).headers := by
  unfold rollbackVersion
  dsimp only
  split <;> rfl

section Entries

variable (acc : Store × TransactionContext) (e : ItemPointer × RWType) (ℓ : ItemPointer)

theorem commitEntry_restamped (c : Cid) :
    Restamped (acc.1.headers ℓ) ((commitEntry c acc e).1.headers ℓ) := by
  obtain ⟨s, ctx⟩ := acc
  obtain ⟨location, type⟩ := e
  cases type <;> constructor <;> simp [commitEntry, installVersion, discardVersion, yieldOwnership] <;>
    grind

theorem abortEntry_restamped : Restamped (acc.1.headers ℓ) ((abortEntry acc e).1.headers ℓ) := by
  obtain ⟨s, ctx⟩ := acc
  obtain ⟨location, type⟩ := e
  cases type <;> constructor <;>
    simp [abortEntry, rollbackVersion_headers, discardVersion, yieldOwnership] <;> grind

theorem commitEntry_prevItemPointer (c : Cid) :
    ((commitEntry c acc e).1.headers ℓ).prevItemPointer = (acc.1.headers ℓ).prevItemPointer := by
  obtain ⟨s, ctx⟩ := acc
  obtain ⟨location, type⟩ := e
  cases type <;> simp [commitEntry, installVersion, discardVersion, yieldOwnership]

theorem abortEntry_prevItemPointer_of_ne (different : ℓ ≠ e.1) :
    ((abortEntry acc e).1.headers ℓ).prevItemPointer = (acc.1.headers ℓ).prevItemPointer := by
  obtain ⟨s, ctx⟩ := acc
  obtain ⟨location, type⟩ := e
  cases type <;> simp_all [abortEntry, rollbackVersion_headers, discardVersion, yieldOwnership]

theorem commitEntry_headers_of_untouched (c : Cid) (owned : e.2.owns → ℓ ≠ e.1)
    (replaced : e.2.replaces → ℓ ≠ (acc.1.headers e.1).prevItemPointer) :
    (commitEntry c acc e).1.headers ℓ = acc.1.headers ℓ := by
  obtain ⟨s, ctx⟩ := acc
  obtain ⟨location, type⟩ := e
  cases type <;>
    simp_all [commitEntry, installVersion, discardVersion, yieldOwnership, RWType.owns,
      RWType.replaces]

theorem abortEntry_headers_of_untouched (owned : e.2.owns → ℓ ≠ e.1)
    (replaced : e.2.replaces → ℓ ≠ (acc.1.headers e.1).prevItemPointer) :
    (abortEntry acc e).1.headers ℓ = acc.1.headers ℓ := by
  obtain ⟨s, ctx⟩ := acc
  obtain ⟨location, type⟩ := e
  cases type <;>
    simp_all [abortEntry, rollbackVersion_headers, discardVersion, yieldOwnership, RWType.owns,
      RWType.replaces]

theorem commitEntry_ctx (c : Cid) : ∃ gc, (commitEntry c acc e).2 = { acc.2 with gcSet := gc } := by
  obtain ⟨s, ctx⟩ := acc
  obtain ⟨location, type⟩ := e
  cases type <;> exact ⟨_, rfl⟩

theorem abortEntry_ctx : ∃ gc, (abortEntry acc e).2 = { acc.2 with gcSet := gc } := by
  obtain ⟨s, ctx⟩ := acc
  obtain ⟨location, type⟩ := e
  cases type <;> exact ⟨_, rfl⟩

@[simp] theorem commitEntry_indirections (c : Cid) :
    (commitEntry c acc e).1.indirections = acc.1.indirections := by
  obtain ⟨s, ctx⟩ := acc
  obtain ⟨location, type⟩ := e
  cases type <;> rfl

end Entries

theorem foldl_headers_of_untouched
    (f : Store × TransactionContext → ItemPointer × RWType → Store × TransactionContext)
    (ℓ : ItemPointer)
    (unchanged : ∀ acc (e : ItemPointer × RWType), (e.2.owns → ℓ ≠ e.1) →
      (e.2.replaces → ℓ ≠ (acc.1.headers e.1).prevItemPointer) →
      (f acc e).1.headers ℓ = acc.1.headers ℓ)
    (prevKept : ∀ acc (e : ItemPointer × RWType) ℓ', ℓ' ≠ e.1 →
      ((f acc e).1.headers ℓ').prevItemPointer = (acc.1.headers ℓ').prevItemPointer) :
    ∀ (entries : List (ItemPointer × RWType)) (acc : Store × TransactionContext),
      (entries.map Prod.fst).Nodup → (∀ e ∈ entries, e.2.owns → ℓ ≠ e.1) →
      (∀ e ∈ entries, e.2.replaces → ℓ ≠ (acc.1.headers e.1).prevItemPointer) →
      (entries.foldl f acc).1.headers ℓ = acc.1.headers ℓ
  | [], _, _, _, _ => rfl
  | e :: rest, acc, nodup, owned, replaced => by
    rw [List.map_cons, List.nodup_cons] at nodup
    have first := unchanged acc e (owned e List.mem_cons_self) (replaced e List.mem_cons_self)
    have later : ∀ e' ∈ rest, e'.2.replaces → ℓ ≠ ((f acc e).1.headers e'.1).prevItemPointer := by
      intro e' mem replaces
      have different : e'.1 ≠ e.1 := fun same => nodup.1 (same ▸ List.mem_map_of_mem mem)
      rw [prevKept acc e e'.1 different]
      exact replaced e' (List.mem_cons_of_mem _ mem) replaces
    rw [List.foldl_cons, foldl_headers_of_untouched f ℓ unchanged prevKept rest (f acc e) nodup.2
      (fun e' mem => owned e' (List.mem_cons_of_mem _ mem)) later, first]

section Transactions

variable (s : Store) (ctx : TransactionContext) (ℓ : ItemPointer)

theorem commitTransaction_restamped :
    Restamped (s.headers ℓ) ((commitTransaction s ctx).1.headers ℓ) := by
  unfold commitTransaction
  split
  · exact Restamped.refl _
  · exact List.foldlRecOn (motive := fun acc => Restamped (s.headers ℓ) (acc.1.headers ℓ))
      ctx.rwSet (commitEntry ctx.commitId) (b := (s, ctx)) (Restamped.refl _)
      fun acc restamped e _ => restamped.trans (commitEntry_restamped acc e ℓ ctx.commitId)

theorem abortTransaction_restamped :
    Restamped (s.headers ℓ) ((abortTransaction s ctx).1.headers ℓ) :=
  List.foldlRecOn (motive := fun acc => Restamped (s.headers ℓ) (acc.1.headers ℓ))
    ctx.rwSet abortEntry (b := (s, ctx)) (Restamped.refl _)
    fun acc restamped e _ => restamped.trans (abortEntry_restamped acc e ℓ)

@[simp] theorem commitTransaction_indirections :
    (commitTransaction s ctx).1.indirections = s.indirections := by
  unfold commitTransaction
  split
  · rfl
  · exact List.foldlRecOn (motive := fun acc => acc.1.indirections = s.indirections)
      ctx.rwSet (commitEntry ctx.commitId) (b := (s, ctx)) rfl
      fun acc same e _ => by rw [commitEntry_indirections, same]

theorem commitTransaction_ctx : ∃ gc, (commitTransaction s ctx).2.1 = { ctx with gcSet := gc } := by
  unfold commitTransaction
  split
  · exact ⟨ctx.gcSet, rfl⟩
  · exact List.foldlRecOn (motive := fun acc => ∃ gc, acc.2 = { ctx with gcSet := gc })
      ctx.rwSet (commitEntry ctx.commitId) (b := (s, ctx)) ⟨ctx.gcSet, rfl⟩
      fun acc ⟨gc, same⟩ e _ => by
        obtain ⟨gc', next⟩ := commitEntry_ctx acc e ctx.commitId
        exact ⟨gc', by rw [next, same]⟩

theorem abortTransaction_ctx :
    ∃ gc, (abortTransaction s ctx).2.1 = { ctx with gcSet := gc, result := .aborted } := by
  have loop := List.foldlRecOn (motive := fun acc => ∃ gc, acc.2 = { ctx with gcSet := gc })
    ctx.rwSet abortEntry (b := (s, ctx)) ⟨ctx.gcSet, rfl⟩
    fun acc ⟨gc, same⟩ e _ => by
      obtain ⟨gc', next⟩ := abortEntry_ctx acc e
      exact ⟨gc', by rw [next, same]⟩
  obtain ⟨gc, same⟩ := loop
  exact ⟨gc, by simp only [abortTransaction, TransactionContext.setResult, same]⟩

variable {s ctx}

theorem commitTransaction_headers_of_untouched (nodup : (ctx.rwSet.map Prod.fst).Nodup)
    (owned : ∀ e ∈ ctx.rwSet, e.2.owns → ℓ ≠ e.1)
    (replaced : ∀ e ∈ ctx.rwSet, e.2.replaces → ℓ ≠ (s.headers e.1).prevItemPointer) :
    (commitTransaction s ctx).1.headers ℓ = s.headers ℓ := by
  unfold commitTransaction
  split
  · rfl
  · exact foldl_headers_of_untouched (commitEntry ctx.commitId) ℓ
      (fun acc e owns replaces => commitEntry_headers_of_untouched acc e ℓ ctx.commitId owns replaces)
      (fun acc e ℓ' _ => commitEntry_prevItemPointer acc e ℓ' ctx.commitId)
      ctx.rwSet (s, ctx) nodup owned replaced

theorem abortTransaction_headers_of_untouched (nodup : (ctx.rwSet.map Prod.fst).Nodup)
    (owned : ∀ e ∈ ctx.rwSet, e.2.owns → ℓ ≠ e.1)
    (replaced : ∀ e ∈ ctx.rwSet, e.2.replaces → ℓ ≠ (s.headers e.1).prevItemPointer) :
    (abortTransaction s ctx).1.headers ℓ = s.headers ℓ :=
  foldl_headers_of_untouched abortEntry ℓ
    (fun acc e owns replaces => abortEntry_headers_of_untouched acc e ℓ owns replaces)
    (fun acc e ℓ' different => abortEntry_prevItemPointer_of_ne acc e ℓ' different)
    ctx.rwSet (s, ctx) nodup owned replaced

end Transactions

end Peloton.Concurrency
