import Peloton.Concurrency.LocalEpoch

set_option autoImplicit false

namespace Peloton.Concurrency

/-- An Epoch as LocalEpoch allocates it. -/
structure SharedEpoch where
  epoch_id_ : UInt64
  txn_count_ : Nat
  deriving DecidableEq, Repr

/-- LocalEpoch with the source's uint64_t lower bound, where UINT64_MAX marks a thread that has
never entered an epoch, and with both of its containers: epoch_queue_ smallest epoch first, as
the priority queue pops them, and the keys of epoch_map_. -/
structure LocalEpochImpl where
  epoch_id_lower_bound_ : UInt64
  epoch_queue_ : List SharedEpoch
  epoch_map_ : List UInt64
  deriving DecidableEq, Repr

namespace LocalEpochImpl

def UINT64_MAX : UInt64 := 18446744073709551615

/-- The constructor LocalEpoch(thread_id). -/
def new : LocalEpochImpl := ⟨UINT64_MAX, [], []⟩

def adjustCount (queue : List SharedEpoch) (epoch_id : UInt64) (f : Nat → Nat) : List SharedEpoch :=
  queue.map fun epoch =>
    if epoch.epoch_id_ = epoch_id then { epoch with txn_count_ := f epoch.txn_count_ } else epoch

def registerEntry (s : LocalEpochImpl) (epoch_id : UInt64) (ts_type : TimestampType) :
    LocalEpochImpl :=
  if ts_type ≠ .commit then
    if epoch_id ∈ s.epoch_map_ then { s with epoch_queue_ := adjustCount s.epoch_queue_ epoch_id (· + 1) }
    else
      { s with
        epoch_queue_ := s.epoch_queue_.orderedInsert (fun a b => a.epoch_id_ ≤ b.epoch_id_) ⟨epoch_id, 1⟩
        epoch_map_ := epoch_id :: s.epoch_map_ }
  else s

def EnterEpoch (s : LocalEpochImpl) (epoch_id : UInt64) (ts_type : TimestampType) :
    LocalEpochImpl × Bool :=
  if s.epoch_id_lower_bound_ = UINT64_MAX then
    (registerEntry { s with epoch_id_lower_bound_ := epoch_id - 1 } epoch_id ts_type, true)
  else if s.epoch_id_lower_bound_ ≥ epoch_id then
    if ts_type = .snapshotRead then
      (registerEntry { s with epoch_id_lower_bound_ := epoch_id - 1 } epoch_id ts_type, true)
    else (s, false)
  else (registerEntry s epoch_id ts_type, true)

def popEmptyEpochs (lower : UInt64) : List SharedEpoch → List UInt64 → LocalEpochImpl
  | [], map => ⟨lower, [], map⟩
  | top :: rest, map =>
    if top.txn_count_ = 0 then popEmptyEpochs lower rest (map.erase top.epoch_id_)
    else ⟨top.epoch_id_ - 1, top :: rest, map⟩

/-- ExitEpoch; none where epoch_map_.at throws for an epoch the map does not hold. -/
def ExitEpoch (s : LocalEpochImpl) (epoch_id : UInt64) : Option LocalEpochImpl :=
  if epoch_id ∈ s.epoch_map_ then
    some (popEmptyEpochs s.epoch_id_lower_bound_ (adjustCount s.epoch_queue_ epoch_id (· - 1))
      s.epoch_map_)
  else none

def GetExpiredEpochId (s : LocalEpochImpl) (epoch_id : UInt64) : LocalEpochImpl × UInt64 :=
  let s' :=
    if s.epoch_queue_ = [] then { s with epoch_id_lower_bound_ := epoch_id - 1 }
    else popEmptyEpochs s.epoch_id_lower_bound_ s.epoch_queue_ s.epoch_map_
  (s', s'.epoch_id_lower_bound_)

/-! ## The abstract LocalEpoch a state stands for -/

def absEpoch (epoch : SharedEpoch) : Epoch := ⟨epoch.epoch_id_.toNat, epoch.txn_count_⟩

def absLower (lower : UInt64) : Option Nat := if lower = UINT64_MAX then none else some lower.toNat

def toLocalEpoch (s : LocalEpochImpl) : LocalEpoch :=
  ⟨absLower s.epoch_id_lower_bound_, s.epoch_queue_.map absEpoch⟩

def txnCount (s : LocalEpochImpl) (epoch_id : UInt64) : Nat :=
  LocalEpoch.txnCountOf (toLocalEpoch s).epochQueue epoch_id.toNat

theorem lt_max_of_ne {x : UInt64} (h : x ≠ UINT64_MAX) : x < UINT64_MAX := by
  have below := x.toNat_lt
  have distinct : x.toNat ≠ UINT64_MAX.toNat := fun same => h (UInt64.toNat_inj.mp same)
  rw [UInt64.lt_iff_toNat_lt]
  simp only [UINT64_MAX] at distinct ⊢
  simp at distinct below ⊢
  omega

theorem lt_add_one_of_ne_max {x : UInt64} (h : x ≠ UINT64_MAX) : x < x + 1 := by
  have below := UInt64.lt_iff_toNat_lt.mp (lt_max_of_ne h)
  rw [UInt64.lt_iff_toNat_lt, UInt64.toNat_add]
  simp only [UINT64_MAX] at below
  simp at below ⊢
  omega

theorem absLower_sub_one {epoch_id : UInt64} (pos : epoch_id ≠ 0) :
    absLower (epoch_id - 1) = some (epoch_id.toNat - 1) := by
  have one_le : 1 ≤ epoch_id.toNat := by
    rcases Nat.eq_zero_or_pos epoch_id.toNat with zero | positive
    · exact absurd (UInt64.toNat_inj.mp (by simpa using zero)) pos
    · exact positive
  have sub : (epoch_id - 1).toNat = epoch_id.toNat - 1 :=
    UInt64.toNat_sub_of_le _ _ (UInt64.le_iff_toNat_le.mpr (by simpa using one_le))
  have not_max : epoch_id - 1 ≠ UINT64_MAX := by
    intro same
    have := congrArg UInt64.toNat same
    rw [sub] at this
    have := epoch_id.toNat_lt
    simp [UINT64_MAX] at *
    omega
  simp [absLower, not_max, sub]

@[simp] theorem absEpoch_epochId (epoch : SharedEpoch) :
    (absEpoch epoch).epochId = epoch.epoch_id_.toNat := rfl

@[simp] theorem absEpoch_txnCount (epoch : SharedEpoch) :
    (absEpoch epoch).txnCount = epoch.txn_count_ := rfl

theorem map_absEpoch_adjustCount (queue : List SharedEpoch) (epoch_id : UInt64) (f : Nat → Nat) :
    (adjustCount queue epoch_id f).map absEpoch =
      LocalEpoch.adjustCount (queue.map absEpoch) epoch_id.toNat f := by
  simp only [adjustCount, LocalEpoch.adjustCount, List.map_map]
  apply List.map_congr_left
  intro epoch _
  by_cases same : epoch.epoch_id_ = epoch_id
  · simp [same, absEpoch]
  · have : epoch.epoch_id_.toNat ≠ epoch_id.toNat := fun h => same (UInt64.toNat_inj.mp h)
    simp [same, this]

theorem map_absEpoch_orderedInsert (queue : List SharedEpoch) (epoch : SharedEpoch) :
    (queue.orderedInsert (fun a b => a.epoch_id_ ≤ b.epoch_id_) epoch).map absEpoch =
      (queue.map absEpoch).orderedInsert (fun a b => a.epochId ≤ b.epochId) (absEpoch epoch) :=
  List.map_orderedInsert _ _ _ _ _ (fun _ _ => UInt64.le_iff_toNat_le)
    (fun _ _ => UInt64.le_iff_toNat_le)

theorem getD_absLower (lower : UInt64) : (absLower lower).getD MAX_EID = lower.toNat := by
  by_cases sentinel : lower = UINT64_MAX
  · simp [absLower, sentinel, UINT64_MAX, MAX_EID]
  · simp [absLower, sentinel]

@[simp] theorem map_epochId_adjustCount (queue : List SharedEpoch) (epoch_id : UInt64)
    (f : Nat → Nat) :
    (adjustCount queue epoch_id f).map SharedEpoch.epoch_id_ = queue.map SharedEpoch.epoch_id_ := by
  simp only [adjustCount, List.map_map]
  apply List.map_congr_left
  intro epoch _
  by_cases same : epoch.epoch_id_ = epoch_id <;> simp [same]

/-! ## Each operation refines the abstract one -/

theorem mem_map_iff_any {s : LocalEpochImpl}
    (same : s.epoch_map_.Perm (s.epoch_queue_.map SharedEpoch.epoch_id_)) (epoch_id : UInt64) :
    epoch_id ∈ s.epoch_map_ ↔ (s.epoch_queue_.map absEpoch).any (·.epochId == epoch_id.toNat) := by
  rw [same.mem_iff]
  simp [UInt64.toNat_inj]

theorem toLocalEpoch_registerEntry {s : LocalEpochImpl}
    (same : s.epoch_map_.Perm (s.epoch_queue_.map SharedEpoch.epoch_id_)) (epoch_id : UInt64)
    (ts_type : TimestampType) :
    toLocalEpoch (registerEntry s epoch_id ts_type) =
      ⟨absLower s.epoch_id_lower_bound_,
        LocalEpoch.register (s.epoch_queue_.map absEpoch) epoch_id.toNat ts_type⟩ := by
  unfold registerEntry LocalEpoch.register LocalEpoch.addTransaction
  by_cases commit : ts_type = .commit
  · simp [commit, toLocalEpoch]
  by_cases present : epoch_id ∈ s.epoch_map_
  · have found := (mem_map_iff_any same epoch_id).mp present
    simp [commit, present, found, toLocalEpoch, map_absEpoch_adjustCount]
  · have absent := mt (mem_map_iff_any same epoch_id).mpr present
    simp [commit, present, absent, toLocalEpoch, map_absEpoch_orderedInsert, absEpoch]

theorem toLocalEpoch_enterEpoch {s : LocalEpochImpl} {epoch_id : UInt64} (pos : epoch_id ≠ 0)
    (same : s.epoch_map_.Perm (s.epoch_queue_.map SharedEpoch.epoch_id_)) (ts_type : TimestampType) :
    (toLocalEpoch (s.EnterEpoch epoch_id ts_type).1, (s.EnterEpoch epoch_id ts_type).2) =
      LocalEpoch.enterEpoch (toLocalEpoch s) epoch_id.toNat ts_type := by
  have lowered := toLocalEpoch_registerEntry (s := { s with epoch_id_lower_bound_ := epoch_id - 1 })
    same epoch_id ts_type
  simp only [absLower_sub_one pos] at lowered
  unfold EnterEpoch LocalEpoch.enterEpoch
  by_cases sentinel : s.epoch_id_lower_bound_ = UINT64_MAX
  · have unset : (toLocalEpoch s).epochIdLowerBound = none := by
      simp [toLocalEpoch, absLower, sentinel]
    simp only [sentinel, if_true, unset, lowered]
    rfl
  have set : (toLocalEpoch s).epochIdLowerBound = some s.epoch_id_lower_bound_.toNat := by
    simp [toLocalEpoch, absLower, sentinel]
  simp only [sentinel, if_false, set, ge_iff_le, UInt64.le_iff_toNat_le]
  by_cases at_or_below : epoch_id.toNat ≤ s.epoch_id_lower_bound_.toNat
  · by_cases snapshot : ts_type = .snapshotRead
    · subst snapshot
      simp only [at_or_below, if_true, lowered]
      rfl
    · simp only [at_or_below, snapshot, if_true, if_false]
  · simp only [at_or_below, if_false, toLocalEpoch_registerEntry same, absLower, sentinel]
    rfl

theorem popEmptyEpochs_queue (lower : UInt64) :
    ∀ (queue : List SharedEpoch) (map : List UInt64),
      (popEmptyEpochs lower queue map).epoch_queue_ = queue.dropWhile (·.txn_count_ = 0)
  | [], _ => rfl
  | top :: rest, map => by
    rw [popEmptyEpochs, List.dropWhile_cons]
    by_cases empty : top.txn_count_ = 0
    · simp [empty, popEmptyEpochs_queue lower rest]
    · simp [empty]

theorem popEmptyEpochs_same_epochs (lower : UInt64) :
    ∀ (queue : List SharedEpoch) (map : List UInt64),
      map.Perm (queue.map SharedEpoch.epoch_id_) →
        (popEmptyEpochs lower queue map).epoch_map_.Perm
          ((popEmptyEpochs lower queue map).epoch_queue_.map SharedEpoch.epoch_id_)
  | [], _, same => same
  | top :: rest, map, same => by
    rw [popEmptyEpochs]
    by_cases empty : top.txn_count_ = 0
    · -- the popped epoch leaves the map too
      rw [if_pos empty]
      apply popEmptyEpochs_same_epochs lower rest
      simpa using same.erase top.epoch_id_
    · rw [if_neg empty]
      exact same

theorem toLocalEpoch_popEmptyEpochs (lower : UInt64) :
    ∀ (queue : List SharedEpoch) (map : List UInt64), 0 ∉ queue.map SharedEpoch.epoch_id_ →
      toLocalEpoch (popEmptyEpochs lower queue map) =
        LocalEpoch.popEmptyEpochs ⟨absLower lower, queue.map absEpoch⟩
  | [], _, _ => by simp [popEmptyEpochs, LocalEpoch.popEmptyEpochs, toLocalEpoch]
  | top :: rest, map, ids => by
    simp only [List.map_cons, List.mem_cons, not_or] at ids
    rw [popEmptyEpochs]
    by_cases empty : top.txn_count_ = 0
    · rw [if_pos empty, toLocalEpoch_popEmptyEpochs lower rest _ ids.2]
      simp [LocalEpoch.popEmptyEpochs, empty]
    · rw [if_neg empty]
      simp [LocalEpoch.popEmptyEpochs, empty, toLocalEpoch,
        absLower_sub_one (Ne.symm ids.1)]

theorem toLocalEpoch_exitEpoch {s s' : LocalEpochImpl} {epoch_id : UInt64}
    (ids : 0 ∉ s.epoch_queue_.map SharedEpoch.epoch_id_) (exited : s.ExitEpoch epoch_id = some s') :
    toLocalEpoch s' = LocalEpoch.exitEpoch (toLocalEpoch s) epoch_id.toNat := by
  unfold ExitEpoch at exited
  split at exited
  · cases exited
    rw [toLocalEpoch_popEmptyEpochs _ _ _ (by simpa using ids)]
    simp [LocalEpoch.exitEpoch, toLocalEpoch, map_absEpoch_adjustCount]
  · cases exited

theorem toLocalEpoch_getExpiredEpochId {s : LocalEpochImpl} {epoch_id : UInt64} (pos : epoch_id ≠ 0)
    (ids : 0 ∉ s.epoch_queue_.map SharedEpoch.epoch_id_) :
    (toLocalEpoch (s.GetExpiredEpochId epoch_id).1, (s.GetExpiredEpochId epoch_id).2.toNat) =
      LocalEpoch.getExpiredEpochId (toLocalEpoch s) epoch_id.toNat := by
  have state : toLocalEpoch (s.GetExpiredEpochId epoch_id).1 =
      (LocalEpoch.getExpiredEpochId (toLocalEpoch s) epoch_id.toNat).1 := by
    unfold GetExpiredEpochId LocalEpoch.getExpiredEpochId
    by_cases empty : s.epoch_queue_ = []
    · simp [empty, toLocalEpoch, absLower_sub_one pos]
    · have nonempty : (toLocalEpoch s).epochQueue ≠ [] := by simpa [toLocalEpoch] using empty
      simp only [if_neg empty, if_neg nonempty, toLocalEpoch_popEmptyEpochs _ _ _ ids]
      rfl
  -- both report the lower bound they leave
  have reported : (LocalEpoch.getExpiredEpochId (toLocalEpoch s) epoch_id.toNat).2 =
      (LocalEpoch.getExpiredEpochId (toLocalEpoch s) epoch_id.toNat).1.epochIdLowerBound.getD MAX_EID :=
    rfl
  rw [Prod.ext_iff, reported, ← state]
  exact ⟨rfl, (getD_absLower _).symm⟩

/-! ## What every run keeps -/

theorem enterEpoch_cases (s : LocalEpochImpl) (epoch_id : UInt64) (ts_type : TimestampType) :
    s.EnterEpoch epoch_id ts_type = (s, false) ∨
      ∃ lower, s.EnterEpoch epoch_id ts_type =
        (registerEntry { s with epoch_id_lower_bound_ := lower } epoch_id ts_type, true) := by
  unfold EnterEpoch
  split
  · exact .inr ⟨_, rfl⟩
  · split
    · split
      · exact .inr ⟨_, rfl⟩
      · exact .inl rfl
    · exact .inr ⟨s.epoch_id_lower_bound_, rfl⟩

theorem enterEpoch_refused_iff (s : LocalEpochImpl) (epoch_id : UInt64) {ts_type : TimestampType}
    (not_snapshot : ts_type ≠ .snapshotRead) :
    (s.EnterEpoch epoch_id ts_type).2 = false ↔
      s.epoch_id_lower_bound_ ≠ UINT64_MAX ∧ epoch_id ≤ s.epoch_id_lower_bound_ := by
  unfold EnterEpoch
  by_cases sentinel : s.epoch_id_lower_bound_ = UINT64_MAX
  · simp [sentinel]
  · by_cases at_or_below : s.epoch_id_lower_bound_ ≥ epoch_id
    · simp [sentinel, at_or_below, not_snapshot]
    · simp [sentinel, at_or_below]

theorem registerEntry_same_epochs {s : LocalEpochImpl}
    (same : s.epoch_map_.Perm (s.epoch_queue_.map SharedEpoch.epoch_id_)) (epoch_id : UInt64)
    (ts_type : TimestampType) :
    (registerEntry s epoch_id ts_type).epoch_map_.Perm
      ((registerEntry s epoch_id ts_type).epoch_queue_.map SharedEpoch.epoch_id_) := by
  unfold registerEntry
  split
  · split
    · simpa using same
    · -- the new epoch goes on the queue and in the map
      have inserted := ((List.perm_orderedInsert (fun a b : SharedEpoch => a.epoch_id_ ≤ b.epoch_id_)
        ⟨epoch_id, 1⟩ s.epoch_queue_).map SharedEpoch.epoch_id_).symm
      exact (same.cons epoch_id).trans (by simpa using inserted)
  · exact same

theorem registerEntry_ids_pos {s : LocalEpochImpl} (ids : 0 ∉ s.epoch_queue_.map SharedEpoch.epoch_id_)
    {epoch_id : UInt64} (pos : epoch_id ≠ 0) (ts_type : TimestampType) :
    0 ∉ (registerEntry s epoch_id ts_type).epoch_queue_.map SharedEpoch.epoch_id_ := by
  unfold registerEntry
  split
  · split
    · simpa using ids
    · have inserted := (List.perm_orderedInsert (fun a b : SharedEpoch => a.epoch_id_ ≤ b.epoch_id_)
        ⟨epoch_id, 1⟩ s.epoch_queue_).map SharedEpoch.epoch_id_
      rw [inserted.mem_iff]
      simp only [List.map_cons, List.mem_cons, not_or]
      exact ⟨Ne.symm pos, ids⟩
  · exact ids

theorem popEmptyEpochs_ids_pos (lower : UInt64) {queue : List SharedEpoch} (map : List UInt64)
    (ids : 0 ∉ queue.map SharedEpoch.epoch_id_) :
    0 ∉ (popEmptyEpochs lower queue map).epoch_queue_.map SharedEpoch.epoch_id_ := by
  rw [popEmptyEpochs_queue]
  exact fun mem => ids (((List.dropWhile_suffix _).map _).subset mem)

/-- What a thread's LocalEpoch keeps over a run, given the epochs of the transactions inside. -/
structure Tracked (s : LocalEpochImpl) (inside : List UInt64) : Prop where
  same_epochs : s.epoch_map_.Perm (s.epoch_queue_.map SharedEpoch.epoch_id_)
  ids_pos : 0 ∉ s.epoch_queue_.map SharedEpoch.epoch_id_
  wellFormed : (toLocalEpoch s).WellFormed
  counts : ∀ epoch_id, s.txnCount epoch_id = inside.count epoch_id

theorem tracked_new : Tracked new [] where
  same_epochs := List.Perm.nil
  ids_pos := by simp [new]
  wellFormed := by
    have initial : toLocalEpoch new = LocalEpoch.initial := by simp [toLocalEpoch, new, absLower]; rfl
    rw [initial]
    exact LocalEpoch.wellFormed_initial
  counts := fun _ => rfl

theorem Tracked.enterEpoch {s : LocalEpochImpl} {inside : List UInt64} (h : Tracked s inside)
    {epoch_id : UInt64} (pos : epoch_id ≠ 0) (ts_type : TimestampType) :
    Tracked (s.EnterEpoch epoch_id ts_type).1
      (if (s.EnterEpoch epoch_id ts_type).2 = true ∧ ts_type ≠ .commit then epoch_id :: inside
        else inside) := by
  have refines := toLocalEpoch_enterEpoch pos h.same_epochs ts_type
  have state : toLocalEpoch (s.EnterEpoch epoch_id ts_type).1 =
      (LocalEpoch.enterEpoch (toLocalEpoch s) epoch_id.toNat ts_type).1 := congrArg Prod.fst refines
  have entered : (s.EnterEpoch epoch_id ts_type).2 =
      (LocalEpoch.enterEpoch (toLocalEpoch s) epoch_id.toNat ts_type).2 := congrArg Prod.snd refines
  have pos' : 0 < epoch_id.toNat := by
    rcases Nat.eq_zero_or_pos epoch_id.toNat with zero | positive
    · exact absurd (UInt64.toNat_inj.mp (by simpa using zero)) pos
    · exact positive
  have containers : (s.EnterEpoch epoch_id ts_type).1.epoch_map_.Perm
        ((s.EnterEpoch epoch_id ts_type).1.epoch_queue_.map SharedEpoch.epoch_id_) ∧
      0 ∉ (s.EnterEpoch epoch_id ts_type).1.epoch_queue_.map SharedEpoch.epoch_id_ := by
    rcases enterEpoch_cases s epoch_id ts_type with refused | ⟨lower, registered⟩
    · rw [refused]
      exact ⟨h.same_epochs, h.ids_pos⟩
    · rw [registered]
      exact ⟨registerEntry_same_epochs (s := { s with epoch_id_lower_bound_ := lower })
          h.same_epochs epoch_id ts_type,
        registerEntry_ids_pos (s := { s with epoch_id_lower_bound_ := lower }) h.ids_pos pos ts_type⟩
  refine ⟨containers.1, containers.2, ?_, fun other => ?_⟩
  · rw [state]
    exact LocalEpoch.wellFormed_enterEpoch h.wellFormed pos' ts_type
  · -- the abstract count moves by one exactly for a counted entry into this epoch
    have old : LocalEpoch.txnCountOf (toLocalEpoch s).epochQueue other.toNat = inside.count other :=
      h.counts other
    rw [txnCount, state, LocalEpoch.txnCountOf_enterEpoch h.wellFormed, old, ← entered]
    by_cases counted : (s.EnterEpoch epoch_id ts_type).2 = true ∧ ts_type ≠ .commit
    · rw [if_pos counted]
      by_cases same : other = epoch_id
      · subst same
        simp [counted]
      · have distinct : other.toNat ≠ epoch_id.toNat := fun e => same (UInt64.toNat_inj.mp e)
        simp [distinct, Ne.symm same]
    · have uncounted : ¬((s.EnterEpoch epoch_id ts_type).2 = true ∧ ts_type ≠ .commit ∧
          other.toNat = epoch_id.toNat) := fun c => counted ⟨c.1, c.2.1⟩
      rw [if_neg counted, if_neg uncounted, Nat.add_zero]

theorem Tracked.exitEpoch {s s' : LocalEpochImpl} {inside : List UInt64} (h : Tracked s inside)
    {epoch_id : UInt64} (exited : s.ExitEpoch epoch_id = some s') :
    Tracked s' (inside.erase epoch_id) := by
  have refines := toLocalEpoch_exitEpoch h.ids_pos exited
  unfold ExitEpoch at exited
  split at exited
  · cases exited
    refine ⟨popEmptyEpochs_same_epochs _ _ _ (by simpa using h.same_epochs),
      popEmptyEpochs_ids_pos _ _ (by simpa using h.ids_pos), ?_, fun other => ?_⟩
    · rw [refines]
      exact LocalEpoch.wellFormed_exitEpoch h.wellFormed _
    · have old : LocalEpoch.txnCountOf (toLocalEpoch s).epochQueue other.toNat = inside.count other :=
        h.counts other
      rw [txnCount, refines, LocalEpoch.txnCountOf_exitEpoch h.wellFormed, old, List.count_erase]
      by_cases same : other = epoch_id
      · subst same
        simp
      · have distinct : other.toNat ≠ epoch_id.toNat := fun e => same (UInt64.toNat_inj.mp e)
        simp [distinct, Ne.symm same]
  · cases exited

theorem Tracked.getExpiredEpochId {s : LocalEpochImpl} {inside : List UInt64} (h : Tracked s inside)
    {epoch_id : UInt64} (pos : epoch_id ≠ 0) : Tracked (s.GetExpiredEpochId epoch_id).1 inside := by
  have refines : toLocalEpoch (s.GetExpiredEpochId epoch_id).1 =
      (LocalEpoch.getExpiredEpochId (toLocalEpoch s) epoch_id.toNat).1 :=
    congrArg Prod.fst (toLocalEpoch_getExpiredEpochId pos h.ids_pos)
  have containers : (s.GetExpiredEpochId epoch_id).1.epoch_map_.Perm
        ((s.GetExpiredEpochId epoch_id).1.epoch_queue_.map SharedEpoch.epoch_id_) ∧
      0 ∉ (s.GetExpiredEpochId epoch_id).1.epoch_queue_.map SharedEpoch.epoch_id_ := by
    unfold GetExpiredEpochId
    split
    · exact ⟨h.same_epochs, h.ids_pos⟩
    · exact ⟨popEmptyEpochs_same_epochs _ _ _ h.same_epochs, popEmptyEpochs_ids_pos _ _ h.ids_pos⟩
  refine ⟨containers.1, containers.2, ?_, fun other => ?_⟩
  · rw [refines]
    exact LocalEpoch.wellFormed_getExpiredEpochId h.wellFormed _
  · rw [txnCount, refines, LocalEpoch.txnCountOf_getExpiredEpochId]
    exact h.counts other

/-- The runs of one thread's LocalEpoch, with the epochs of the transactions still inside: an entry
counts when it succeeds and is not a commit, and an exit matches a transaction inside. -/
inductive Reachable : LocalEpochImpl → List UInt64 → Prop
  | new : Reachable new []
  | enterEpoch {s : LocalEpochImpl} {inside : List UInt64} (epoch_id : UInt64)
      (ts_type : TimestampType) :
      Reachable s inside → epoch_id ≠ 0 →
      Reachable (s.EnterEpoch epoch_id ts_type).1
        (if (s.EnterEpoch epoch_id ts_type).2 = true ∧ ts_type ≠ .commit then epoch_id :: inside
          else inside)
  | exitEpoch {s s' : LocalEpochImpl} {inside : List UInt64} (epoch_id : UInt64) :
      Reachable s inside → epoch_id ∈ inside → s.ExitEpoch epoch_id = some s' →
      Reachable s' (inside.erase epoch_id)
  | getExpiredEpochId {s : LocalEpochImpl} {inside : List UInt64} (epoch_id : UInt64) :
      Reachable s inside → epoch_id ≠ 0 → Reachable (s.GetExpiredEpochId epoch_id).1 inside

theorem Reachable.tracked {s : LocalEpochImpl} {inside : List UInt64} (reach : Reachable s inside) :
    Tracked s inside := by
  induction reach with
  | new => exact tracked_new
  | enterEpoch epoch_id ts_type _ pos ih => exact ih.enterEpoch pos ts_type
  | exitEpoch epoch_id _ _ exited ih => exact ih.exitEpoch exited
  | getExpiredEpochId epoch_id _ pos ih => exact ih.getExpiredEpochId pos

theorem Tracked.count_pos {s : LocalEpochImpl} {inside : List UInt64} (h : Tracked s inside)
    {epoch_id : UInt64} (mem : epoch_id ∈ inside) :
    0 < LocalEpoch.txnCountOf (toLocalEpoch s).epochQueue epoch_id.toNat := by
  have := h.counts epoch_id
  rw [txnCount] at this
  rw [this]
  exact List.count_pos_iff.mpr mem

theorem Tracked.lower_lt {s : LocalEpochImpl} {inside : List UInt64} (h : Tracked s inside)
    {epoch_id : UInt64} (mem : epoch_id ∈ inside) :
    s.epoch_id_lower_bound_ ≠ UINT64_MAX ∧ s.epoch_id_lower_bound_ < epoch_id := by
  obtain ⟨lower, set, below⟩ := h.wellFormed.lower_lt (h.count_pos mem)
  simp only [toLocalEpoch, absLower] at set
  split at set
  · cases set
  · next sentinel =>
    cases set
    exact ⟨sentinel, UInt64.lt_iff_toNat_lt.mpr below⟩

theorem Tracked.exitEpoch_isSome {s : LocalEpochImpl} {inside : List UInt64} (h : Tracked s inside)
    {epoch_id : UInt64} (mem : epoch_id ∈ inside) : (s.ExitEpoch epoch_id).isSome := by
  obtain ⟨epoch, held, same, -⟩ := LocalEpoch.exists_of_txnCountOf_pos (h.count_pos mem)
  obtain ⟨shared, shared_mem, rfl⟩ := List.mem_map.mp held
  have present : epoch_id ∈ s.epoch_map_ := by
    rw [h.same_epochs.mem_iff, ← UInt64.toNat_inj.mp same]
    exact List.mem_map_of_mem shared_mem
  simp [ExitEpoch, present]

theorem Tracked.getExpiredEpochId_lt {s : LocalEpochImpl} {inside : List UInt64}
    (h : Tracked s inside) {current : UInt64} (pos : current ≠ 0) {epoch_id : UInt64}
    (mem : epoch_id ∈ inside) : (s.GetExpiredEpochId current).2 < epoch_id := by
  have reported := congrArg Prod.snd (toLocalEpoch_getExpiredEpochId pos h.ids_pos)
  have below := LocalEpoch.getExpiredEpochId_lt h.wellFormed current.toNat (h.count_pos mem)
  rw [← reported] at below
  exact UInt64.lt_iff_toNat_lt.mpr below

theorem Tracked.getExpiredEpochId_ne_max {s : LocalEpochImpl} {inside : List UInt64}
    (h : Tracked s inside) {current : UInt64} (pos : current ≠ 0) :
    (s.GetExpiredEpochId current).2 ≠ UINT64_MAX := by
  have state : toLocalEpoch (s.GetExpiredEpochId current).1 =
      (LocalEpoch.getExpiredEpochId (toLocalEpoch s) current.toNat).1 :=
    congrArg Prod.fst (toLocalEpoch_getExpiredEpochId pos h.ids_pos)
  -- by this call for an empty queue, by an earlier entry otherwise
  have set : (LocalEpoch.getExpiredEpochId (toLocalEpoch s) current.toNat).1.epochIdLowerBound ≠ none := by
    unfold LocalEpoch.getExpiredEpochId
    split
    · simp
    · next nonempty =>
      unfold LocalEpoch.popEmptyEpochs
      split
      · exact fun unset => nonempty (h.wellFormed.unused unset)
      · simp
  have reported : (s.GetExpiredEpochId current).2 = (s.GetExpiredEpochId current).1.epoch_id_lower_bound_ :=
    rfl
  rw [← state] at set
  rw [reported]
  simpa [toLocalEpoch, absLower] using set

theorem enter_epoch_zero_expires_running_transaction :
    (new.EnterEpoch 0 .read).2 = true ∧ (new.EnterEpoch 0 .read).1.txnCount 0 = 1 ∧
      (new.EnterEpoch 0 .read).1.epoch_id_lower_bound_ = UINT64_MAX ∧
      ((new.EnterEpoch 0 .read).1.GetExpiredEpochId 1).2 = UINT64_MAX := by
  decide

end LocalEpochImpl

/-! ## DecentralizedEpochManager's expired epoch -/

/-- The part of DecentralizedEpochManager that GetExpiredEpochId reads and writes. -/
structure EpochManagerImpl where
  local_epochs_ : List LocalEpochImpl
  current_global_epoch_id_ : UInt64
  snapshot_global_epoch_id_ : UInt64

namespace EpochManagerImpl

open LocalEpochImpl

def expireLocalEpochs (current : UInt64) : List LocalEpochImpl → List LocalEpochImpl × UInt64
  | [] => ([], UINT64_MAX)
  | local_epoch :: rest =>
    let local_expired_eid := (local_epoch.GetExpiredEpochId current).2
    let global_expired_eid := (expireLocalEpochs current rest).2
    ((local_epoch.GetExpiredEpochId current).1 :: (expireLocalEpochs current rest).1,
      if local_expired_eid < global_expired_eid then local_expired_eid else global_expired_eid)

def GetExpiredEpochId (m : EpochManagerImpl) : EpochManagerImpl × UInt64 :=
  let global_expired_eid := (expireLocalEpochs m.current_global_epoch_id_ m.local_epochs_).2
  ({ m with
      local_epochs_ := (expireLocalEpochs m.current_global_epoch_id_ m.local_epochs_).1
      snapshot_global_epoch_id_ :=
        if global_expired_eid ≠ UINT64_MAX ∧ global_expired_eid ≥ m.snapshot_global_epoch_id_ then
          global_expired_eid + 1
        else m.snapshot_global_epoch_id_ },
    global_expired_eid)

def GetExpiredCid (m : EpochManagerImpl) : EpochManagerImpl × UInt64 :=
  (m.GetExpiredEpochId.1, (m.GetExpiredEpochId.2 <<< 32) ||| (0xFFFFFFFF : UInt64))

def readId (epoch_id : UInt64) (next_txn_id : UInt32) : UInt64 :=
  (epoch_id <<< 32) ||| next_txn_id.toUInt64

theorem expireLocalEpochs_fst (current : UInt64) :
    ∀ local_epochs : List LocalEpochImpl,
      (expireLocalEpochs current local_epochs).1 =
        local_epochs.map fun local_epoch => (local_epoch.GetExpiredEpochId current).1
  | [] => rfl
  | _ :: rest => by simp [expireLocalEpochs, expireLocalEpochs_fst current rest]

theorem expireLocalEpochs_le (current : UInt64) :
    ∀ {local_epochs : List LocalEpochImpl}, ∀ local_epoch ∈ local_epochs,
      (expireLocalEpochs current local_epochs).2 ≤ (local_epoch.GetExpiredEpochId current).2
  | [], _, mem => by simp at mem
  | head :: rest, local_epoch, mem => by
    have rest_le : ∀ x ∈ rest, (expireLocalEpochs current rest).2 ≤ (x.GetExpiredEpochId current).2 :=
      expireLocalEpochs_le current
    simp only [expireLocalEpochs]
    rcases List.mem_cons.mp mem with rfl | mem
    · split
      · exact UInt64.le_refl _
      · next not_lt => exact UInt64.not_lt.mp not_lt
    · split
      · next lt => exact UInt64.le_trans (UInt64.le_of_lt lt) (rest_le local_epoch mem)
      · exact rest_le local_epoch mem

theorem expireLocalEpochs_ne_max (current : UInt64) :
    ∀ {local_epochs : List LocalEpochImpl}, local_epochs ≠ [] →
      (∀ local_epoch ∈ local_epochs, (local_epoch.GetExpiredEpochId current).2 ≠ UINT64_MAX) →
      (expireLocalEpochs current local_epochs).2 ≠ UINT64_MAX
  | [], nonempty, _ => absurd rfl nonempty
  | head :: rest, _, each => by
    simp only [expireLocalEpochs]
    split
    · exact each head List.mem_cons_self
    · next not_lt =>
      cases rest with
      | nil => exact absurd (lt_max_of_ne (each head List.mem_cons_self)) not_lt
      | cons next more =>
        exact expireLocalEpochs_ne_max current (List.cons_ne_nil next more)
          (fun x mem => each x (List.mem_cons_of_mem _ mem))

theorem toNat_shift_or {a b : UInt64} (ha : a.toNat < 2 ^ 32) (hb : b.toNat < 2 ^ 32) :
    (a <<< 32 ||| b).toNat = a.toNat * 2 ^ 32 + b.toNat := by
  have fits : a.toNat <<< 32 < 2 ^ 64 := by rw [Nat.shiftLeft_eq]; omega
  rw [UInt64.toNat_or, UInt64.toNat_shiftLeft, (by decide : (32 : UInt64).toNat % 64 = 32),
    Nat.mod_eq_of_lt fits, ← Nat.shiftLeft_add_eq_or_of_lt hb, Nat.shiftLeft_eq]

theorem expired_cid_lt_readId {expired epoch_id : UInt64} (below : expired < epoch_id)
    (fits : epoch_id.toNat < 2 ^ 32) (next_txn_id : UInt32) :
    (expired <<< 32 ||| (0xFFFFFFFF : UInt64)) < readId epoch_id next_txn_id := by
  have lt := UInt64.lt_iff_toNat_lt.mp below
  rw [readId, UInt64.lt_iff_toNat_lt, toNat_shift_or (by omega) (by decide),
    toNat_shift_or fits (by simpa using next_txn_id.toNat_lt)]
  simp
  omega

theorem tracked_of_reachable {local_epochs : List LocalEpochImpl} {insides : List (List UInt64)}
    (reach : List.Forall₂ Reachable local_epochs insides) :
    List.Forall₂ (fun s inside => Tracked s inside ∧
      ∀ epoch_id ∈ inside, s.epoch_id_lower_bound_ ≠ UINT64_MAX ∧ s.epoch_id_lower_bound_ < epoch_id ∧
        (s.ExitEpoch epoch_id).isSome) local_epochs insides :=
  reach.imp fun {_ _} run =>
    ⟨run.tracked, fun _ mem => ⟨(run.tracked.lower_lt mem).1, (run.tracked.lower_lt mem).2,
      run.tracked.exitEpoch_isSome mem⟩⟩

theorem reachable_of_mem {local_epochs : List LocalEpochImpl} {insides : List (List UInt64)}
    (reach : List.Forall₂ Reachable local_epochs insides) :
    (∀ s ∈ local_epochs, ∃ inside, Reachable s inside) ∧
      ∀ inside ∈ insides, ∃ s ∈ local_epochs, Reachable s inside := by
  induction reach with
  | nil => simp
  | cons run _ ih =>
    refine ⟨fun s mem => ?_, fun inside mem => ?_⟩
    · rcases List.mem_cons.mp mem with rfl | mem
      · exact ⟨_, run⟩
      · exact ih.1 s mem
    · rcases List.mem_cons.mp mem with rfl | mem
      · exact ⟨_, List.mem_cons_self, run⟩
      · obtain ⟨s, s_mem, run⟩ := ih.2 inside mem
        exact ⟨s, List.mem_cons_of_mem _ s_mem, run⟩

section Expiry

variable {m : EpochManagerImpl} {insides : List (List UInt64)}
  (reach : List.Forall₂ Reachable m.local_epochs_ insides) (current_pos : m.current_global_epoch_id_ ≠ 0)
include reach current_pos

theorem getExpiredEpochId_lt {inside : List UInt64} (inside_mem : inside ∈ insides) {epoch_id : UInt64}
    (mem : epoch_id ∈ inside) : m.GetExpiredEpochId.2 < epoch_id := by
  obtain ⟨s, s_mem, run⟩ := (reachable_of_mem reach).2 inside inside_mem
  exact UInt64.lt_of_le_of_lt (expireLocalEpochs_le _ s s_mem)
    (run.tracked.getExpiredEpochId_lt current_pos mem)

theorem getExpiredEpochId_ne_max (registered : m.local_epochs_ ≠ []) :
    m.GetExpiredEpochId.2 ≠ UINT64_MAX := by
  apply expireLocalEpochs_ne_max _ registered
  intro s s_mem
  obtain ⟨inside, run⟩ := (reachable_of_mem reach).1 s s_mem
  exact run.tracked.getExpiredEpochId_ne_max current_pos

theorem getExpiredEpochId_reachable :
    List.Forall₂ Reachable m.GetExpiredEpochId.1.local_epochs_ insides := by
  simp only [GetExpiredEpochId, expireLocalEpochs_fst]
  exact List.forall₂_map_left_iff.mpr (reach.imp fun {_ _} run => run.getExpiredEpochId _ current_pos)

end Expiry

theorem snapshot_le_getExpiredEpochId (m : EpochManagerImpl) :
    m.snapshot_global_epoch_id_ ≤ m.GetExpiredEpochId.1.snapshot_global_epoch_id_ ∧
      (m.GetExpiredEpochId.2 ≠ UINT64_MAX →
        m.GetExpiredEpochId.2 < m.GetExpiredEpochId.1.snapshot_global_epoch_id_) := by
  simp only [GetExpiredEpochId]
  split
  · next raised =>
    have grows := lt_add_one_of_ne_max raised.1
    exact ⟨UInt64.le_of_lt (UInt64.lt_of_le_of_lt raised.2 grows), fun _ => grows⟩
  · next kept =>
    refine ⟨UInt64.le_refl _, fun set => ?_⟩
    exact UInt64.not_le.mp fun at_or_above => kept ⟨set, at_or_above⟩

-- With epochs from 1 up, as DecentralizedEpochManager hands them out, every thread keeps its
-- containers in step and its counts exact, and what the manager expires stays below every
-- transaction still inside an epoch.
theorem epoch_manager_expires_below_running_transactions (m : EpochManagerImpl)
    (insides : List (List UInt64)) (reach : List.Forall₂ Reachable m.local_epochs_ insides)
    (current_pos : m.current_global_epoch_id_ ≠ 0) :
    List.Forall₂ (fun s inside => Tracked s inside ∧
      ∀ epoch_id ∈ inside, s.epoch_id_lower_bound_ ≠ UINT64_MAX ∧
        s.epoch_id_lower_bound_ < epoch_id ∧ (s.ExitEpoch epoch_id).isSome) m.local_epochs_ insides ∧
    (∀ s ∈ m.local_epochs_, ∀ (epoch_id : UInt64) (ts_type : TimestampType),
      ts_type ≠ .snapshotRead → ((s.EnterEpoch epoch_id ts_type).2 = false ↔
        s.epoch_id_lower_bound_ ≠ UINT64_MAX ∧ epoch_id ≤ s.epoch_id_lower_bound_)) ∧
    (∀ inside ∈ insides, ∀ epoch_id ∈ inside, m.GetExpiredEpochId.2 < epoch_id ∧
      (epoch_id.toNat < 2 ^ 32 → ∀ next_txn_id : UInt32,
        m.GetExpiredCid.2 < readId epoch_id next_txn_id)) ∧
    m.snapshot_global_epoch_id_ ≤ m.GetExpiredEpochId.1.snapshot_global_epoch_id_ ∧
    (m.local_epochs_ ≠ [] →
      m.GetExpiredEpochId.2 < m.GetExpiredEpochId.1.snapshot_global_epoch_id_) ∧
    List.Forall₂ Reachable m.GetExpiredEpochId.1.local_epochs_ insides := by
  have below := fun {inside} (inside_mem : inside ∈ insides) {epoch_id} (mem : epoch_id ∈ inside) =>
    getExpiredEpochId_lt reach current_pos inside_mem mem
  refine ⟨tracked_of_reachable reach,
    fun s _ epoch_id _ not_snapshot => enterEpoch_refused_iff s epoch_id not_snapshot,
    fun inside inside_mem epoch_id mem => ⟨below inside_mem mem, fun fits next_txn_id =>
      expired_cid_lt_readId (below inside_mem mem) fits next_txn_id⟩,
    (snapshot_le_getExpiredEpochId m).1,
    fun registered => (snapshot_le_getExpiredEpochId m).2
      (getExpiredEpochId_ne_max reach current_pos registered),
    getExpiredEpochId_reachable reach current_pos⟩

def oneReader : EpochManagerImpl := ⟨[(new.EnterEpoch 2 .read).1], 3, 1⟩

theorem epoch_manager_expires_below_running_transactions_of_one_reader :
    List.Forall₂ Reachable oneReader.local_epochs_ [[2]] ∧ oneReader.current_global_epoch_id_ ≠ 0 ∧
    (List.Forall₂ (fun s inside => Tracked s inside ∧
      ∀ epoch_id ∈ inside, s.epoch_id_lower_bound_ ≠ UINT64_MAX ∧
        s.epoch_id_lower_bound_ < epoch_id ∧ (s.ExitEpoch epoch_id).isSome) oneReader.local_epochs_ [[2]] ∧
    (∀ s ∈ oneReader.local_epochs_, ∀ (epoch_id : UInt64) (ts_type : TimestampType),
      ts_type ≠ .snapshotRead → ((s.EnterEpoch epoch_id ts_type).2 = false ↔
        s.epoch_id_lower_bound_ ≠ UINT64_MAX ∧ epoch_id ≤ s.epoch_id_lower_bound_)) ∧
    (∀ inside ∈ [[(2 : UInt64)]], ∀ epoch_id ∈ inside, oneReader.GetExpiredEpochId.2 < epoch_id ∧
      (epoch_id.toNat < 2 ^ 32 → ∀ next_txn_id : UInt32,
        oneReader.GetExpiredCid.2 < readId epoch_id next_txn_id)) ∧
    oneReader.snapshot_global_epoch_id_ ≤ oneReader.GetExpiredEpochId.1.snapshot_global_epoch_id_ ∧
    (oneReader.local_epochs_ ≠ [] →
      oneReader.GetExpiredEpochId.2 < oneReader.GetExpiredEpochId.1.snapshot_global_epoch_id_) ∧
    List.Forall₂ Reachable oneReader.GetExpiredEpochId.1.local_epochs_ [[2]]) := by
  have entered : Reachable (new.EnterEpoch 2 .read).1 [2] := by
    have run := @Reachable.enterEpoch new [] 2 .read Reachable.new (by decide)
    rwa [if_pos (by decide)] at run
  have reach : List.Forall₂ Reachable oneReader.local_epochs_ [[2]] :=
    List.Forall₂.cons entered List.Forall₂.nil
  exact ⟨reach, by decide, epoch_manager_expires_below_running_transactions oneReader [[2]] reach (by decide)⟩

end EpochManagerImpl

end Peloton.Concurrency
