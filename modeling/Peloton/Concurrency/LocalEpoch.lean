import Peloton.Common.InternalTypes

set_option autoImplicit false

namespace Peloton.Concurrency

structure Epoch where
  epochId : Nat
  txnCount : Nat
  deriving DecidableEq, Repr

-- One worker thread's LocalEpoch.
structure LocalEpoch where
  epochIdLowerBound : Option Nat
  epochQueue : List Epoch
  deriving DecidableEq, Repr

namespace LocalEpoch

def initial : LocalEpoch := ⟨none, []⟩

def txnCountOf (queue : List Epoch) (epochId : Nat) : Nat :=
  (queue.map fun epoch => if epoch.epochId = epochId then epoch.txnCount else 0).sum

def adjustCount (queue : List Epoch) (epochId : Nat) (f : Nat → Nat) : List Epoch :=
  queue.map fun epoch =>
    if epoch.epochId = epochId then { epoch with txnCount := f epoch.txnCount } else epoch

def addTransaction (queue : List Epoch) (epochId : Nat) : List Epoch :=
  if queue.any (·.epochId == epochId) then adjustCount queue epochId (· + 1)
  else queue.orderedInsert (fun a b => a.epochId ≤ b.epochId) ⟨epochId, 1⟩

def register (queue : List Epoch) (epochId : Nat) (tsType : TimestampType) : List Epoch :=
  if tsType ≠ .commit then addTransaction queue epochId else queue

-- EnterEpoch: a thread that has not entered before takes the lower bound below the epoch; a lower
-- bound the GC has raised to the epoch or past it is lowered again for a snapshot read and refuses
-- any other entry, which then retries with a newer epoch.
def enterEpoch (le : LocalEpoch) (epochId : Nat) (tsType : TimestampType) : LocalEpoch × Bool :=
  match le.epochIdLowerBound with
  | none => (⟨some (epochId - 1), register le.epochQueue epochId tsType⟩, true)
  | some lower =>
    if epochId ≤ lower then
      if tsType = .snapshotRead then (⟨some (epochId - 1), register le.epochQueue epochId tsType⟩, true)
      else (le, false)
    else (⟨some lower, register le.epochQueue epochId tsType⟩, true)

def popEmptyEpochs (le : LocalEpoch) : LocalEpoch :=
  match le.epochQueue.dropWhile (·.txnCount = 0) with
  | [] => ⟨le.epochIdLowerBound, []⟩
  | top :: rest => ⟨some (top.epochId - 1), top :: rest⟩

def exitEpoch (le : LocalEpoch) (epochId : Nat) : LocalEpoch :=
  popEmptyEpochs { le with epochQueue := adjustCount le.epochQueue epochId (· - 1) }

-- GetExpiredEpochId: a thread with no epoch reports the epoch before the current one.
def getExpiredEpochId (le : LocalEpoch) (currentEpochId : Nat) : LocalEpoch × Nat :=
  let le' := if le.epochQueue = [] then { le with epochIdLowerBound := some (currentEpochId - 1) }
    else popEmptyEpochs le
  (le', le'.epochIdLowerBound.getD MAX_EID)

/-! Counting the transactions of an epoch. -/

@[simp] theorem txnCountOf_nil (epochId : Nat) : txnCountOf [] epochId = 0 := rfl

@[simp] theorem txnCountOf_cons (epoch : Epoch) (queue : List Epoch) (epochId : Nat) :
    txnCountOf (epoch :: queue) epochId =
      (if epoch.epochId = epochId then epoch.txnCount else 0) + txnCountOf queue epochId := by
  simp [txnCountOf]

theorem txnCountOf_eq_zero_of_not_mem {queue : List Epoch} {epochId : Nat}
    (h : epochId ∉ queue.map Epoch.epochId) : txnCountOf queue epochId = 0 := by
  induction queue with
  | nil => rfl
  | cons epoch rest ih =>
    simp only [List.map_cons, List.mem_cons, not_or] at h
    simp [Ne.symm h.1, ih h.2]

theorem mem_adjustCount {queue : List Epoch} {epochId : Nat} {f : Nat → Nat} {epoch : Epoch}
    (mem : epoch ∈ adjustCount queue epochId f) :
    ∃ old ∈ queue, epoch.epochId = old.epochId ∧
      (epoch.txnCount = old.txnCount ∨ epoch.txnCount = f old.txnCount) := by
  obtain ⟨old, old_mem, rfl⟩ := List.mem_map.mp mem
  refine ⟨old, old_mem, ?_⟩
  split <;> simp

theorem adjustCount_cons (epoch : Epoch) (rest : List Epoch) (epochId : Nat) (f : Nat → Nat) :
    adjustCount (epoch :: rest) epochId f =
      (if epoch.epochId = epochId then { epoch with txnCount := f epoch.txnCount } else epoch) ::
        adjustCount rest epochId f := rfl

theorem adjustCount_of_not_mem {queue : List Epoch} {epochId : Nat} (f : Nat → Nat)
    (h : epochId ∉ queue.map Epoch.epochId) : adjustCount queue epochId f = queue := by
  induction queue with
  | nil => rfl
  | cons epoch rest ih =>
    simp only [List.map_cons, List.mem_cons, not_or] at h
    rw [adjustCount_cons, ih h.2, if_neg (Ne.symm h.1)]

@[simp] theorem map_epochId_adjustCount (queue : List Epoch) (epochId : Nat) (f : Nat → Nat) :
    (adjustCount queue epochId f).map Epoch.epochId = queue.map Epoch.epochId := by
  induction queue with
  | nil => rfl
  | cons epoch rest ih =>
    simp only [adjustCount, List.map_map, List.map_cons] at ih ⊢
    split <;> simp [ih]

theorem txnCountOf_adjustCount_of_ne (queue : List Epoch) {epochId other : Nat} (f : Nat → Nat)
    (h : other ≠ epochId) : txnCountOf (adjustCount queue epochId f) other = txnCountOf queue other := by
  induction queue with
  | nil => rfl
  | cons epoch rest ih =>
    rw [adjustCount_cons, txnCountOf_cons, txnCountOf_cons, ih]
    by_cases same : epoch.epochId = epochId
    · simp [same, Ne.symm h]
    · simp [same]

theorem txnCountOf_adjustCount_self {queue : List Epoch} {epochId : Nat} (f : Nat → Nat)
    (distinct : (queue.map Epoch.epochId).Nodup) (present : epochId ∈ queue.map Epoch.epochId) :
    txnCountOf (adjustCount queue epochId f) epochId = f (txnCountOf queue epochId) := by
  induction queue with
  | nil => simp at present
  | cons epoch rest ih =>
    simp only [List.map_cons, List.nodup_cons, List.mem_cons] at distinct present
    rw [adjustCount_cons, txnCountOf_cons, txnCountOf_cons]
    by_cases same : epoch.epochId = epochId
    · -- the rest does not hold the epoch, so it counts nothing for it
      have absent : epochId ∉ rest.map Epoch.epochId := same ▸ distinct.1
      simp [same, adjustCount_of_not_mem f absent, txnCountOf_eq_zero_of_not_mem absent]
    · have : epochId ∈ rest.map Epoch.epochId := present.resolve_left (Ne.symm same)
      simp [same, ih distinct.2 this]

theorem txnCountOf_orderedInsert (queue : List Epoch) (epoch : Epoch) (other : Nat) :
    txnCountOf (queue.orderedInsert (fun a b => a.epochId ≤ b.epochId) epoch) other =
      txnCountOf (epoch :: queue) other := by
  unfold txnCountOf
  exact ((List.perm_orderedInsert _ epoch queue).map _).sum_eq

theorem txnCountOf_dropWhile (queue : List Epoch) (other : Nat) :
    txnCountOf (queue.dropWhile (·.txnCount = 0)) other = txnCountOf queue other := by
  induction queue with
  | nil => rfl
  | cons epoch rest ih =>
    rw [List.dropWhile_cons]
    by_cases empty : epoch.txnCount = 0
    · simp [empty, ih]
    · simp [empty]

theorem exists_of_txnCountOf_pos {queue : List Epoch} {epochId : Nat}
    (h : 0 < txnCountOf queue epochId) :
    ∃ epoch ∈ queue, epoch.epochId = epochId ∧ 0 < epoch.txnCount := by
  induction queue with
  | nil => simp at h
  | cons epoch rest ih =>
    rw [txnCountOf_cons] at h
    by_cases here : epoch.epochId = epochId ∧ 0 < epoch.txnCount
    · exact ⟨epoch, by simp, here⟩
    · have : 0 < txnCountOf rest epochId := by
        by_cases same : epoch.epochId = epochId
        · have : epoch.txnCount = 0 := by
            by_contra nonzero
            exact here ⟨same, Nat.pos_of_ne_zero nonzero⟩
          simpa [same, this] using h
        · simpa [same] using h
      obtain ⟨e, mem, he⟩ := ih this
      exact ⟨e, by simp [mem], he⟩

/-! The queue is sorted by epoch, and the lower bound stays below every epoch that still has a
transaction in it. -/

def Sorted (queue : List Epoch) : Prop := (queue.map Epoch.epochId).Pairwise (· < ·)

theorem Sorted.nodup {queue : List Epoch} (h : Sorted queue) : (queue.map Epoch.epochId).Nodup :=
  h.imp (fun hlt => Nat.ne_of_lt hlt)

theorem sorted_adjustCount {queue : List Epoch} (h : Sorted queue) (epochId : Nat) (f : Nat → Nat) :
    Sorted (adjustCount queue epochId f) := by
  unfold Sorted
  rwa [map_epochId_adjustCount]

theorem sorted_orderedInsert {queue : List Epoch} (h : Sorted queue) (epoch : Epoch)
    (fresh : epoch.epochId ∉ queue.map Epoch.epochId) :
    Sorted (queue.orderedInsert (fun a b => a.epochId ≤ b.epochId) epoch) := by
  induction queue with
  | nil => simp [Sorted]
  | cons top rest ih =>
    simp only [Sorted, List.map_cons, List.pairwise_cons, List.mem_map] at h
    simp only [List.map_cons, List.mem_cons, not_or] at fresh
    simp only [List.orderedInsert]
    split
    · next before =>
      -- the new epoch goes first: it is below the top, which is below the rest
      have lt : epoch.epochId < top.epochId := lt_of_le_of_ne before fresh.1
      simp only [Sorted, List.map_cons, List.pairwise_cons, List.mem_cons, List.mem_map]
      refine ⟨?_, h.1, h.2⟩
      rintro _ (rfl | ⟨e, mem, rfl⟩)
      · exact lt
      · exact lt.trans (h.1 _ ⟨e, mem, rfl⟩)
    · next after =>
      have lt : top.epochId < epoch.epochId := Nat.lt_of_not_le after
      have rest_sorted := ih h.2 fresh.2
      simp only [Sorted, List.map_cons, List.pairwise_cons] at rest_sorted ⊢
      refine ⟨?_, rest_sorted⟩
      intro b hb
      obtain ⟨e, mem, rfl⟩ := List.mem_map.mp hb
      rcases (List.mem_orderedInsert _).mp mem with rfl | mem
      · exact lt
      · exact h.1 _ ⟨e, mem, rfl⟩

theorem txnCount_pos_of_dropWhile {queue rest : List Epoch} {top : Epoch}
    (h : queue.dropWhile (·.txnCount = 0) = top :: rest) : 0 < top.txnCount := by
  induction queue with
  | nil => simp at h
  | cons epoch queue ih =>
    rw [List.dropWhile_cons] at h
    split at h
    · exact ih h
    · next nonzero =>
      cases h
      simp only [decide_eq_true_eq] at nonzero
      omega

theorem sorted_dropWhile {queue : List Epoch} (h : Sorted queue) (p : Epoch → Bool) :
    Sorted (queue.dropWhile p) :=
  h.sublist ((List.dropWhile_suffix p).sublist.map Epoch.epochId)

theorem sorted_addTransaction {queue : List Epoch} (h : Sorted queue) (epochId : Nat) :
    Sorted (addTransaction queue epochId) := by
  unfold addTransaction
  split
  · exact sorted_adjustCount h epochId _
  · next absent =>
    refine sorted_orderedInsert h _ ?_
    simpa using absent

theorem txnCountOf_addTransaction {queue : List Epoch} (h : Sorted queue) (epochId other : Nat) :
    txnCountOf (addTransaction queue epochId) other =
      txnCountOf queue other + if other = epochId then 1 else 0 := by
  unfold addTransaction
  split
  · next present =>
    have present : epochId ∈ queue.map Epoch.epochId := by simpa using present
    by_cases same : other = epochId
    · subst same
      simp [txnCountOf_adjustCount_self _ h.nodup present]
    · simp [txnCountOf_adjustCount_of_ne _ _ same, same]
  · next absent =>
    have fresh : epochId ∉ queue.map Epoch.epochId := by simpa using absent
    rw [txnCountOf_orderedInsert, txnCountOf_cons]
    by_cases same : other = epochId
    · subst same
      simp [txnCountOf_eq_zero_of_not_mem fresh]
    · simp [same, Ne.symm same]

-- The well-formedness every LocalEpoch keeps.
structure WellFormed (le : LocalEpoch) : Prop where
  sorted : Sorted le.epochQueue
  unused : le.epochIdLowerBound = none → le.epochQueue = []
  below : ∀ epoch ∈ le.epochQueue, 0 < epoch.txnCount →
    ∃ lower, le.epochIdLowerBound = some lower ∧ lower < epoch.epochId

theorem wellFormed_initial : WellFormed initial :=
  ⟨List.Pairwise.nil, fun _ => rfl, by simp [initial]⟩

theorem WellFormed.lower_lt {le : LocalEpoch} (h : WellFormed le) {epochId : Nat}
    (pos : 0 < txnCountOf le.epochQueue epochId) :
    ∃ lower, le.epochIdLowerBound = some lower ∧ lower < epochId := by
  obtain ⟨epoch, mem, rfl, count⟩ := exists_of_txnCountOf_pos pos
  exact h.below epoch mem count

theorem wellFormed_popEmptyEpochs {le : LocalEpoch} (h : WellFormed le) :
    WellFormed (popEmptyEpochs le) := by
  have sorted := sorted_dropWhile h.sorted (·.txnCount = 0)
  unfold popEmptyEpochs
  split
  · next => exact ⟨List.Pairwise.nil, fun _ => rfl, by simp⟩
  · next top rest popped =>
    have top_pos : 0 < top.txnCount := txnCount_pos_of_dropWhile popped
    have top_mem : top ∈ le.epochQueue :=
      (List.dropWhile_suffix _).subset (popped ▸ List.mem_cons_self)
    obtain ⟨lower, -, lower_lt⟩ := h.below top top_mem top_pos
    rw [popped] at sorted
    refine ⟨sorted, by simp, ?_⟩
    -- every epoch left is at or above the top, and the top is above an old lower bound
    rintro epoch mem -
    refine ⟨top.epochId - 1, rfl, ?_⟩
    rcases List.mem_cons.mp mem with rfl | mem
    · omega
    · simp only [Sorted, List.map_cons, List.pairwise_cons] at sorted
      have := sorted.1 epoch.epochId (List.mem_map_of_mem mem)
      omega

theorem wellFormed_exitEpoch {le : LocalEpoch} (h : WellFormed le) (epochId : Nat) :
    WellFormed (exitEpoch le epochId) := by
  apply wellFormed_popEmptyEpochs
  refine ⟨sorted_adjustCount h.sorted epochId (· - 1), ?_, ?_⟩
  · intro unused
    simp [adjustCount, h.unused unused]
  · -- an epoch still counted after the decrement was counted before
    intro epoch mem pos
    obtain ⟨old, old_mem, same_id, count⟩ :=
      @mem_adjustCount le.epochQueue epochId (· - 1) epoch mem
    rw [same_id]
    exact h.below old old_mem (by omega)

theorem wellFormed_getExpiredEpochId {le : LocalEpoch} (h : WellFormed le) (currentEpochId : Nat) :
    WellFormed (getExpiredEpochId le currentEpochId).1 := by
  unfold getExpiredEpochId
  split
  · next empty => exact ⟨by simp [Sorted, empty], fun _ => empty, by simp [empty]⟩
  · exact wellFormed_popEmptyEpochs h

theorem mem_register {queue : List Epoch} {epochId : Nat} {tsType : TimestampType} {epoch : Epoch}
    (mem : epoch ∈ register queue epochId tsType) : epoch.epochId = epochId ∨ epoch ∈ queue := by
  unfold register addTransaction adjustCount at mem
  split at mem
  · split at mem
    · obtain ⟨old, old_mem, rfl⟩ := List.mem_map.mp mem
      by_cases same : old.epochId = epochId
      · simp [same]
      · simp [same, old_mem]
    · rcases (List.mem_orderedInsert _).mp mem with rfl | mem
      · exact .inl rfl
      · exact .inr mem
  · exact .inr mem

theorem wellFormed_enterEpoch {le : LocalEpoch} (h : WellFormed le) {epochId : Nat}
    (pos : 0 < epochId) (tsType : TimestampType) : WellFormed (enterEpoch le epochId tsType).1 := by
  have sorted : Sorted (register le.epochQueue epochId tsType) := by
    unfold register
    split
    · exact sorted_addTransaction h.sorted epochId
    · exact h.sorted
  -- a new lower bound below the entered epoch and below every counted epoch keeps the queue sound
  have entered : ∀ lower', lower' < epochId →
      (∀ epoch ∈ le.epochQueue, 0 < epoch.txnCount → lower' < epoch.epochId) →
      WellFormed ⟨some lower', register le.epochQueue epochId tsType⟩ := by
    intro lower' below_entered below_counted
    refine ⟨sorted, by simp, ?_⟩
    intro epoch mem count
    refine ⟨lower', rfl, ?_⟩
    rcases mem_register mem with same | mem
    · exact same ▸ below_entered
    · exact below_counted epoch mem count
  have old_below : ∀ lower, le.epochIdLowerBound = some lower →
      ∀ epoch ∈ le.epochQueue, 0 < epoch.txnCount → lower < epoch.epochId := by
    intro lower hlower epoch mem count
    obtain ⟨l, hl, lt⟩ := h.below epoch mem count
    rw [hlower, Option.some.injEq] at hl
    exact hl ▸ lt
  unfold enterEpoch
  split
  · next unused =>
    refine entered _ (by omega) ?_
    intro epoch mem
    simp [h.unused unused] at mem
  · next lower hlower =>
    split
    · next at_or_below =>
      split
      · exact entered _ (by omega) fun epoch mem count =>
          Nat.lt_of_le_of_lt (by omega) (old_below lower hlower epoch mem count)
      · exact h
    · next above => exact entered _ (by omega) (old_below lower hlower)

/-! What each operation does to the counts and to the lower bound. -/

theorem enterEpoch_cases (le : LocalEpoch) (epochId : Nat) (tsType : TimestampType) :
    enterEpoch le epochId tsType = (le, false) ∨
      ∃ lower, enterEpoch le epochId tsType =
        (⟨some lower, register le.epochQueue epochId tsType⟩, true) := by
  unfold enterEpoch
  split
  · exact .inr ⟨_, rfl⟩
  · split
    · split
      · exact .inr ⟨_, rfl⟩
      · exact .inl rfl
    · exact .inr ⟨_, rfl⟩

theorem enterEpoch_refused {le : LocalEpoch} {epochId : Nat} {tsType : TimestampType}
    (h : (enterEpoch le epochId tsType).2 = false) :
    tsType ≠ .snapshotRead ∧ ∃ lower, le.epochIdLowerBound = some lower ∧ epochId ≤ lower := by
  unfold enterEpoch at h
  split at h
  · simp at h
  · next lower hlower =>
    split at h
    · next at_or_below =>
      split at h
      · simp at h
      · next not_snapshot => exact ⟨not_snapshot, lower, hlower, at_or_below⟩
    · simp at h

theorem txnCountOf_register {queue : List Epoch} (h : Sorted queue) (epochId : Nat)
    (tsType : TimestampType) (other : Nat) :
    txnCountOf (register queue epochId tsType) other =
      txnCountOf queue other + if tsType ≠ .commit ∧ other = epochId then 1 else 0 := by
  unfold register
  split
  · next counted => simp [txnCountOf_addTransaction h, counted]
  · next not_counted => simp [not_counted]

theorem txnCountOf_enterEpoch {le : LocalEpoch} (h : WellFormed le) (epochId : Nat)
    (tsType : TimestampType) (other : Nat) :
    txnCountOf (enterEpoch le epochId tsType).1.epochQueue other =
      txnCountOf le.epochQueue other +
        if (enterEpoch le epochId tsType).2 ∧ tsType ≠ .commit ∧ other = epochId then 1 else 0 := by
  rcases enterEpoch_cases le epochId tsType with refused | ⟨lower, entered⟩
  · simp [refused]
  · simp only [entered, true_and]
    exact txnCountOf_register h.sorted epochId tsType other

theorem popEmptyEpochs_epochQueue (le : LocalEpoch) :
    (popEmptyEpochs le).epochQueue = le.epochQueue.dropWhile (·.txnCount = 0) := by
  unfold popEmptyEpochs
  split
  · next popped => exact popped.symm
  · next popped => exact popped.symm

theorem txnCountOf_popEmptyEpochs (le : LocalEpoch) (other : Nat) :
    txnCountOf (popEmptyEpochs le).epochQueue other = txnCountOf le.epochQueue other := by
  rw [popEmptyEpochs_epochQueue, txnCountOf_dropWhile]

theorem txnCountOf_exitEpoch {le : LocalEpoch} (h : WellFormed le) (epochId other : Nat) :
    txnCountOf (exitEpoch le epochId).epochQueue other =
      txnCountOf le.epochQueue other - if other = epochId then 1 else 0 := by
  unfold exitEpoch
  rw [txnCountOf_popEmptyEpochs]
  by_cases same : other = epochId
  · subst same
    by_cases present : other ∈ le.epochQueue.map Epoch.epochId
    · simp [txnCountOf_adjustCount_self _ h.sorted.nodup present]
    · simp [adjustCount_of_not_mem _ present, txnCountOf_eq_zero_of_not_mem present]
  · simp [txnCountOf_adjustCount_of_ne _ _ same, same]

theorem txnCountOf_getExpiredEpochId (le : LocalEpoch) (currentEpochId other : Nat) :
    txnCountOf (getExpiredEpochId le currentEpochId).1.epochQueue other =
      txnCountOf le.epochQueue other := by
  unfold getExpiredEpochId
  split
  · rfl
  · exact txnCountOf_popEmptyEpochs le other

theorem getExpiredEpochId_lt {le : LocalEpoch} (h : WellFormed le) (currentEpochId : Nat)
    {epochId : Nat} (pos : 0 < txnCountOf le.epochQueue epochId) :
    (getExpiredEpochId le currentEpochId).2 < epochId := by
  have wf := wellFormed_getExpiredEpochId h currentEpochId
  rw [← txnCountOf_getExpiredEpochId le currentEpochId] at pos
  obtain ⟨lower, hlower, lt⟩ := wf.lower_lt pos
  have reported : (getExpiredEpochId le currentEpochId).2 =
      (getExpiredEpochId le currentEpochId).1.epochIdLowerBound.getD MAX_EID := rfl
  rw [reported, hlower, Option.getD_some]
  exact lt

/-! Every epoch a thread holds, and its lower bound, stay at or below the current epoch. -/

structure Bounded (le : LocalEpoch) (currentEpochId : Nat) : Prop where
  epochs_le : ∀ epoch ∈ le.epochQueue, epoch.epochId ≤ currentEpochId
  lower_lt : ∀ lower, le.epochIdLowerBound = some lower → lower < currentEpochId

theorem bounded_initial (currentEpochId : Nat) : Bounded initial currentEpochId :=
  ⟨by simp [initial], by simp [initial]⟩

theorem Bounded.mono {le : LocalEpoch} {current current' : Nat} (h : Bounded le current)
    (le_current : current ≤ current') : Bounded le current' :=
  ⟨fun epoch mem => (h.epochs_le epoch mem).trans le_current,
    fun lower hlower => (h.lower_lt lower hlower).trans_le le_current⟩

theorem bounded_enterEpoch {le : LocalEpoch} {current epochId : Nat} (h : Bounded le current)
    (pos : 0 < current) (le_current : epochId ≤ current) (tsType : TimestampType) :
    Bounded (enterEpoch le epochId tsType).1 current := by
  have epochs : ∀ epoch ∈ register le.epochQueue epochId tsType, epoch.epochId ≤ current := by
    intro epoch mem
    rcases mem_register mem with same | mem
    · exact same ▸ le_current
    · exact h.epochs_le epoch mem
  unfold enterEpoch
  split
  · exact ⟨epochs, by simp; omega⟩
  · next lower hlower =>
    have old := h.lower_lt lower hlower
    split
    · split
      · exact ⟨epochs, by simp; omega⟩
      · exact h
    · exact ⟨epochs, by simpa using old⟩

theorem bounded_popEmptyEpochs {le : LocalEpoch} {current : Nat} (h : Bounded le current)
    (pos : 0 < current) : Bounded (popEmptyEpochs le) current := by
  have kept : ∀ epoch ∈ le.epochQueue.dropWhile (·.txnCount = 0), epoch.epochId ≤ current :=
    fun epoch mem => h.epochs_le epoch ((List.dropWhile_suffix _).subset mem)
  unfold popEmptyEpochs
  split
  · exact ⟨by simp, h.lower_lt⟩
  · next top rest popped =>
    have top_le := kept top (popped ▸ List.mem_cons_self)
    exact ⟨popped ▸ kept, by simp; omega⟩

theorem bounded_exitEpoch {le : LocalEpoch} {current : Nat} (h : Bounded le current)
    (pos : 0 < current) (epochId : Nat) : Bounded (exitEpoch le epochId) current := by
  apply bounded_popEmptyEpochs _ pos
  refine ⟨fun epoch mem => ?_, h.lower_lt⟩
  obtain ⟨old, old_mem, same_id, -⟩ := @mem_adjustCount le.epochQueue epochId (· - 1) epoch mem
  exact same_id ▸ h.epochs_le old old_mem

theorem bounded_getExpiredEpochId {le : LocalEpoch} {current : Nat} (h : Bounded le current)
    (pos : 0 < current) : Bounded (getExpiredEpochId le current).1 current := by
  unfold getExpiredEpochId
  split
  · next empty => exact ⟨by simp [empty], by simp; omega⟩
  · exact bounded_popEmptyEpochs h pos

theorem getExpiredEpochId_lt_current {le : LocalEpoch} {current : Nat} (h : WellFormed le)
    (bounded : Bounded le current) (pos : 0 < current) :
    (getExpiredEpochId le current).2 < current := by
  have reported : (getExpiredEpochId le current).2 =
      (getExpiredEpochId le current).1.epochIdLowerBound.getD MAX_EID := rfl
  have after := bounded_getExpiredEpochId bounded pos
  -- the lower bound is set: by this call for an empty queue, by an earlier entry otherwise
  have set : ∃ lower, (getExpiredEpochId le current).1.epochIdLowerBound = some lower := by
    unfold getExpiredEpochId
    split
    · exact ⟨_, rfl⟩
    · next nonempty =>
      unfold popEmptyEpochs
      split
      · cases hlower : le.epochIdLowerBound with
        | none => exact absurd (h.unused hlower) nonempty
        | some lower => exact ⟨lower, rfl⟩
      · exact ⟨_, rfl⟩
  obtain ⟨lower, hlower⟩ := set
  rw [reported, hlower, Option.getD_some]
  exact after.lower_lt lower hlower

end LocalEpoch

end Peloton.Concurrency
