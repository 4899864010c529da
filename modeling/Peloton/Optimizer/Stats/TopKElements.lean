import Peloton.Lib.PriorityQueue
import Peloton.Optimizer.Stats.CountMinSketch

set_option autoImplicit false

namespace Peloton.Optimizer

open PriorityQueue

inductive ElemType where
  | nonType | intType | strType | decType
  deriving DecidableEq, Repr

structure ApproxTopEntryElem where
  itemType : ElemType
  intItem : Int64
  -- encodes both string and decimal
  strItem : String
  deriving DecidableEq, Repr

namespace ApproxTopEntryElem

def ofInt (intItem : Int64) : ApproxTopEntryElem := ⟨.intType, intItem, ""⟩

def ofStr (strItem : String) (type : ElemType) : ApproxTopEntryElem := ⟨type, -1, strItem⟩

def eq (a b : ApproxTopEntryElem) : Bool :=
  if a.itemType = b.itemType then
    match a.itemType with
    | .intType => a.intItem == b.intItem
    | .decType | .strType => a.strItem == b.strItem
    | .nonType => false
  else false

theorem eq_comm (a b : ApproxTopEntryElem) : a.eq b = b.eq a := by
  unfold eq
  by_cases same : a.itemType = b.itemType
  · rw [if_pos same, if_pos same.symm, same]
    cases b.itemType <;> simp [Bool.beq_comm]
  · rw [if_neg same, if_neg (Ne.symm same)]

theorem eq_trans {a b c : ApproxTopEntryElem} (ab : a.eq b = true) (bc : b.eq c = true) :
    a.eq c = true := by
  unfold eq at *
  split at ab
  next abType =>
    split at bc
    next bcType =>
      rw [if_pos (abType.trans bcType), abType, bcType]
      rw [abType, bcType] at ab
      rw [bcType] at bc
      cases hc : c.itemType <;> simp_all
    next => simp at bc
  next => simp at ab

end ApproxTopEntryElem

structure ApproxTopEntry where
  approxTopElem : ApproxTopEntryElem
  approxCount : Int64
  deriving DecidableEq, Repr

namespace ApproxTopEntry

def eq (a b : ApproxTopEntry) : Bool := a.approxTopElem.eq b.approxTopElem

theorem eq_comm (a b : ApproxTopEntry) : a.eq b = b.eq a := ApproxTopEntryElem.eq_comm _ _

theorem eq_trans {a b c : ApproxTopEntry} (ab : a.eq b = true) (bc : b.eq c = true) :
    a.eq c = true :=
  ApproxTopEntryElem.eq_trans ab bc

end ApproxTopEntry

namespace UpdatableQueue

variable {T : Type} {comp : T → T → Bool} (heap : HeapAlgorithms T comp) (eq : T → T → Bool)

def isExist (c : List T) (val : T) : Bool := c.any (fun x => eq x val)

def findLast (val : T) : List T → Nat → Option Nat → Option Nat
  | [], _, idx => idx
  | x :: rest, i, idx => findLast val rest (i + 1) (if eq x val then some i else idx)

def remove (c : List T) (val : T) : Bool × List T :=
  match findLast eq val c 0 none with
  | some i => (true, heap.makeHeap (c.eraseIdx i))
  | none => (false, c)

def retrieveAllOrdered (c : List T) : List T × List T :=
  let drained := heap.drain c.length c
  (drained.1, heap.pushAll drained.2 drained.2)

def retrieveOrderedMaxFirst (num : Int) (c : List T) : List T × List T :=
  let drained := heap.drain c.length c
  (drained.1.reverse.take num.toNat, heap.pushAll drained.2 drained.1.reverse)

def retrieveAllOrderedMaxFirst (c : List T) : List T × List T :=
  let drained := heap.drain c.length c
  (drained.1.reverse, heap.pushAll drained.2 drained.1.reverse)

theorem findLast_spec (val : T) : ∀ (l : List T) (n : Nat) (idx : Option Nat),
    (findLast eq val l n idx = idx ∧ isExist eq l val = false) ∨
      ∃ j, ∃ h : j < l.length, findLast eq val l n idx = some (n + j) ∧ eq l[j] val = true
  | [], _, _ => Or.inl ⟨rfl, rfl⟩
  | x :: rest, n, idx => by
    rcases findLast_spec val rest (n + 1) (if eq x val then some n else idx) with
      ⟨none, absent⟩ | ⟨j, h, found, hitAt⟩
    · by_cases hit : eq x val = true
      · refine Or.inr ⟨0, by simp, ?_, hit⟩
        rw [findLast, none, if_pos hit, Nat.add_zero]
      · refine Or.inl ⟨by rw [findLast, none, if_neg hit], ?_⟩
        simp only [isExist, List.any_cons] at absent ⊢
        simp [hit, absent]
    · refine Or.inr ⟨j + 1, by simpa using h, ?_, hitAt⟩
      rw [findLast, found]
      congr 1
      omega

theorem remove_of_isExist {l : List T} {val : T} (present : isExist eq l val = true) :
    ∃ i, ∃ h : i < l.length, eq l[i] val = true ∧
      remove heap eq l val = (true, heap.makeHeap (l.eraseIdx i)) := by
  rcases findLast_spec eq val l 0 none with ⟨-, absent⟩ | ⟨j, h, found, hitAt⟩
  · rw [absent] at present
    contradiction
  · refine ⟨j, h, hitAt, ?_⟩
    rw [remove, found, Nat.zero_add]

section Retrieve

variable {l : List T} (isHeap : heap.IsHeap l)
include isHeap

theorem retrieveAllOrdered_spec :
    (retrieveAllOrdered heap l).2 = [] ∧ (retrieveAllOrdered heap l).1.Perm l ∧
      (retrieveAllOrdered heap l).1.Pairwise (fun a b => comp a b = false) := by
  obtain ⟨left, perm, sorted⟩ := heap.drain_spec l.length l isHeap le_rfl
  refine ⟨?_, perm, sorted⟩
  simp only [retrieveAllOrdered, left]
  rfl

theorem retrieveAllOrderedMaxFirst_spec :
    heap.IsHeap (retrieveAllOrderedMaxFirst heap l).2 ∧
      (retrieveAllOrderedMaxFirst heap l).2.Perm l ∧
      (retrieveAllOrderedMaxFirst heap l).1.Perm l ∧
      (retrieveAllOrderedMaxFirst heap l).1.Pairwise (fun a b => comp b a = false) := by
  obtain ⟨left, perm, sorted⟩ := heap.drain_spec l.length l isHeap le_rfl
  obtain ⟨refilled, refilledPerm⟩ := heap.pushAll_spec (heap.drain l.length l).1.reverse
    (heap.drain l.length l).2 (by rw [left]; exact heap.nil_isHeap)
  have back : ((heap.drain l.length l).1.reverse.reverse ++ (heap.drain l.length l).2).Perm l := by
    rw [left, List.append_nil, List.reverse_reverse]
    exact perm
  exact ⟨refilled, refilledPerm.trans back, (List.reverse_perm _).trans perm,
    List.pairwise_reverse.mpr sorted⟩

end Retrieve

end UpdatableQueue

-- k and size are ints; size stays between 0 and k, so they are kept as Int.
structure TopKQueue where
  k : Int
  queue : List ApproxTopEntry
  size : Int

namespace TopKQueue

def compare (l r : ApproxTopEntry) : Bool := decide (r.approxCount < l.approxCount)

variable (heap : HeapAlgorithms ApproxTopEntry compare)

def isExist (q : TopKQueue) (entry : ApproxTopEntry) : Bool :=
  UpdatableQueue.isExist ApproxTopEntry.eq q.queue entry

def push (q : TopKQueue) (entry : ApproxTopEntry) : TopKQueue :=
  if q.size < q.k then { q with queue := heap.pushHeap q.queue entry, size := q.size + 1 }
  else
    match q.queue with
    | [] => q
    | top :: rest =>
      if top.approxCount < entry.approxCount then
        { q with queue := heap.pushHeap (heap.popHeap (top :: rest)) entry }
      else q

def update (q : TopKQueue) (entry : ApproxTopEntry) : TopKQueue :=
  let removed := UpdatableQueue.remove heap ApproxTopEntry.eq q.queue entry
  if removed.1 then { q with queue := heap.pushHeap removed.2 entry }
  else { q with queue := removed.2 }

-- decr_size() comes first, whether or not the entry is found.
def remove (q : TopKQueue) (entry : ApproxTopEntry) : Bool × TopKQueue :=
  let removed := UpdatableQueue.remove heap ApproxTopEntry.eq q.queue entry
  (removed.1, { q with queue := removed.2, size := q.size - 1 })

def retrieveAllOrdered (q : TopKQueue) : List ApproxTopEntry × TopKQueue :=
  let r := UpdatableQueue.retrieveAllOrdered heap q.queue
  (r.1, { q with queue := r.2 })

def retrieveAllOrderedMaxFirst (q : TopKQueue) : List ApproxTopEntry × TopKQueue :=
  let r := UpdatableQueue.retrieveAllOrderedMaxFirst heap q.queue
  (r.1, { q with queue := r.2 })

def retrieveOrderedMaxFirst (q : TopKQueue) (num : Int) : List ApproxTopEntry × TopKQueue :=
  let r := UpdatableQueue.retrieveOrderedMaxFirst heap num q.queue
  (r.1, { q with queue := r.2 })

def valueFrequencyPair (e : ApproxTopEntry) : ApproxTopEntryElem × Int64 :=
  (e.approxTopElem, e.approxCount)

def getAllOrderedMaxFirst (q : TopKQueue) : List (ApproxTopEntryElem × Int64) × TopKQueue :=
  let r := q.retrieveAllOrderedMaxFirst heap
  (r.1.map valueFrequencyPair, r.2)

def getOrderedMaxFirst (q : TopKQueue) (num : Int) :
    List (ApproxTopEntryElem × Int64) × TopKQueue :=
  let r := q.retrieveOrderedMaxFirst heap num
  (r.1.map valueFrequencyPair, r.2)

/-- What the queue keeps between calls: a heap of at most k entries with distinct elements, which
size counts. -/
structure Inv (q : TopKQueue) : Prop where
  isHeap : heap.IsHeap q.queue
  size : q.size = q.queue.length
  bounded : (q.queue.length : Int) ≤ q.k
  distinct : q.queue.Pairwise (fun a b => a.eq b = false)

section Invariant

variable {heap}

theorem distinct_perm {l l' : List ApproxTopEntry} (perm : l'.Perm l) :
    l'.Pairwise (fun a b => a.eq b = false) ↔ l.Pairwise (fun a b => a.eq b = false) :=
  perm.pairwise_iff (fun {x y} same => by rw [ApproxTopEntry.eq_comm]; exact same)

theorem distinct_cons {l : List ApproxTopEntry} (distinct : l.Pairwise (fun a b => a.eq b = false))
    {entry : ApproxTopEntry} (fresh : ∀ y ∈ l, y.eq entry = false) :
    (entry :: l).Pairwise (fun a b => a.eq b = false) :=
  List.pairwise_cons.mpr ⟨fun y mem => by rw [ApproxTopEntry.eq_comm]; exact fresh y mem, distinct⟩

theorem fresh_of_not_isExist {q : TopKQueue} {entry : ApproxTopEntry}
    (absent : q.isExist entry = false) : ∀ y ∈ q.queue, y.eq entry = false := by
  intro y mem
  have := List.any_eq_false.mp absent y mem
  simpa using this

theorem Inv.of_perm {q : TopKQueue} (inv : Inv heap q) {l : List ApproxTopEntry}
    (isHeap : heap.IsHeap l) (perm : l.Perm q.queue) : Inv heap { q with queue := l } :=
  ⟨isHeap, by rw [perm.length_eq]; exact inv.size, by rw [perm.length_eq]; exact inv.bounded,
    (distinct_perm perm).mpr inv.distinct⟩

theorem Inv.push {q : TopKQueue} (inv : Inv heap q) {entry : ApproxTopEntry}
    (absent : q.isExist entry = false) : Inv heap (q.push heap entry) := by
  have fresh := fresh_of_not_isExist absent
  unfold TopKQueue.push
  split
  next room =>
    have perm := heap.push_perm q.queue entry
    refine ⟨heap.push_isHeap _ _ inv.isHeap, ?_, ?_, (distinct_perm perm).mpr
      (distinct_cons inv.distinct fresh)⟩
    · rw [perm.length_eq, List.length_cons, inv.size]
      push_cast
      rfl
    · have := inv.size
      rw [perm.length_eq, List.length_cons]
      push_cast
      omega
  next =>
    split
    next => exact inv
    next top rest full =>
      split
      next =>
        -- the top gives way: the new queue holds the entry and what was behind the top
        have popped := heap.pop_perm (top :: rest)
        have perm := (heap.push_perm (heap.popHeap (top :: rest)) entry).trans (popped.cons entry)
        have rest_distinct : rest.Pairwise (fun a b => a.eq b = false) := by
          have := inv.distinct
          rw [full] at this
          exact (List.pairwise_cons.mp this).2
        have same : (entry :: rest).length = q.queue.length := by rw [full]; rfl
        refine ⟨heap.push_isHeap _ _ (heap.pop_isHeap _ (full ▸ inv.isHeap)), ?_, ?_,
          (distinct_perm perm).mpr (distinct_cons rest_distinct
            (fun y mem => fresh y (by rw [full]; exact List.mem_cons_of_mem top mem)))⟩
        · show q.size = _
          rw [perm.length_eq, List.tail_cons, same]
          exact inv.size
        · show _ ≤ q.k
          rw [perm.length_eq, List.tail_cons, same]
          exact inv.bounded
      next => exact inv

theorem Inv.update {q : TopKQueue} (inv : Inv heap q) {entry : ApproxTopEntry}
    (present : q.isExist entry = true) : Inv heap (q.update heap entry) := by
  obtain ⟨i, h, hit, removed⟩ := UpdatableQueue.remove_of_isExist heap ApproxTopEntry.eq present
  have split := List.getElem_cons_eraseIdx_perm h
  have others : ∀ y ∈ q.queue.eraseIdx i, q.queue[i].eq y = false :=
    (List.pairwise_cons.mp ((distinct_perm split).mpr inv.distinct)).1
  -- the entry equals the one it replaces, so it equals none of the others
  have fresh : ∀ y ∈ q.queue.eraseIdx i, y.eq entry = false := by
    intro y mem
    rw [ApproxTopEntry.eq_comm]
    by_contra same
    have := ApproxTopEntry.eq_trans hit (by simpa using same)
    rw [others y mem] at this
    contradiction
  have perm := (heap.push_perm _ entry).trans
    ((heap.make_perm (q.queue.eraseIdx i)).cons entry)
  have same : (entry :: q.queue.eraseIdx i).length = q.queue.length := by
    rw [List.length_cons, List.length_eraseIdx, if_pos h]
    omega
  have updated : q.update heap entry =
      { q with queue := heap.pushHeap (heap.makeHeap (q.queue.eraseIdx i)) entry } := by
    unfold TopKQueue.update
    rw [removed]
    rfl
  rw [updated]
  refine ⟨heap.push_isHeap _ _ (heap.make_isHeap _), ?_, ?_, (distinct_perm perm).mpr
    (distinct_cons (inv.distinct.sublist (List.eraseIdx_sublist _ i)) fresh)⟩
  · show q.size = _
    rw [perm.length_eq, same]
    exact inv.size
  · show _ ≤ q.k
    rw [perm.length_eq, same]
    exact inv.bounded

theorem Inv.remove {q : TopKQueue} (inv : Inv heap q) {entry : ApproxTopEntry}
    (present : q.isExist entry = true) : Inv heap (q.remove heap entry).2 := by
  obtain ⟨i, h, -, removed⟩ := UpdatableQueue.remove_of_isExist heap ApproxTopEntry.eq present
  have perm := heap.make_perm (q.queue.eraseIdx i)
  have shorter : (q.queue.eraseIdx i).length + 1 = q.queue.length := by
    rw [List.length_eraseIdx, if_pos h]
    omega
  have after : (q.remove heap entry).2 =
      { q with queue := heap.makeHeap (q.queue.eraseIdx i), size := q.size - 1 } := by
    unfold TopKQueue.remove
    rw [removed]
  rw [after]
  refine ⟨heap.make_isHeap _, ?_, ?_, (distinct_perm perm).mpr
    (inv.distinct.sublist (List.eraseIdx_sublist _ i))⟩
  · show q.size - 1 = _
    rw [perm.length_eq, inv.size, ← shorter]
    push_cast
    ring
  · show _ ≤ q.k
    have := inv.bounded
    rw [perm.length_eq]
    omega

end Invariant

end TopKQueue

-- The sketch takes int64 and string items.
structure TopKElements where
  tkq : TopKQueue
  cmsketch : CountMinSketch (Int64 ⊕ String)

namespace TopKElements

variable (heap : HeapAlgorithms ApproxTopEntry TopKQueue.compare)

def addFreqItem (q : TopKQueue) (entry : ApproxTopEntry) : TopKQueue :=
  if !q.isExist entry then q.push heap entry else q.update heap entry

def decrFreqItem (q : TopKQueue) (entry : ApproxTopEntry) : TopKQueue :=
  if !q.isExist entry then q
  else if entry.approxCount == 0 then (q.remove heap entry).2
  else q.update heap entry

def addItem (t : TopKElements) (item : Int64 ⊕ String) (elem : ApproxTopEntryElem)
    (count : Int32) : TopKElements :=
  let sketch := t.cmsketch.add item count
  { tkq := addFreqItem heap t.tkq ⟨elem, (sketch.estimateItemCount item).toInt64⟩,
    cmsketch := sketch }

def addInt (t : TopKElements) (item : Int64) (count : Int32) : TopKElements :=
  t.addItem heap (.inl item) (.ofInt item) count

def addStr (t : TopKElements) (item : String) (count : Int32) (type : ElemType) : TopKElements :=
  t.addItem heap (.inr item) (.ofStr item type) count

def removeItem (t : TopKElements) (item : Int64 ⊕ String) (elem : ApproxTopEntryElem)
    (count : Int32) : TopKElements :=
  let sketch := t.cmsketch.remove item count.toUInt32
  { tkq := decrFreqItem heap t.tkq ⟨elem, (sketch.estimateItemCount item).toInt64⟩,
    cmsketch := sketch }

def removeInt (t : TopKElements) (item : Int64) (count : Int32) : TopKElements :=
  t.removeItem heap (.inl item) (.ofInt item) count

def removeStr (t : TopKElements) (item : String) (count : Int32) : TopKElements :=
  t.removeItem heap (.inr item) (.ofStr item .strType) count

def retrieveAll (t : TopKElements) : List ApproxTopEntry := t.tkq.queue

def retrieveAllOrdered (t : TopKElements) : List ApproxTopEntry × TopKElements :=
  let r := t.tkq.retrieveAllOrdered heap
  (r.1, { t with tkq := r.2 })

def retrieveAllOrderedMaxFirst (t : TopKElements) : List ApproxTopEntry × TopKElements :=
  let r := t.tkq.retrieveAllOrderedMaxFirst heap
  (r.1, { t with tkq := r.2 })

def retrieveOrderedMaxFirst (t : TopKElements) (num : Int) : List ApproxTopEntry × TopKElements :=
  if num ≥ t.tkq.k then t.retrieveAllOrderedMaxFirst heap
  else
    let r := t.tkq.retrieveOrderedMaxFirst heap num
    (r.1, { t with tkq := r.2 })

def getAllOrderedMaxFirst (t : TopKElements) :
    List (ApproxTopEntryElem × Int64) × TopKElements :=
  let r := t.tkq.getAllOrderedMaxFirst heap
  (r.1, { t with tkq := r.2 })

def getOrderedMaxFirst (t : TopKElements) (num : Int) :
    List (ApproxTopEntryElem × Int64) × TopKElements :=
  if num ≥ t.tkq.k then t.getAllOrderedMaxFirst heap
  else
    let r := t.tkq.getOrderedMaxFirst heap num
    (r.1, { t with tkq := r.2 })

def init (k : Int) (cmsketch : CountMinSketch (Int64 ⊕ String)) : TopKElements :=
  { tkq := { k := k, queue := [], size := 0 }, cmsketch := cmsketch }

inductive TopKOp where
  | addInt (item : Int64) (count : Int32)
  | addStr (item : String) (count : Int32) (type : ElemType)
  | removeInt (item : Int64) (count : Int32)
  | removeStr (item : String) (count : Int32)
  | retrieveAll
  | retrieveAllOrdered
  | retrieveAllOrderedMaxFirst
  | retrieveOrderedMaxFirst (num : Int)
  | getAllOrderedMaxFirst
  | getOrderedMaxFirst (num : Int)

def apply (t : TopKElements) : TopKOp → TopKElements
  | .addInt item count => t.addInt heap item count
  | .addStr item count type => t.addStr heap item count type
  | .removeInt item count => t.removeInt heap item count
  | .removeStr item count => t.removeStr heap item count
  | .retrieveAll => t
  | .retrieveAllOrdered => (t.retrieveAllOrdered heap).2
  | .retrieveAllOrderedMaxFirst => (t.retrieveAllOrderedMaxFirst heap).2
  | .retrieveOrderedMaxFirst num => (t.retrieveOrderedMaxFirst heap num).2
  | .getAllOrderedMaxFirst => (t.getAllOrderedMaxFirst heap).2
  | .getOrderedMaxFirst num => (t.getOrderedMaxFirst heap num).2

def run (t : TopKElements) (ops : List TopKOp) : TopKElements := ops.foldl (apply heap) t

section Invariant

open TopKQueue

variable {heap}

theorem inv_addFreqItem {q : TopKQueue} (inv : Inv heap q) (entry : ApproxTopEntry) :
    Inv heap (addFreqItem heap q entry) := by
  unfold TopKElements.addFreqItem
  cases present : q.isExist entry
  · exact inv.push present
  · exact inv.update present

theorem inv_decrFreqItem {q : TopKQueue} (inv : Inv heap q) (entry : ApproxTopEntry) :
    Inv heap (decrFreqItem heap q entry) := by
  unfold TopKElements.decrFreqItem
  cases present : q.isExist entry
  · exact inv
  · show Inv heap (if entry.approxCount == 0 then (q.remove heap entry).2 else q.update heap entry)
    split
    · exact inv.remove present
    · exact inv.update present

theorem retrieveAllOrderedMaxFirst_spec {t : TopKElements} (inv : Inv heap t.tkq) :
    Inv heap (t.retrieveAllOrderedMaxFirst heap).2.tkq ∧
      (t.retrieveAllOrderedMaxFirst heap).2.tkq.queue.Perm t.tkq.queue ∧
      (t.retrieveAllOrderedMaxFirst heap).1.Perm t.tkq.queue ∧
      (t.retrieveAllOrderedMaxFirst heap).1.Pairwise
        (fun a b => b.approxCount ≤ a.approxCount) := by
  obtain ⟨isHeap, queuePerm, outPerm, sorted⟩ :=
    UpdatableQueue.retrieveAllOrderedMaxFirst_spec heap inv.isHeap
  refine ⟨inv.of_perm isHeap queuePerm, queuePerm, outPerm, sorted.imp ?_⟩
  intro a b later
  simpa [TopKQueue.compare, Int64.not_lt] using later

theorem retrieveOrderedMaxFirst_spec {t : TopKElements} (inv : Inv heap t.tkq) (num : Int) :
    Inv heap (t.retrieveOrderedMaxFirst heap num).2.tkq ∧
      (t.retrieveOrderedMaxFirst heap num).2.tkq.queue.Perm t.tkq.queue ∧
      ((t.retrieveOrderedMaxFirst heap num).1 =
          (t.retrieveAllOrderedMaxFirst heap).1.take num.toNat ∨
        (t.retrieveOrderedMaxFirst heap num).1 = (t.retrieveAllOrderedMaxFirst heap).1) := by
  unfold TopKElements.retrieveOrderedMaxFirst
  split
  · obtain ⟨kept, perm, -⟩ := retrieveAllOrderedMaxFirst_spec inv
    exact ⟨kept, perm, Or.inr rfl⟩
  · obtain ⟨isHeap, queuePerm, -⟩ := UpdatableQueue.retrieveAllOrderedMaxFirst_spec heap inv.isHeap
    exact ⟨inv.of_perm isHeap queuePerm, queuePerm, Or.inl rfl⟩

theorem inv_apply {t : TopKElements} (inv : Inv heap t.tkq) (op : TopKOp)
    (notDrain : op ≠ .retrieveAllOrdered) : Inv heap (t.apply heap op).tkq := by
  cases op with
  | addInt item count => exact inv_addFreqItem inv _
  | addStr item count type => exact inv_addFreqItem inv _
  | removeInt item count => exact inv_decrFreqItem inv _
  | removeStr item count => exact inv_decrFreqItem inv _
  | retrieveAll => exact inv
  | retrieveAllOrdered => contradiction
  | retrieveAllOrderedMaxFirst => exact (retrieveAllOrderedMaxFirst_spec inv).1
  | retrieveOrderedMaxFirst num => exact (retrieveOrderedMaxFirst_spec inv num).1
  | getAllOrderedMaxFirst => exact (retrieveAllOrderedMaxFirst_spec inv).1
  | getOrderedMaxFirst num =>
    show Inv heap (t.getOrderedMaxFirst heap num).2.tkq
    unfold TopKElements.getOrderedMaxFirst
    split
    · exact (retrieveAllOrderedMaxFirst_spec inv).1
    · obtain ⟨isHeap, perm, -⟩ := UpdatableQueue.retrieveAllOrderedMaxFirst_spec heap inv.isHeap
      exact inv.of_perm isHeap perm

theorem inv_init (k : Int) (positive : 0 ≤ k) (cmsketch : CountMinSketch (Int64 ⊕ String)) :
    Inv heap (init k cmsketch).tkq :=
  ⟨heap.nil_isHeap, rfl, by simpa [init] using positive, List.Pairwise.nil⟩

-- RetrieveAllOrdered hands out every entry lowest count first, and leaves the queue empty while
-- size still counts the entries it had.
theorem retrieveAllOrdered_empties_queue (t : TopKElements) (inv : Inv heap t.tkq) :
    (t.retrieveAllOrdered heap).2.tkq.queue = [] ∧
      (t.retrieveAllOrdered heap).2.tkq.size = t.tkq.queue.length ∧
      (t.retrieveAllOrdered heap).1.Perm t.tkq.queue ∧
      (t.retrieveAllOrdered heap).1.Pairwise (fun a b => a.approxCount ≤ b.approxCount) := by
  obtain ⟨empty, perm, sorted⟩ := UpdatableQueue.retrieveAllOrdered_spec heap inv.isHeap
  refine ⟨empty, inv.size, perm, sorted.imp ?_⟩
  intro a b later
  simpa [TopKQueue.compare, Int64.not_lt] using later

end Invariant

theorem compare_isStrictWeakOrder :
    IsStrictWeakOrder ApproxTopEntry (fun a b => TopKQueue.compare b a = true) where
  irrefl a := by simp [TopKQueue.compare]
  trans a b c := by simp only [TopKQueue.compare, decide_eq_true_eq, Int64.lt_iff_toInt_lt]; omega
  incomp_trans a b c := by
    simp only [TopKQueue.compare, decide_eq_true_eq, Int64.lt_iff_toInt_lt]
    omega

def entryHeap : HeapAlgorithms ApproxTopEntry TopKQueue.compare :=
  @sortedHeap ApproxTopEntry TopKQueue.compare compare_isStrictWeakOrder

def addedFive : TopKElements :=
  (init 1 (CountMinSketch.init 1 1 (fun _ _ => 0))).addInt entryHeap 5 1

example : (addedFive.retrieveAllOrdered entryHeap).2.tkq.size = 1 ∧
    (addedFive.retrieveAllOrdered entryHeap).2.tkq.queue = [] := by
  decide

theorem retrieveAllOrdered_empties_queue_after_add :
    TopKQueue.Inv entryHeap addedFive.tkq ∧
      (addedFive.retrieveAllOrdered entryHeap).2.tkq.queue = [] ∧
      (addedFive.retrieveAllOrdered entryHeap).2.tkq.size = addedFive.tkq.queue.length ∧
      (addedFive.retrieveAllOrdered entryHeap).1.Perm addedFive.tkq.queue ∧
      (addedFive.retrieveAllOrdered entryHeap).1.Pairwise
        (fun a b => a.approxCount ≤ b.approxCount) :=
  have inv : TopKQueue.Inv entryHeap addedFive.tkq :=
    inv_addFreqItem (inv_init 1 (by decide) _) _
  ⟨inv, retrieveAllOrdered_empties_queue addedFive inv⟩

section Runs

open TopKQueue

variable {heap : HeapAlgorithms ApproxTopEntry TopKQueue.compare}

-- Over any run without RetrieveAllOrdered the queue keeps at most k distinct entries and size
-- counts them.
theorem inv_run {t : TopKElements} (inv : Inv heap t.tkq) (ops : List TopKOp)
    (notDrain : ∀ op ∈ ops, op ≠ .retrieveAllOrdered) : Inv heap (t.run heap ops).tkq := by
  induction ops generalizing t with
  | nil => exact inv
  | cons op rest ih =>
    exact ih (inv_apply inv op (notDrain op List.mem_cons_self))
      (fun op' mem => notDrain op' (List.mem_cons_of_mem op mem))

theorem inv_run_of_adds_and_remove :
    TopKQueue.Inv entryHeap ((init 2 (CountMinSketch.init 1 1 (fun _ _ => 0))).run entryHeap
      [.addInt 5 1, .addInt 7 2, .addInt 9 1, .removeInt 7 1]).tkq :=
  inv_run (inv_init 2 (by decide) _) [.addInt 5 1, .addInt 7 2, .addInt 9 1, .removeInt 7 1] (by simp)

end Runs

end TopKElements

end Peloton.Optimizer
