import Peloton.Lib.WeakOrder

set_option autoImplicit false

/-!
The contract of std::priority_queue over a container, for a comparator comp that reads as
"less": push_heap, pop_heap and make_heap keep a heap, permute the elements they are given, and
the front of a heap is not less than anything behind it. Code that uses the queue is proved
against every implementation of the contract; sortedHeap is one, for running examples.
-/

namespace PriorityQueue

structure HeapAlgorithms (T : Type) (comp : T → T → Bool) where
  IsHeap : List T → Prop
  -- c.push_back(x); std::push_heap
  pushHeap : List T → T → List T
  -- std::pop_heap; c.pop_back()
  popHeap : List T → List T
  makeHeap : List T → List T
  nil_isHeap : IsHeap []
  push_isHeap : ∀ c x, IsHeap c → IsHeap (pushHeap c x)
  pop_isHeap : ∀ c, IsHeap c → IsHeap (popHeap c)
  make_isHeap : ∀ c, IsHeap (makeHeap c)
  push_perm : ∀ c x, (pushHeap c x).Perm (x :: c)
  pop_perm : ∀ c, (popHeap c).Perm c.tail
  make_perm : ∀ c, (makeHeap c).Perm c
  front_max : ∀ top rest, IsHeap (top :: rest) → ∀ y ∈ rest, comp top y = false

namespace HeapAlgorithms

variable {T : Type} {comp : T → T → Bool} (heap : HeapAlgorithms T comp)

def drain : Nat → List T → List T × List T
  | 0, c => ([], c)
  | _ + 1, [] => ([], [])
  | n + 1, top :: rest =>
    let r := drain n (heap.popHeap (top :: rest))
    (top :: r.1, r.2)

def pushAll (c xs : List T) : List T := xs.foldl heap.pushHeap c

theorem drain_spec : ∀ (n : Nat) (c : List T), heap.IsHeap c → c.length ≤ n →
    (heap.drain n c).2 = [] ∧ (heap.drain n c).1.Perm c ∧
      (heap.drain n c).1.Pairwise (fun a b => comp a b = false)
  | 0, [], _, _ => ⟨rfl, List.Perm.refl _, List.Pairwise.nil⟩
  | _ + 1, [], _, _ => ⟨rfl, List.Perm.refl _, List.Pairwise.nil⟩
  | n + 1, top :: rest, isHeap, short => by
    have popped := heap.pop_perm (top :: rest)
    have ⟨left, perm, sorted⟩ := drain_spec n (heap.popHeap (top :: rest))
      (heap.pop_isHeap _ isHeap) (by rw [popped.length_eq]; simpa using short)
    refine ⟨left, (perm.trans popped).cons top, List.pairwise_cons.mpr ⟨?_, sorted⟩⟩
    -- what is popped later was behind the front when the front was popped
    intro y later
    exact heap.front_max top rest isHeap y (popped.subset (perm.subset later))

theorem pushAll_spec (xs : List T) : ∀ c : List T, heap.IsHeap c →
    heap.IsHeap (heap.pushAll c xs) ∧ (heap.pushAll c xs).Perm (xs.reverse ++ c) := by
  induction xs with
  | nil => exact fun c isHeap => ⟨isHeap, List.Perm.refl c⟩
  | cons x rest ih =>
    intro c isHeap
    obtain ⟨isHeap', perm⟩ := ih (heap.pushHeap c x) (heap.push_isHeap c x isHeap)
    refine ⟨isHeap', perm.trans ?_⟩
    rw [List.reverse_cons, List.append_assoc]
    exact (heap.push_perm c x).append_left rest.reverse

end HeapAlgorithms

section Sorted

open WeakOrder

variable {T : Type} (comp : T → T → Bool)
variable [IsStrictWeakOrder T (fun a b => comp b a = true)]

def sortedHeap : HeapAlgorithms T comp where
  IsHeap := Sorted (fun a b => comp b a = true)
  pushHeap c x := c.orderedInsert (fun a b => comp b a = true) x
  popHeap c := c.tail
  makeHeap c := c.foldl (fun l x => l.orderedInsert (fun a b => comp b a = true) x) []
  nil_isHeap := List.Pairwise.nil
  push_isHeap c x sorted := sorted_orderedInsert x c sorted
  pop_isHeap c sorted := sorted.sublist (List.tail_sublist c)
  make_isHeap c := sorted_foldl_orderedInsert c [] List.Pairwise.nil
  push_perm c x := List.perm_orderedInsert _ x c
  pop_perm _ := List.Perm.refl _
  make_perm c := perm_foldl_orderedInsert c []
  front_max top rest sorted y mem := by
    simpa using (List.pairwise_cons.mp sorted).1 y mem

end Sorted

end PriorityQueue
