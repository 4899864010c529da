import Peloton.Lib.WeakOrder

set_option autoImplicit false

namespace Peloton.Index

-- Only the live range [start_p, end_p) of the backing array is kept.
structure SortedSmallSet (α : Type) where
  valueCmpObj : α → α → Bool
  valueEqObj : α → α → Bool
  live : List α

namespace SortedSmallSet

variable {α : Type}

def empty (valueCmpObj valueEqObj : α → α → Bool) : SortedSmallSet α :=
  { valueCmpObj := valueCmpObj, valueEqObj := valueEqObj, live := [] }

def upperBound (cmp : α → α → Bool) (xs : List α) (value : α) : Nat :=
  xs.findIdx (fun e => cmp value e)

def insertNoDedup (s : SortedSmallSet α) (value : α) : SortedSmallSet α :=
  { s with live := s.live.insertIdx (upperBound s.valueCmpObj s.live value) value }

def insertLoop (cmp eq : α → α → Bool) (value : α) : List α → List α
  | [] => [value]
  | x :: rest =>
    if cmp x value = false then
      if eq x value = false then value :: x :: rest else x :: rest
    else x :: insertLoop cmp eq value rest

def insert (s : SortedSmallSet α) (value : α) : SortedSmallSet α :=
  { s with live := insertLoop s.valueCmpObj s.valueEqObj value s.live }

def isEmpty (s : SortedSmallSet α) : Bool := s.live.isEmpty

def getSize (s : SortedSmallSet α) : Nat := s.live.length

def getFront? (s : SortedSmallSet α) : Option α := s.live.head?

def popFront (s : SortedSmallSet α) : SortedSmallSet α := { s with live := s.live.tail }

@[simp] theorem empty_cmp (cmp eq : α → α → Bool) : (empty cmp eq).valueCmpObj = cmp := rfl

@[simp] theorem empty_eq (cmp eq : α → α → Bool) : (empty cmp eq).valueEqObj = eq := rfl

@[simp] theorem empty_live (cmp eq : α → α → Bool) : (empty cmp eq).live = [] := rfl

@[simp] theorem insertNoDedup_cmp (s : SortedSmallSet α) (value : α) :
    (s.insertNoDedup value).valueCmpObj = s.valueCmpObj := rfl

@[simp] theorem popFront_cmp (s : SortedSmallSet α) :
    s.popFront.valueCmpObj = s.valueCmpObj := rfl

@[simp] theorem popFront_live (s : SortedSmallSet α) : s.popFront.live = s.live.tail := rfl

theorem insertNoDedup_perm (s : SortedSmallSet α) (value : α) :
    (s.insertNoDedup value).live.Perm (value :: s.live) := by
  unfold insertNoDedup upperBound
  by_cases h : s.live.findIdx (fun e => s.valueCmpObj value e) ≤ s.live.length
  · exact List.perm_insertIdx value s.live h
  · exact absurd List.findIdx_le_length h

@[simp] theorem insertNoDedup_length (s : SortedSmallSet α) (value : α) :
    (s.insertNoDedup value).live.length = s.live.length + 1 :=
  (insertNoDedup_perm s value).length_eq

@[simp] theorem insertNoDedup_eq (s : SortedSmallSet α) (value : α) :
    (s.insertNoDedup value).valueEqObj = s.valueEqObj := rfl

@[simp] theorem insert_cmp (s : SortedSmallSet α) (value : α) :
    (s.insert value).valueCmpObj = s.valueCmpObj := rfl

@[simp] theorem insert_eq (s : SortedSmallSet α) (value : α) :
    (s.insert value).valueEqObj = s.valueEqObj := rfl

@[simp] theorem insert_live (s : SortedSmallSet α) (value : α) :
    (s.insert value).live = insertLoop s.valueCmpObj s.valueEqObj value s.live := rfl

@[simp] theorem popFront_eq (s : SortedSmallSet α) : s.popFront.valueEqObj = s.valueEqObj := rfl

inductive SortedSmallSetOp (α : Type) where
  | insert (value : α)
  | insertNoDedup (value : α)
  | popFront

def apply (s : SortedSmallSet α) : SortedSmallSetOp α → SortedSmallSet α
  | .insert value => s.insert value
  | .insertNoDedup value => s.insertNoDedup value
  | .popFront => s.popFront

def run (s : SortedSmallSet α) (ops : List (SortedSmallSetOp α)) : SortedSmallSet α :=
  ops.foldl apply s

@[simp] theorem apply_cmp (s : SortedSmallSet α) (op : SortedSmallSetOp α) :
    (s.apply op).valueCmpObj = s.valueCmpObj := by
  cases op <;> rfl

theorem mem_insertLoop {cmp eq : α → α → Bool} {value e : α} : ∀ {l : List α},
    e ∈ insertLoop cmp eq value l → e = value ∨ e ∈ l
  | [], mem => by simpa [insertLoop] using mem
  | x :: rest, mem => by
    unfold insertLoop at mem
    split at mem
    · split at mem
      · simpa using mem
      · exact Or.inr mem
    · rcases List.mem_cons.mp mem with rfl | mem
      · exact Or.inr List.mem_cons_self
      · rcases mem_insertLoop mem with rfl | mem
        · exact Or.inl rfl
        · exact Or.inr (List.mem_cons_of_mem x mem)

def Below (cmp : α → α → Bool) (a b : α) : Prop := cmp a b = true

instance (cmp : α → α → Bool) : DecidableRel (Below cmp) :=
  fun a b => inferInstanceAs (Decidable (cmp a b = true))

@[simp] theorem below_iff (cmp : α → α → Bool) (a b : α) : Below cmp a b ↔ cmp a b = true := Iff.rfl

section Order

open WeakOrder

variable (cmp eq : α → α → Bool)

theorem insertNoDedup_live (s : SortedSmallSet α) (value : α) :
    (s.insertNoDedup value).live = s.live.orderedInsert (Below s.valueCmpObj) value := by
  simp only [insertNoDedup, upperBound]
  induction s.live with
  | nil => rfl
  | cons x rest ih =>
    rw [List.findIdx_cons, List.orderedInsert_cons]
    by_cases first : s.valueCmpObj value x = true
    · simp [first]
    · simp [first, ih]

variable {cmp eq} [IsStrictWeakOrder α (Below cmp)]

theorem sorted_insertLoop (value : α) : ∀ l : List α, Sorted (Below cmp) l →
    Sorted (Below cmp) (insertLoop cmp eq value l) := by
  intro l sorted
  induction l with
  | nil => simp [insertLoop, Sorted]
  | cons x rest ih =>
    obtain ⟨below, tail⟩ := List.pairwise_cons.mp sorted
    unfold insertLoop
    split
    next notBelow =>
      split
      · refine List.pairwise_cons.mpr ⟨?_, sorted⟩
        intro c mem
        rcases List.mem_cons.mp mem with rfl | mem
        · simpa using notBelow
        · exact not_lt_trans (below c mem) (by simpa using notBelow)
      · exact sorted
    next xBelow =>
      refine List.pairwise_cons.mpr ⟨?_, ih tail⟩
      intro c mem
      rcases mem_insertLoop mem with rfl | mem
      · exact asymm_of (Below cmp) (by simpa using xBelow)
      · exact below c mem

theorem insertLoop_of_incomp (eqIsIncomp : ∀ a b, eq a b = true ↔ Incomp (Below cmp) a b)
    (value : α) : ∀ l : List α, Sorted (Below cmp) l →
      insertLoop cmp eq value l =
        if l.any (fun e => eq e value) then l else l.orderedInsert (Below cmp) value
  | [], _ => by simp [insertLoop]
  | x :: rest, sorted => by
    have ⟨below, tail⟩ := List.pairwise_cons.mp sorted
    unfold insertLoop
    rw [List.orderedInsert_cons, List.any_cons]
    split
    next notBelow =>
      split
      next notEq =>
        -- x is above the value, and so is everything after it
        have above : Below cmp value x := by
          by_contra vx
          have same := (eqIsIncomp x value).mpr ⟨by simpa using notBelow, vx⟩
          simp [notEq] at same
        have none : rest.any (fun e => eq e value) = false := by
          rw [List.any_eq_false]
          intro e mem same
          exact ((eqIsIncomp e value).mp same).2 (lt_of_lt_of_not_lt above (below e mem))
        simp [notEq, none, (below_iff cmp value x).mp above]
      next isEq => simp [isEq]
    next xBelow =>
      -- x is below the value: not equivalent to it, and the value goes after it
      have notEq : eq x value = false := by
        by_contra same
        exact ((eqIsIncomp x value).mp (by simpa using same)).1 (by simpa using xBelow)
      have notAbove : cmp value x = false := by
        simpa using asymm_of (Below cmp) (by simpa using xBelow : Below cmp x value)
      rw [insertLoop_of_incomp eqIsIncomp value rest tail]
      by_cases found : rest.any (fun e => eq e value) = true <;> simp [notEq, notAbove, found]

theorem front_minimal {x : α} {rest : List α} (sorted : Sorted (Below cmp) (x :: rest)) :
    ∀ y ∈ x :: rest, cmp y x = false := by
  intro y mem
  rcases List.mem_cons.mp mem with rfl | mem
  · simpa using irrefl_of (Below cmp) y
  · simpa using (List.pairwise_cons.mp sorted).1 y mem

theorem sorted_apply (s : SortedSmallSet α) (sameCmp : s.valueCmpObj = cmp)
    (sorted : Sorted (Below cmp) s.live) (op : SortedSmallSetOp α) :
    Sorted (Below cmp) (s.apply op).live := by
  subst sameCmp
  cases op with
  | insert value => exact sorted_insertLoop value s.live sorted
  | insertNoDedup value =>
    rw [apply, insertNoDedup_live]
    exact sorted_orderedInsert value s.live sorted
  | popFront => exact sorted.sublist (List.tail_sublist s.live)

theorem sorted_run (s : SortedSmallSet α) (sameCmp : s.valueCmpObj = cmp)
    (sorted : Sorted (Below cmp) s.live) (ops : List (SortedSmallSetOp α)) :
    (s.run ops).valueCmpObj = cmp ∧ Sorted (Below cmp) (s.run ops).live := by
  induction ops generalizing s with
  | nil => exact ⟨sameCmp, sorted⟩
  | cons op rest ih =>
    exact ih (s.apply op) (by rw [apply_cmp, sameCmp]) (sorted_apply s sameCmp sorted op)

end Order

section Runs

open WeakOrder

variable {cmp eq : α → α → Bool}

theorem foldl_insertNoDedup_live (s : SortedSmallSet α) (values : List α) :
    (values.foldl insertNoDedup s).live =
      values.foldl (fun l v => l.orderedInsert (Below s.valueCmpObj) v) s.live := by
  induction values generalizing s with
  | nil => rfl
  | cons v rest ih => rw [List.foldl_cons, ih, insertNoDedup_cmp, insertNoDedup_live]; rfl

theorem foldl_insert_live (s : SortedSmallSet α) (values : List α) :
    (values.foldl insert s).live =
      values.foldl (fun l v => insertLoop s.valueCmpObj s.valueEqObj v l) s.live := by
  induction values generalizing s with
  | nil => rfl
  | cons v rest ih => rw [List.foldl_cons, ih, insert_cmp, insert_eq, insert_live]; rfl

/-- What a run of Insert calls keeps when value_eq_obj is the comparator's equivalence: the live
range is strictly sorted, holds only inserted values and has a match for every one of them. -/
structure Deduplicated (cmp eq : α → α → Bool) (l values : List α) : Prop where
  strict : l.Pairwise (Below cmp)
  inserted : ∀ e ∈ l, e ∈ values
  matched : ∀ u ∈ values, ∃ e ∈ l, eq e u = true

variable [IsStrictWeakOrder α (Below cmp)]

theorem Deduplicated.sorted {l values : List α} (h : Deduplicated cmp eq l values) :
    Sorted (Below cmp) l :=
  h.strict.imp (fun below => asymm_of (Below cmp) below)

theorem Deduplicated.insertLoop (eqIsIncomp : ∀ a b, eq a b = true ↔ Incomp (Below cmp) a b)
    {l values : List α} (h : Deduplicated cmp eq l values) (v : α) :
    Deduplicated cmp eq (SortedSmallSet.insertLoop cmp eq v l) (values ++ [v]) := by
  rw [insertLoop_of_incomp eqIsIncomp v l h.sorted]
  split
  next found =>
    obtain ⟨e, mem, same⟩ := List.any_eq_true.mp found
    refine ⟨h.strict, fun e' mem' => List.mem_append_left _ (h.inserted e' mem'), ?_⟩
    intro u mem_u
    rcases List.mem_append.mp mem_u with mem_u | mem_u
    · exact h.matched u mem_u
    · exact ⟨e, mem, by simpa using (List.mem_singleton.mp mem_u) ▸ same⟩
  next fresh =>
    have none : ∀ e ∈ l, ¬ Incomp (Below cmp) e v := by
      intro e mem same
      exact fresh (List.any_eq_true.mpr ⟨e, mem, (eqIsIncomp e v).mpr same⟩)
    refine ⟨pairwise_orderedInsert v l h.strict none, ?_, ?_⟩
    · intro e mem
      rcases (List.mem_orderedInsert (Below cmp)).mp mem with rfl | mem
      · exact List.mem_append_right _ (List.mem_singleton_self e)
      · exact List.mem_append_left _ (h.inserted e mem)
    · intro u mem_u
      rcases List.mem_append.mp mem_u with mem_u | mem_u
      · obtain ⟨e, mem, same⟩ := h.matched u mem_u
        exact ⟨e, (List.mem_orderedInsert (Below cmp)).mpr (Or.inr mem), same⟩
      · rw [List.mem_singleton.mp mem_u]
        exact ⟨v, (List.mem_orderedInsert (Below cmp)).mpr (Or.inl rfl),
          (eqIsIncomp v v).mpr (Incomp.refl v)⟩

theorem deduplicated_foldl (eqIsIncomp : ∀ a b, eq a b = true ↔ Incomp (Below cmp) a b)
    (values : List α) : ∀ {l done : List α}, Deduplicated cmp eq l done →
      Deduplicated cmp eq (values.foldl (fun l v => SortedSmallSet.insertLoop cmp eq v l) l)
        (done ++ values) := by
  induction values with
  | nil =>
    intro l done h
    simpa using h
  | cons v rest ih =>
    intro l done h
    simpa using ih (h.insertLoop eqIsIncomp v)

theorem Deduplicated.countP_eq_one (eqIsIncomp : ∀ a b, eq a b = true ↔ Incomp (Below cmp) a b)
    {l values : List α} (h : Deduplicated cmp eq l values) {u : α} (mem : u ∈ values) :
    l.countP (fun e => eq e u) = 1 := by
  have same : (fun e => eq e u) = fun e => decide (Incomp (Below cmp) e u) := by
    funext e
    rw [Bool.eq_iff_iff, eqIsIncomp, decide_eq_true_iff]
  have atMost := countP_incomp_le_one u l h.strict
  have atLeast : 0 < l.countP (fun e => eq e u) := List.countP_pos_iff.mpr (h.matched u mem)
  rw [same] at atLeast ⊢
  omega

theorem sortedSmallSet_sorted_stable_deduplicated (cmp eq : α → α → Bool)
    [IsStrictWeakOrder α (Below cmp)] :
    (∀ ops : List (SortedSmallSetOp α),
      Sorted (Below cmp) ((empty cmp eq).run ops).live ∧
        ∀ x rest, ((empty cmp eq).run ops).live = x :: rest →
          ((empty cmp eq).run ops).popFront.live = rest ∧ ∀ y ∈ x :: rest, cmp y x = false) ∧
    (∀ values : List α,
      Sorted (Below cmp) (values.foldl insertNoDedup (empty cmp eq)).live ∧
        (values.foldl insertNoDedup (empty cmp eq)).live.Perm values ∧
        ∀ x, (values.foldl insertNoDedup (empty cmp eq)).live.filter
            (fun e => decide (Incomp (Below cmp) e x)) =
          values.filter (fun e => decide (Incomp (Below cmp) e x))) ∧
    ((∀ a b, eq a b = true ↔ Incomp (Below cmp) a b) → ∀ values : List α,
      (∀ u ∈ values, (values.foldl insert (empty cmp eq)).live.countP (fun e => eq e u) = 1) ∧
        ∀ e ∈ (values.foldl insert (empty cmp eq)).live, e ∈ values) := by
  have emptySorted : Sorted (Below cmp) [] := List.Pairwise.nil
  refine ⟨?_, ?_, ?_⟩
  · intro ops
    have sorted := (sorted_run (empty cmp eq) (empty_cmp cmp eq) emptySorted ops).2
    refine ⟨sorted, fun x rest live => ⟨by simp [live], ?_⟩⟩
    rw [live] at sorted
    exact front_minimal sorted
  · intro values
    rw [foldl_insertNoDedup_live, empty_cmp, empty_live]
    refine ⟨sorted_foldl_orderedInsert values _ emptySorted,
      perm_foldl_orderedInsert values _, fun x => ?_⟩
    rw [filter_foldl_orderedInsert x values _ emptySorted, List.nil_append]
  · intro eqIsIncomp values
    have dedup : Deduplicated cmp eq (values.foldl insert (empty cmp eq)).live values := by
      have start : Deduplicated cmp eq [] [] := ⟨List.Pairwise.nil, by simp, by simp⟩
      rw [foldl_insert_live, empty_cmp, empty_eq, empty_live]
      simpa using deduplicated_foldl eqIsIncomp values start
    exact ⟨fun u mem => dedup.countP_eq_one eqIsIncomp mem, dedup.inserted⟩

end Runs

theorem below_key_isStrictWeakOrder {β : Type} (key : β → ℕ) :
    IsStrictWeakOrder β (Below fun a b => decide (key a < key b)) where
  irrefl a := by simp
  trans a b c := by simp only [below_iff, decide_eq_true_eq]; omega
  incomp_trans a b c := by simp only [below_iff, decide_eq_true_eq]; omega

theorem sortedSmallSet_sorted_stable_deduplicated_of_pairs :
    ([(1, 0), (0, 1), (1, 2), (0, 3)].foldl insertNoDedup
        (empty (fun a b : ℕ × ℕ => decide (a.1 < b.1)) fun a b => a.1 == b.1)).live =
      [(0, 1), (0, 3), (1, 0), (1, 2)] ∧
    (∀ x : ℕ × ℕ, ([(1, 0), (0, 1), (1, 2), (0, 3)].foldl insertNoDedup
        (empty (fun a b : ℕ × ℕ => decide (a.1 < b.1)) fun a b => a.1 == b.1)).live.filter
          (fun e => decide (WeakOrder.Incomp (Below fun a b : ℕ × ℕ => decide (a.1 < b.1)) e x)) =
        [(1, 0), (0, 1), (1, 2), (0, 3)].filter
          (fun e => decide (WeakOrder.Incomp (Below fun a b : ℕ × ℕ => decide (a.1 < b.1)) e x))) ∧
    ∀ u ∈ [(1, 0), (0, 1), (1, 2), (0, 3)], ([(1, 0), (0, 1), (1, 2), (0, 3)].foldl insert
        (empty (fun a b : ℕ × ℕ => decide (a.1 < b.1)) fun a b => a.1 == b.1)).live.countP
          (fun e => e.1 == u.1) = 1 := by
  have byKey := below_key_isStrictWeakOrder (Prod.fst : ℕ × ℕ → ℕ)
  have sameKey : ∀ a b : ℕ × ℕ, (a.1 == b.1) = true ↔
      WeakOrder.Incomp (Below fun a b : ℕ × ℕ => decide (a.1 < b.1)) a b := by
    intro a b
    simp only [WeakOrder.Incomp, below_iff, decide_eq_true_eq, beq_iff_eq]
    omega
  obtain ⟨-, stable, dedup⟩ := @sortedSmallSet_sorted_stable_deduplicated (ℕ × ℕ) _ _ byKey
  exact ⟨by decide, (stable _).2.2, (dedup sameKey _).1⟩

theorem insert_holds_equal_value_twice :
    IsStrictWeakOrder (ℕ × ℕ) (Below fun a b : ℕ × ℕ => decide (a.1 < b.1)) ∧
      ([(0, 1), (0, 2), (0, 1)].foldl insert
          (empty (fun a b : ℕ × ℕ => decide (a.1 < b.1)) (· == ·))).live =
        [(0, 1), (0, 2), (0, 1)] ∧
      ([(0, 1), (0, 2), (0, 1)].foldl insert
          (empty (fun a b : ℕ × ℕ => decide (a.1 < b.1)) (· == ·))).live.countP
        (fun e => e == (0, 1)) = 2 :=
  ⟨below_key_isStrictWeakOrder Prod.fst, by decide, by decide⟩

end SortedSmallSet

end Peloton.Index
