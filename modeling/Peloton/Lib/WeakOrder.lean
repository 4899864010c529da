import Mathlib

set_option autoImplicit false

/-!
Lists kept in order by a strict weak order, the contract of a C++ comparator: sortedness,
insertion after the equivalent elements (List.orderedInsert on the strict order) and the
stability that this insertion gives.
-/

namespace WeakOrder

variable {α : Type} (lt : α → α → Prop)

def Sorted (l : List α) : Prop := l.Pairwise (fun a b => ¬ lt b a)

def Incomp (a b : α) : Prop := ¬ lt a b ∧ ¬ lt b a

instance [DecidableRel lt] : DecidableRel (Incomp lt) :=
  fun a b => inferInstanceAs (Decidable (¬ lt a b ∧ ¬ lt b a))

variable {lt} [IsStrictWeakOrder α lt]

section Order

variable {a b c x : α}

theorem not_lt_trans (ab : ¬ lt a b) (bc : ¬ lt b c) : ¬ lt a c := by
  intro ac
  by_cases ba : lt b a
  · exact bc (trans_of lt ba ac)
  · by_cases cb : lt c b
    · exact ab (trans_of lt ac cb)
    · exact (IsStrictWeakOrder.incomp_trans a b c ⟨ab, ba⟩ ⟨bc, cb⟩).1 ac

theorem lt_of_lt_of_not_lt (ab : lt a b) (cb : ¬ lt c b) : lt a c := by
  by_contra ac
  exact not_lt_trans ac cb ab

theorem Incomp.refl (a : α) : Incomp lt a a := ⟨irrefl_of lt a, irrefl_of lt a⟩

omit [IsStrictWeakOrder α lt] in
theorem Incomp.symm (ab : Incomp lt a b) : Incomp lt b a := ⟨ab.2, ab.1⟩

theorem Incomp.trans (ab : Incomp lt a b) (bc : Incomp lt b c) : Incomp lt a c :=
  IsStrictWeakOrder.incomp_trans a b c ab bc

theorem not_lt_of_incomp (ax : Incomp lt a x) (bx : Incomp lt b x) : ¬ lt a b :=
  (ax.trans bx.symm).1

end Order

section Insert

variable [DecidableRel lt]

theorem sorted_orderedInsert (a : α) : ∀ l : List α, Sorted lt l →
    Sorted lt (l.orderedInsert lt a)
  | [], _ => by simp [Sorted]
  | b :: l, sorted => by
    have ⟨below, rest⟩ := List.pairwise_cons.mp sorted
    rw [List.orderedInsert_cons]
    split
    next ab =>
      refine List.pairwise_cons.mpr ⟨?_, sorted⟩
      intro c mem
      rcases List.mem_cons.mp mem with rfl | mem
      · exact asymm_of lt ab
      · exact fun ca => below c mem (trans_of lt ca ab)
    next ab =>
      refine List.pairwise_cons.mpr ⟨?_, sorted_orderedInsert a l rest⟩
      intro c mem
      rcases (List.mem_orderedInsert lt).mp mem with rfl | mem
      · exact ab
      · exact below c mem

theorem filter_orderedInsert (x a : α) : ∀ l : List α, Sorted lt l →
    (l.orderedInsert lt a).filter (fun e => decide (Incomp lt e x)) =
      (l ++ [a]).filter (fun e => decide (Incomp lt e x))
  | [], _ => rfl
  | b :: l, sorted => by
    have ⟨below, rest⟩ := List.pairwise_cons.mp sorted
    rw [List.orderedInsert_cons]
    split
    next ab =>
      by_cases ax : Incomp lt a x
      · -- everything already there is above a, so none of it is equivalent to x
        have above : ∀ c ∈ b :: l, ¬ Incomp lt c x := by
          intro c mem cx
          rcases List.mem_cons.mp mem with rfl | mem
          · exact not_lt_of_incomp ax cx ab
          · exact not_lt_of_incomp ax cx (lt_of_lt_of_not_lt ab (below c mem))
        have none : (b :: l).filter (fun e => decide (Incomp lt e x)) = [] :=
          List.filter_eq_nil_iff.mpr (by simpa using above)
        rw [List.filter_cons_of_pos (by simpa using ax), List.filter_append, none]
        simp [ax]
      · rw [List.filter_cons_of_neg (by simpa using ax), List.filter_append,
          List.filter_singleton]
        simp [ax]
    next =>
      rw [List.cons_append, List.filter_cons, List.filter_cons,
        filter_orderedInsert x a l rest]

theorem pairwise_orderedInsert (a : α) : ∀ l : List α, l.Pairwise lt →
    (∀ e ∈ l, ¬ Incomp lt e a) → (l.orderedInsert lt a).Pairwise lt
  | [], _, _ => by simp
  | b :: l, strict, fresh => by
    have ⟨below, rest⟩ := List.pairwise_cons.mp strict
    rw [List.orderedInsert_cons]
    split
    next ab =>
      refine List.pairwise_cons.mpr ⟨?_, strict⟩
      intro c mem
      rcases List.mem_cons.mp mem with rfl | mem
      · exact ab
      · exact trans_of lt ab (below c mem)
    next ab =>
      have ba : lt b a := by
        by_contra ba
        exact fresh b List.mem_cons_self ⟨ba, ab⟩
      refine List.pairwise_cons.mpr ⟨?_, pairwise_orderedInsert a l rest
        (fun e mem => fresh e (List.mem_cons_of_mem b mem))⟩
      intro c mem
      rcases (List.mem_orderedInsert lt).mp mem with rfl | mem
      · exact ba
      · exact below c mem

theorem countP_incomp_le_one (x : α) : ∀ l : List α, l.Pairwise lt →
    l.countP (fun e => decide (Incomp lt e x)) ≤ 1
  | [], _ => by simp
  | b :: l, strict => by
    have ⟨below, rest⟩ := List.pairwise_cons.mp strict
    rw [List.countP_cons]
    by_cases bx : Incomp lt b x
    · have none : l.countP (fun e => decide (Incomp lt e x)) = 0 := by
        rw [List.countP_eq_zero]
        intro c mem cx
        exact not_lt_of_incomp bx (by simpa using cx) (below c mem)
      simp [none, bx]
    · simpa [bx] using countP_incomp_le_one x l rest

end Insert

section InsertionSort

variable [DecidableRel lt]

theorem sorted_foldl_orderedInsert (values : List α) : ∀ acc : List α, Sorted lt acc →
    Sorted lt (values.foldl (fun l v => l.orderedInsert lt v) acc) := by
  induction values with
  | nil => exact fun _ sorted => sorted
  | cons v rest ih => exact fun acc sorted => ih _ (sorted_orderedInsert v acc sorted)

omit [IsStrictWeakOrder α lt] in
theorem perm_foldl_orderedInsert (values : List α) : ∀ acc : List α,
    (values.foldl (fun l v => l.orderedInsert lt v) acc).Perm (acc ++ values) := by
  induction values with
  | nil => simp
  | cons v rest ih =>
    intro acc
    have step : (acc.orderedInsert lt v ++ rest).Perm (acc ++ v :: rest) := by
      have inserted := (List.perm_orderedInsert lt v acc).append_right rest
      exact inserted.trans List.perm_middle.symm
    exact (ih _).trans step

theorem filter_foldl_orderedInsert (x : α) (values : List α) : ∀ acc : List α, Sorted lt acc →
    (values.foldl (fun l v => l.orderedInsert lt v) acc).filter (fun e => decide (Incomp lt e x)) =
      (acc ++ values).filter (fun e => decide (Incomp lt e x)) := by
  induction values with
  | nil => simp
  | cons v rest ih =>
    intro acc sorted
    rw [List.foldl_cons, ih _ (sorted_orderedInsert v acc sorted), List.filter_append,
      filter_orderedInsert x v acc sorted, ← List.filter_append]
    simp

end InsertionSort

end WeakOrder
