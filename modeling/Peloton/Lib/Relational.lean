import Mathlib.Data.List.Perm.Basic

set_option autoImplicit false

/-!
# Rows of joined tables, selections and joins

A row of a join carries the tuple each table alias contributes. A selection keeps the rows a test
holds of; the nested-loop join pairs every left row with every right row and keeps the merged rows
its test holds of. A test that reads only some aliases answers alike on rows that agree there, so
on a merged row it can be read on the side that has them. These are the laws query rewrites rest
on: a selection moves into a join's inputs, two joins re-associate, and a join's inputs swap up to
the order of its rows.
-/

namespace Relational

variable {α V : Type}

abbrev Row (α V : Type) := α → Option V

namespace Row

def merge (l r : Row α V) : Row α V := fun a => (l a).or (r a)

def single [DecidableEq α] (a : α) (v : V) : Row α V := fun b => if b = a then some v else none

/-- The row has a tuple for exactly the aliases of A. -/
def Covers (A : List α) (row : Row α V) : Prop := ∀ a, (row a).isSome ↔ a ∈ A

variable {l m r : Row α V} {A B : List α}

theorem merge_assoc (l m r : Row α V) : merge (merge l m) r = merge l (merge m r) := by
  funext a
  simp only [merge, Option.or_assoc]

theorem covers_single [DecidableEq α] (a : α) (v : V) : (single a v).Covers [a] := by
  intro b
  by_cases same : b = a <;> simp [single, same]

theorem Covers.merge (hl : l.Covers A) (hr : r.Covers B) : (merge l r).Covers (A ++ B) := by
  intro a
  rw [List.mem_append, ← hl a, ← hr a]
  simp only [Row.merge]
  cases l a <;> simp

theorem merge_of_mem (hl : l.Covers A) {a : α} (ha : a ∈ A) : merge l r a = l a := by
  obtain ⟨v, hv⟩ := Option.isSome_iff_exists.mp ((hl a).mpr ha)
  simp [merge, hv]

theorem eq_none_of_not_mem (hl : l.Covers A) {a : α} (ha : a ∉ A) : l a = none :=
  Option.not_isSome_iff_eq_none.mp (mt (hl a).mp ha)

theorem merge_of_not_mem (hl : l.Covers A) {a : α} (ha : a ∉ A) : merge l r a = r a := by
  simp [merge, eq_none_of_not_mem hl ha]

theorem merge_comm (hl : l.Covers A) (hr : r.Covers B) (disjoint : A.Disjoint B) : merge l r = merge r l := by
  funext a
  by_cases ha : a ∈ A
  · rw [merge_of_mem hl ha, merge_of_not_mem hr (fun hb => disjoint ha hb)]
  · rw [merge_of_not_mem hl ha]
    by_cases hb : a ∈ B
    · rw [merge_of_mem hr hb]
    · rw [merge_of_not_mem hr hb, eq_none_of_not_mem hl ha, eq_none_of_not_mem hr hb]

end Row

def DependsOn (A : List α) (f : Row α V → Bool) : Prop :=
  ∀ r r' : Row α V, (∀ a ∈ A, r a = r' a) → f r = f r'

namespace DependsOn

variable {A B : List α} {f : Row α V → Bool} {l r : Row α V}

theorem merge_left (h : DependsOn A f) (hl : l.Covers B) (sub : A ⊆ B) : f (Row.merge l r) = f l :=
  h _ _ fun _ ha => Row.merge_of_mem hl (sub ha)

theorem merge_right (h : DependsOn A f) (hl : l.Covers B) (disjoint : B.Disjoint A) : f (Row.merge l r) = f r :=
  h _ _ fun _ ha => Row.merge_of_not_mem hl fun hb => disjoint hb ha

end DependsOn

def join (p : Row α V → Bool) (L R : List (Row α V)) : List (Row α V) :=
  L.flatMap fun l => (R.map (Row.merge l)).filter p

variable {p q f : Row α V → Bool} {L L' M R R' : List (Row α V)}

theorem join_nil_left (p : Row α V → Bool) (R : List (Row α V)) : join p [] R = [] := rfl

theorem join_cons_left (p : Row α V → Bool) (l : Row α V) (L R : List (Row α V)) :
    join p (l :: L) R = (R.map (Row.merge l)).filter p ++ join p L R := rfl

theorem mem_join {row : Row α V} :
    row ∈ join p L R ↔ ∃ l ∈ L, ∃ r ∈ R, Row.merge l r = row ∧ p row = true := by
  simp only [join, List.mem_flatMap, List.mem_filter, List.mem_map]
  constructor
  · rintro ⟨l, hl, ⟨r, hr, rfl⟩, holds⟩
    exact ⟨l, hl, r, hr, rfl, holds⟩
  · rintro ⟨l, hl, r, hr, rfl, holds⟩
    exact ⟨l, hl, ⟨r, hr, rfl⟩, holds⟩

theorem filter_map_merge (l : Row α V) (R : List (Row α V)) (p : Row α V → Bool) :
    (R.map (Row.merge l)).filter p = (R.filter fun r => p (Row.merge l r)).map (Row.merge l) := by
  rw [List.filter_map]
  rfl

theorem filter_join_eq {ql qr : Row α V → Bool}
    (pointwise : ∀ l ∈ L, ∀ r ∈ R,
      (p (Row.merge l r) && f (Row.merge l r)) = (ql l && (qr r && q (Row.merge l r)))) :
    (join p L R).filter f = join q (L.filter ql) (R.filter qr) := by
  induction L with
  | nil => rfl
  | cons l L ih =>
    have rest := ih fun l' member => pointwise l' (List.mem_cons_of_mem _ member)
    rw [join_cons_left, List.filter_append, rest, filter_map_merge, List.filter_map, List.filter_filter]
    by_cases kept : ql l = true
    · rw [List.filter_cons_of_pos kept, join_cons_left, filter_map_merge, List.filter_filter]
      congr 2
      apply List.filter_congr
      intro r member
      have same := pointwise l List.mem_cons_self r member
      rw [kept, Bool.true_and] at same
      simp only [Function.comp_apply, same, Bool.and_comm]
    · rw [List.filter_cons_of_neg kept]
      have dropped : (R.filter fun r => f (Row.merge l r) && p (Row.merge l r)) = [] := by
        rw [List.filter_eq_nil_iff]
        intro r member
        have same := pointwise l List.mem_cons_self r member
        simp only [Bool.not_eq_true] at kept
        rw [kept, Bool.false_and] at same
        simp [Bool.and_comm, same]
      simp only [Function.comp_def] at dropped ⊢
      rw [dropped, List.map_nil, List.nil_append]

theorem flatMap_map_swap_perm {β γ δ : Type} (L : List β) (R : List γ) (g : β → γ → δ) :
    List.Perm (R.flatMap fun r => L.map fun l => g l r) (L.flatMap fun l => R.map (g l)) := by
  induction L with
  | nil => simp
  | cons l L ih =>
    -- the first left row's results come out of the loop over the right rows
    have spread : (R.flatMap fun r => (l :: L).map fun l' => g l' r) = R.flatMap fun r => g l r :: L.map fun l' => g l' r := by
      simp only [List.map_cons]
    rw [spread, List.flatMap_cons]
    exact (List.map_append_flatMap_perm R _ _).symm.trans (ih.append_left _)

theorem join_eq_filter (p : Row α V → Bool) (L R : List (Row α V)) :
    join p L R = (L.flatMap fun l => R.map (Row.merge l)).filter p := by
  rw [join, List.filter_flatMap]

theorem join_comm_perm (comm : ∀ l ∈ L, ∀ r ∈ R, Row.merge r l = Row.merge l r) :
    List.Perm (join p R L) (join p L R) := by
  rw [join_eq_filter, join_eq_filter]
  apply List.Perm.filter
  have swapped : (R.flatMap fun r => L.map (Row.merge r)) = R.flatMap fun r => L.map fun l => Row.merge l r :=
    List.flatMap_congr fun r hr => List.map_congr_left fun l hl => comm l hl r hr
  rw [swapped]
  exact flatMap_map_swap_perm L R fun l r => Row.merge l r

theorem Perm.join (hL : List.Perm L L') (hR : List.Perm R R') : List.Perm (join p L R) (join p L' R') :=
  List.Perm.flatMap hL fun _ _ => (hR.map _).filter p

theorem join_append_left (p : Row α V → Bool) (L L' R : List (Row α V)) :
    join p (L ++ L') R = join p L R ++ join p L' R :=
  List.flatMap_append

theorem join_assoc_one {p₁ p₂ q₁ q₂ : Row α V → Bool} (l m : Row α V) (R : List (Row α V))
    (pointwise : ∀ r ∈ R, (p₂ (Row.merge l m) && p₁ (Row.merge (Row.merge l m) r)) =
      (q₂ (Row.merge m r) && q₁ (Row.merge l (Row.merge m r)))) :
    join p₁ ([Row.merge l m].filter p₂) R = (((R.map (Row.merge m)).filter q₂).map (Row.merge l)).filter q₁ := by
  have right : (((R.map (Row.merge m)).filter q₂).map (Row.merge l)).filter q₁ =
      (R.filter fun r => q₂ (Row.merge m r) && q₁ (Row.merge l (Row.merge m r))).map
        fun r => Row.merge l (Row.merge m r) := by
    simp only [List.filter_map, List.map_map, List.filter_filter, Function.comp_def, Bool.and_comm]
  rw [right]
  by_cases inner : p₂ (Row.merge l m) = true
  · have left : join p₁ ([Row.merge l m].filter p₂) R =
        (R.filter fun r => p₁ (Row.merge l (Row.merge m r))).map fun r => Row.merge l (Row.merge m r) := by
      simp only [List.filter_cons_of_pos inner, List.filter_nil, join_cons_left, join_nil_left, List.append_nil,
        filter_map_merge, Row.merge_assoc]
      exact List.map_congr_left fun r _ => Row.merge_assoc l m r
    rw [left]
    congr 1
    apply List.filter_congr
    intro r member
    have same := pointwise r member
    rw [inner, Bool.true_and, Row.merge_assoc] at same
    exact same
  · rw [List.filter_cons_of_neg inner, List.filter_nil, join_nil_left]
    symm
    rw [List.map_eq_nil_iff, List.filter_eq_nil_iff]
    intro r member
    have same := pointwise r member
    simp only [Bool.not_eq_true] at inner
    rw [inner, Bool.false_and] at same
    simp [← same]

theorem join_assoc {p₁ p₂ q₁ q₂ : Row α V → Bool}
    (pointwise : ∀ l ∈ L, ∀ m ∈ M, ∀ r ∈ R,
      (p₂ (Row.merge l m) && p₁ (Row.merge (Row.merge l m) r)) =
        (q₂ (Row.merge m r) && q₁ (Row.merge l (Row.merge m r)))) :
    join p₁ (join p₂ L M) R = join q₁ L (join q₂ M R) := by
  induction L with
  | nil => rfl
  | cons l L ih =>
    rw [join_cons_left, join_append_left, ih fun l' member => pointwise l' (List.mem_cons_of_mem _ member),
      join_cons_left]
    congr 1
    -- one left row: both sides loop over the middle rows
    have one : ∀ M : List (Row α V), (∀ m ∈ M, ∀ r ∈ R, (p₂ (Row.merge l m) && p₁ (Row.merge (Row.merge l m) r)) =
        (q₂ (Row.merge m r) && q₁ (Row.merge l (Row.merge m r)))) →
        join p₁ ((M.map (Row.merge l)).filter p₂) R = ((join q₂ M R).map (Row.merge l)).filter q₁ := by
      intro M
      induction M with
      | nil => intro _; rfl
      | cons m M ihM =>
        intro pointwise_m
        rw [List.map_cons, ← List.singleton_append, List.filter_append, join_append_left,
          join_assoc_one l m R (pointwise_m m List.mem_cons_self),
          ihM fun m' member => pointwise_m m' (List.mem_cons_of_mem _ member),
          join_cons_left, List.map_append, List.filter_append]
    exact one M (pointwise l List.mem_cons_self)

end Relational
