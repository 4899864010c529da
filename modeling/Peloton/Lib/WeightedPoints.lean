import Mathlib

set_option autoImplicit false

/-!
Weighted points on a line, kept in order of position: a list with one window replaced, the
weighted mean of two neighbours, and the cumulative mass up to a position that interpolates
between neighbouring points by the trapezoid rule.
-/

namespace WeightedPoints

section Splice

variable {α : Type}

theorem insertIdx_eq_splice (a : α) : ∀ (l : List α) (k : ℕ), k ≤ l.length →
    l.insertIdx k a = l.take k ++ [a] ++ l.drop k
  | l, 0, _ => by simp [List.insertIdx_zero]
  | [], _ + 1, short => by simp at short
  | x :: l, k + 1, short => by
    rw [List.insertIdx_succ_cons, insertIdx_eq_splice a l k (by simpa using short)]
    simp

theorem modify_eq_splice (f : α → α) (l : List α) (k : ℕ) (hk : k < l.length) :
    l.modify k f = l.take k ++ [f l[k]] ++ l.drop (k + 1) := by
  rw [List.modify_eq_take_drop, List.drop_eq_getElem_cons hk, List.modifyHead_cons,
    List.append_assoc, List.singleton_append]

theorem set_eraseIdx_eq_splice (a : α) : ∀ (l : List α) (k : ℕ), k + 1 < l.length →
    (l.set k a).eraseIdx (k + 1) = l.take k ++ [a] ++ l.drop (k + 2)
  | [], _, short => by simp at short
  | [_], 0, short => by simp at short
  | _ :: _ :: _, 0, _ => by simp
  | x :: l, k + 1, short => by
    rw [List.set_cons_succ, List.eraseIdx_cons_succ, List.take_succ_cons, List.drop_succ_cons,
      set_eraseIdx_eq_splice a l k (by simpa using short)]
    simp

theorem eq_splice_one (l : List α) (k : ℕ) (hk : k < l.length) :
    l = l.take k ++ [l[k]] ++ l.drop (k + 1) := by
  rw [List.append_assoc, List.singleton_append, ← List.drop_eq_getElem_cons hk, List.take_append_drop]

theorem eq_splice_two (l : List α) (k : ℕ) (hk : k + 1 < l.length) :
    l = l.take k ++ [l[k], l[k + 1]] ++ l.drop (k + 2) := by
  conv_lhs => rw [eq_splice_one l k (by omega)]
  rw [List.drop_eq_getElem_cons hk]
  simp

theorem mem_splice {l mid : List α} {k j : ℕ} {x : α} (mem : x ∈ l.take k ++ mid ++ l.drop j) :
    x ∈ l ∨ x ∈ mid := by
  rcases List.mem_append.mp mem with mem | mem
  · rcases List.mem_append.mp mem with mem | mem
    · exact Or.inl (List.mem_of_mem_take mem)
    · exact Or.inr mem
  · exact Or.inl (List.mem_of_mem_drop mem)

theorem forall_mem_splice {l : List α} {k j : ℕ} {x : α} {P : α → Prop} (old : ∀ a ∈ l, P a) (new : P x) :
    ∀ a ∈ l.take k ++ [x] ++ l.drop j, P a := by
  intro a mem
  rcases mem_splice mem with mem | mem
  · exact old a mem
  · rw [List.mem_singleton.mp mem]
    exact new

theorem forall_mem_take {l : List α} {k : ℕ} {P : α → Prop}
    (h : ∀ j (hj : j < l.length), j < k → P l[j]) : ∀ a ∈ l.take k, P a := by
  intro a mem
  obtain ⟨j, hj, rfl⟩ := List.mem_take_iff_getElem.mp mem
  exact h j (by omega) (by omega)

theorem forall_mem_drop {l : List α} {k : ℕ} {P : α → Prop}
    (h : ∀ j (hj : j < l.length), k ≤ j → P l[j]) : ∀ a ∈ l.drop k, P a := by
  intro a mem
  obtain ⟨j, hj, rfl⟩ := List.mem_drop_iff_getElem.mp mem
  exact h (k + j) (by omega) (by omega)

theorem length_splice (l mid : List α) (k j : ℕ) (hj : j ≤ l.length) (kj : k ≤ j) :
    (l.take k ++ mid ++ l.drop j).length = l.length - (j - k) + mid.length := by
  simp only [List.length_append, List.length_take, List.length_drop]
  omega

variable {R : α → α → Prop}

theorem pairwise_splice {l mid : List α} {k j : ℕ} (kj : k ≤ j) (hl : l.Pairwise R)
    (hmid : mid.Pairwise R) (left : ∀ a ∈ l.take k, ∀ x ∈ mid, R a x)
    (right : ∀ x ∈ mid, ∀ c ∈ l.drop j, R x c) :
    (l.take k ++ mid ++ l.drop j).Pairwise R := by
  have whole : (l.take k ++ l.drop k).Pairwise R := by rw [List.take_append_drop]; exact hl
  obtain ⟨before, after, across⟩ := List.pairwise_append.mp whole
  have later : l.drop j = (l.drop k).drop (j - k) := by
    rw [List.drop_drop]
    congr 1
    omega
  have tail : (l.drop j).Pairwise R := by rw [later]; exact after.sublist (List.drop_sublist _ _)
  refine List.pairwise_append.mpr ⟨List.pairwise_append.mpr ⟨before, hmid, left⟩, tail, ?_⟩
  intro a mem c memc
  rcases List.mem_append.mp mem with mem | mem
  · rw [later] at memc
    exact across a mem c (List.mem_of_mem_drop memc)
  · exact right a mem c memc

end Splice

variable {K : Type} [Field K]

section WeightedMean

variable [LinearOrder K] [IsStrictOrderedRing K]

variable {p q m n : K}

theorem lt_weightedMean (pq : p < q) (hm : 0 < m) (hn : 0 < n) :
    p < (p * m + q * n) / (m + n) := by
  rw [lt_div_iff₀ (by linarith)]
  nlinarith

theorem weightedMean_lt (pq : p < q) (hm : 0 < m) (hn : 0 < n) :
    (p * m + q * n) / (m + n) < q := by
  rw [div_lt_iff₀ (by linarith)]
  nlinarith

end WeightedMean

section Trapezoid

def trapezoid (a c t : K) : K := ((a + (a + (c - a) * t)) / (2 : ℕ)) * t

theorem trapezoid_zero (a c : K) : trapezoid a c 0 = 0 := by simp [trapezoid]

theorem trapezoid_one (a c : K) : trapezoid a c 1 = (a + c) / 2 := by
  simp only [trapezoid, mul_one]
  ring

variable [LinearOrder K] [IsStrictOrderedRing K] {a c t t' : K}

theorem trapezoid_mono (ha : 0 ≤ a) (hc : 0 ≤ c) (ht : 0 ≤ t) (tt : t ≤ t') (ht' : t' ≤ 1) :
    trapezoid a c t ≤ trapezoid a c t' := by
  -- the difference is t' - t times the height of the line halfway between t and t'
  have height : 0 ≤ a + (c - a) * ((t + t') / 2) := by
    have lower : 0 ≤ a * (1 - (t + t') / 2) := mul_nonneg ha (by linarith)
    have upper : 0 ≤ c * ((t + t') / 2) := mul_nonneg hc (by linarith)
    linarith
  have difference : trapezoid a c t' - trapezoid a c t =
      (t' - t) * (a + (c - a) * ((t + t') / 2)) := by
    unfold trapezoid
    ring
  nlinarith

theorem trapezoid_nonneg (ha : 0 ≤ a) (hc : 0 ≤ c) (ht : 0 ≤ t) (ht' : t ≤ 1) :
    0 ≤ trapezoid a c t := by
  simpa [trapezoid_zero] using trapezoid_mono ha hc le_rfl ht ht'

theorem trapezoid_le (ha : 0 ≤ a) (hc : 0 ≤ c) (ht : 0 ≤ t) (ht' : t ≤ 1) :
    trapezoid a c t ≤ (a + c) / 2 := by
  simpa [trapezoid_one] using trapezoid_mono ha hc ht ht' le_rfl

end Trapezoid

section Fraction

variable [LinearOrder K] [IsStrictOrderedRing K] {x y b b' : K}

theorem fraction_nonneg (xb : x ≤ b) (xy : x < y) : 0 ≤ (b - x) / (y - x) :=
  div_nonneg (by linarith) (by linarith)

theorem fraction_le_one (by' : b ≤ y) (xy : x < y) : (b - x) / (y - x) ≤ 1 :=
  (div_le_one (by linarith)).mpr (by linarith)

theorem fraction_mono (bb : b ≤ b') (xy : x < y) : (b - x) / (y - x) ≤ (b' - x) / (y - x) :=
  div_le_div_of_nonneg_right (by linarith) (by linarith)

end Fraction

section Cumulative

variable {B : Type} (pos mass : B → K)

def prefixMass (l : List B) (k : ℕ) : K := ((l.take k).map mass).sum

theorem prefixMass_cons (x : B) (l : List B) (k : ℕ) :
    prefixMass mass (x :: l) (k + 1) = mass x + prefixMass mass l k := by
  simp [prefixMass]

theorem prefixMass_zero (l : List B) : prefixMass mass l 0 = 0 := by simp [prefixMass]

theorem prefixMass_succ (l : List B) (i : ℕ) (hi : i < l.length) :
    prefixMass mass l (i + 1) = prefixMass mass l i + mass l[i] := by
  rw [prefixMass, prefixMass, List.take_add_one, List.getElem?_eq_getElem hi, List.map_append,
    List.sum_append]
  simp

variable [LinearOrder K]

def cumulative : List B → K → K
  | [], _ => 0
  | [x], b => if b < pos x then 0 else mass x
  | x :: y :: rest, b =>
    if b < pos x then 0
    else if b < pos y then
      mass x / (2 : ℕ) + trapezoid (mass x) (mass y) ((b - pos x) / (pos y - pos x))
    else mass x + cumulative (y :: rest) b

variable {pos mass}

theorem cumulative_of_lt_head {x : B} {l : List B} {b : K} (below : b < pos x) :
    cumulative pos mass (x :: l) b = 0 := by
  cases l with
  | nil => simp [cumulative, below]
  | cons y rest => simp [cumulative, below]

theorem cumulative_of_forall_le : ∀ (l : List B) (b : K), (∀ x ∈ l, pos x ≤ b) →
    cumulative pos mass l b = (l.map mass).sum
  | [], _, _ => rfl
  | [x], b, above => by simp [cumulative, not_lt.mpr (above x List.mem_cons_self)]
  | x :: y :: rest, b, above => by
    have xb := above x List.mem_cons_self
    have yb := above y (List.mem_cons_of_mem x List.mem_cons_self)
    rw [cumulative, if_neg (not_lt.mpr xb), if_neg (not_lt.mpr yb),
      cumulative_of_forall_le (y :: rest) b (fun z mem => above z (List.mem_cons_of_mem x mem))]
    simp

-- What a sorted list of nonnegative masses says of its first two points.
theorem head_pair {x y : B} {rest : List B} (sorted : (x :: y :: rest).Pairwise (fun x y => pos x < pos y))
    (nonneg : ∀ z ∈ x :: y :: rest, 0 ≤ mass z) : pos x < pos y ∧ 0 ≤ mass x ∧ 0 ≤ mass y :=
  ⟨(List.pairwise_cons.mp sorted).1 y List.mem_cons_self, nonneg x List.mem_cons_self,
    nonneg y (List.mem_cons_of_mem x List.mem_cons_self)⟩

variable [IsStrictOrderedRing K]

section Nonneg

theorem total_nonneg (l : List B) (nonneg : ∀ x ∈ l, 0 ≤ mass x) : 0 ≤ (l.map mass).sum :=
  List.sum_nonneg (by simpa using nonneg)

theorem cumulative_nonneg : ∀ (l : List B) (b : K), l.Pairwise (fun x y => pos x < pos y) →
    (∀ x ∈ l, 0 ≤ mass x) → 0 ≤ cumulative pos mass l b
  | [], _, _, _ => le_rfl
  | [x], b, _, nonneg => by unfold cumulative; split <;> simp [nonneg x List.mem_cons_self]
  | x :: y :: rest, b, sorted, nonneg => by
    obtain ⟨xy, mx, my⟩ := head_pair sorted nonneg
    unfold cumulative
    split
    · exact le_rfl
    split
    next xb yb =>
      have t := trapezoid_nonneg mx my (fraction_nonneg (not_lt.mp xb) xy) (fraction_le_one yb.le xy)
      linarith
    next =>
      have tail := cumulative_nonneg (y :: rest) b (List.pairwise_cons.mp sorted).2
        fun z mem => nonneg z (List.mem_cons_of_mem x mem)
      linarith

theorem half_le_cumulative : ∀ (x : B) (l : List B) (b : K),
    (x :: l).Pairwise (fun x y => pos x < pos y) → (∀ z ∈ x :: l, 0 ≤ mass z) →
    pos x ≤ b → mass x / 2 ≤ cumulative pos mass (x :: l) b
  | x, [], b, _, nonneg, xb => by
    simp only [cumulative, if_neg (not_lt.mpr xb)]
    linarith [nonneg x List.mem_cons_self]
  | x, y :: rest, b, sorted, nonneg, xb => by
    obtain ⟨xy, mx, my⟩ := head_pair sorted nonneg
    rw [cumulative, if_neg (not_lt.mpr xb)]
    split
    next yb =>
      have t := trapezoid_nonneg mx my (fraction_nonneg xb xy) (fraction_le_one yb.le xy)
      linarith
    next =>
      have tail := cumulative_nonneg (y :: rest) b (List.pairwise_cons.mp sorted).2
        fun z mem => nonneg z (List.mem_cons_of_mem x mem)
      linarith

theorem cumulative_le_total : ∀ (l : List B) (b : K), l.Pairwise (fun x y => pos x < pos y) →
    (∀ x ∈ l, 0 ≤ mass x) → cumulative pos mass l b ≤ (l.map mass).sum
  | [], _, _, _ => le_rfl
  | [x], b, _, nonneg => by unfold cumulative; split <;> simp [nonneg x List.mem_cons_self]
  | x :: y :: rest, b, sorted, nonneg => by
    obtain ⟨xy, mx, my⟩ := head_pair sorted nonneg
    have restTotal := total_nonneg rest
      fun z mem => nonneg z (List.mem_cons_of_mem x (List.mem_cons_of_mem y mem))
    have total : ((x :: y :: rest).map mass).sum = mass x + (mass y + (rest.map mass).sum) := by
      simp
    rw [total]
    unfold cumulative
    split
    · linarith
    split
    next xb yb =>
      have t := trapezoid_le mx my (fraction_nonneg (not_lt.mp xb) xy) (fraction_le_one yb.le xy)
      linarith
    next =>
      have tail := cumulative_le_total (y :: rest) b (List.pairwise_cons.mp sorted).2
        fun z mem => nonneg z (List.mem_cons_of_mem x mem)
      simp only [List.map_cons, List.sum_cons] at tail
      linarith

theorem cumulative_mono : ∀ l : List B, l.Pairwise (fun x y => pos x < pos y) →
    (∀ x ∈ l, 0 ≤ mass x) → Monotone (cumulative pos mass l)
  | [], _, _ => fun _ _ _ => le_rfl
  | [x], _, nonneg => by
    intro b b' bb
    unfold cumulative
    split
    · split <;> simp [nonneg x List.mem_cons_self]
    · rw [if_neg (by order)]
  | x :: y :: rest, sorted, nonneg => by
    intro b b' bb
    obtain ⟨xy, mx, my⟩ := head_pair sorted nonneg
    have tailNonneg : ∀ z ∈ y :: rest, 0 ≤ mass z := fun z mem => nonneg z (List.mem_cons_of_mem x mem)
    by_cases xb : b < pos x
    · rw [cumulative_of_lt_head xb]
      exact cumulative_nonneg _ b' sorted nonneg
    have xb' : ¬ b' < pos x := by order
    rw [cumulative, cumulative, if_neg xb, if_neg xb']
    by_cases yb : b < pos y
    · have t := fraction_nonneg (not_lt.mp xb) xy
      rw [if_pos yb]
      split
      next yb' =>
        have step := trapezoid_mono mx my t (fraction_mono bb xy) (fraction_le_one yb'.le xy)
        linarith
      next yb' =>
        have up := trapezoid_le mx my t (fraction_le_one yb.le xy)
        have half := half_le_cumulative y rest b' (List.pairwise_cons.mp sorted).2 tailNonneg
          (not_lt.mp yb')
        linarith
    · have yb' : ¬ b' < pos y := by order
      rw [if_neg yb, if_neg yb']
      have tail := cumulative_mono (y :: rest) (List.pairwise_cons.mp sorted).2 tailNonneg bb
      linarith

end Nonneg

theorem cumulative_of_interval : ∀ (l : List B) (i : ℕ) (hi : i + 1 < l.length) (b : K),
    l.Pairwise (fun x y => pos x < pos y) → pos l[i] ≤ b → b < pos l[i + 1] →
    cumulative pos mass l b = prefixMass mass l i + mass l[i] / 2 +
      trapezoid (mass l[i]) (mass l[i + 1]) ((b - pos l[i]) / (pos l[i + 1] - pos l[i]))
  | [], _, hi, _, _, _, _ => by simp at hi
  | [_], _, hi, _, _, _, _ => by simp at hi
  | x :: y :: rest, 0, _, b, _, xb, yb => by
    simp only [List.getElem_cons_zero, List.getElem_cons_succ] at xb yb ⊢
    rw [cumulative, if_neg (not_lt.mpr xb), if_pos yb, prefixMass_zero, zero_add, Nat.cast_ofNat]
  | x :: y :: rest, i + 1, hi, b, sorted, ib, bi => by
    have tailSorted := (List.pairwise_cons.mp sorted).2
    have xy : pos x < pos y := (List.pairwise_cons.mp sorted).1 y List.mem_cons_self
    have hi' : i + 1 < (y :: rest).length := by simpa using hi
    have ib' : pos (y :: rest)[i] ≤ b := ib
    -- the (i+1)-th point is at or past y, so b is past the first interval
    have yb : pos y ≤ b := by
      cases i with
      | zero => exact ib'
      | succ i =>
        exact (List.pairwise_iff_getElem.mp tailSorted 0 (i + 1) (by simp) (by omega)
          (by omega)).le.trans ib'
    have tail := cumulative_of_interval (y :: rest) i hi' b tailSorted ib bi
    rw [cumulative, if_neg (not_lt.mpr (xy.le.trans yb)), if_neg (not_lt.mpr yb), tail,
      prefixMass_cons]
    simp only [List.getElem_cons_succ]
    ring

end Cumulative

end WeightedPoints
