import Peloton.Lib.WeightedPoints

set_option autoImplicit false

namespace Peloton.Optimizer

-- A double is modelled by its exact value in a linearly ordered field.
structure Histogram.Bin (K : Type) where
  p : K
  m : K

structure Histogram (K : Type) where
  maxBins : UInt8
  bins : List (Histogram.Bin K)
  total : K
  minimum : K
  maximum : K

namespace Histogram

open WeightedPoints

variable {K : Type} [Field K] [LinearOrder K]

def DBL_MAX : K := (2 ^ 53 - 1) * 2 ^ 971
def DBL_MIN : K := (2 ^ 1022)⁻¹

namespace Bin

def mergeWith (a bin : Bin K) : Bin K :=
  let newM := a.m + bin.m
  { p := (a.p * a.m + bin.p * bin.m) / newM, m := newM }

instance : BEq (Bin K) := ⟨fun a b => a.p == b.p⟩
instance : LT (Bin K) := ⟨fun a b => a.p < b.p⟩
instance (a b : Bin K) : Decidable (a < b) := inferInstanceAs (Decidable (a.p < b.p))
instance : Inhabited (Bin K) := ⟨⟨0, 0⟩⟩

omit [Field K] in
@[simp] theorem beq_iff (a b : Bin K) : (a == b) = true ↔ a.p = b.p := by
  show (a.p == b.p) = true ↔ a.p = b.p
  exact beq_iff_eq

omit [Field K] in
@[simp] theorem lt_iff (a b : Bin K) : a < b ↔ a.p < b.p := Iff.rfl

end Bin

def init (maxBins : UInt8) : Histogram K :=
  { maxBins := maxBins, bins := [], total := 0, minimum := DBL_MAX, maximum := DBL_MIN }

def binarySearch {T : Type} [BEq T] [LT T] [∀ a b : T, Decidable (a < b)] [Inhabited T]
    (vec : List T) (start stop : Int) (key : T) : Int :=
  if start > stop then -(start + 1)
  else
    let middle := start + (stop - start) / 2
    if vec.getD middle.toNat default == key then middle
    else if vec.getD middle.toNat default > key then binarySearch vec start (middle - 1) key
    else binarySearch vec (middle + 1) stop key
termination_by (stop - start + 1).toNat
decreasing_by all_goals omega

def getInterval (bins : List (Bin K)) (i : ℕ) : K × K × K × K :=
  ((bins.getD i default).p, (bins.getD (i + 1) default).p, (bins.getD i default).m,
    (bins.getD (i + 1) default).m)

-- bins.size() - 1 is a size_t: with no bins it wraps, and converts to the int -1.
def insertBin (h : Histogram K) (bin : Bin K) : Histogram K :=
  let index := binarySearch h.bins 0 ((h.bins.length : Int) - 1) bin
  { h with
    total := h.total + bin.m
    minimum := if bin.p < h.minimum then bin.p else h.minimum
    maximum := if bin.p > h.maximum then bin.p else h.maximum
    bins := if index ≥ 0 then h.bins.modify index.toNat fun b => { b with m := b.m + bin.m }
      else h.bins.insertIdx (index.natAbs - 1) bin }

def gapAt (bins : List (Bin K)) (i : ℕ) : K :=
  |(bins.getD i default).p - (bins.getD (i + 1) default).p|

def minGapStep (bins : List (Bin K)) (acc : Int × K) (i : ℕ) : Int × K :=
  if gapAt bins i < acc.2 then (i, gapAt bins i) else acc

-- The uint8_t counter never wraps: the merge runs on max_bins + 1 ≤ 256 bins.
def mergeTwoBinsWithMinGap (bins : List (Bin K)) : Option (List (Bin K)) :=
  let minGapIdx := ((List.range (bins.length - 1)).foldl (minGapStep bins) (-1, DBL_MAX)).1
  if minGapIdx < 0 then none
  else
    let i := minGapIdx.toNat
    some ((bins.set i ((bins.getD i default).mergeWith (bins.getD (i + 1) default))).eraseIdx
      (i + 1))

def update (h : Histogram K) (p : K) : Option (Histogram K) :=
  let h := h.insertBin { p := p, m := 1 }
  if h.bins.length > h.maxBins.toNat then
    (mergeTwoBinsWithMinGap h.bins).map fun bins => { h with bins := bins }
  else some h

def run (h : Histogram K) (points : List K) : Option (Histogram K) := points.foldlM update h

-- GetInterval takes a uint8_t i; i < bins.size() ≤ max_bins ≤ 255, so it never wraps.
def sum (h : Histogram K) (b : K) : K :=
  if h.bins.length = 0 then 0
  else if b ≥ (h.bins.getLastD default).p then h.total
  else if b < (h.bins.headD default).p then 0
  else
    let found := binarySearch h.bins 0 ((h.bins.length : Int) - 1) { p := b, m := 1 }
    let i := if found < 0 then |found + 1| - 1 else found
    let (pi, pi1, mi, mi1) := getInterval h.bins i.toNat
    let mb := mi + (mi1 - mi) / (pi1 - pi) * (b - pi)
    let s := ((mi + mb) / 2) * ((b - pi) / (pi1 - pi))
    let s := (List.range i.toNat).foldl (fun s j => s + (h.bins.getD j default).m) s
    s + mi / 2

def getMaxValue (h : Histogram K) : K := h.maximum

def getMinValue (h : Histogram K) : K := h.minimum

def Sorted (bins : List (Bin K)) : Prop := bins.Pairwise fun a b => a.p < b.p

omit [Field K] in
theorem Sorted.lt {bins : List (Bin K)} (sorted : Sorted bins) {i j : ℕ} (hj : j < bins.length)
    (ij : i < j) : (bins.get ⟨i, ij.trans hj⟩).p < bins[j].p :=
  List.pairwise_iff_getElem.mp sorted i j _ hj ij

omit [Field K] in
theorem Sorted.le {bins : List (Bin K)} (sorted : Sorted bins) {i j : ℕ} (hj : j < bins.length)
    (ij : i ≤ j) : (bins.get ⟨i, Nat.lt_of_le_of_lt ij hj⟩).p ≤ bins[j].p := by
  rcases Nat.lt_or_eq_of_le ij with ij | rfl
  · exact (sorted.lt hj ij).le
  · exact le_rfl

section Search

def Located (bins : List (Bin K)) (x : K) (r : Int) : Prop :=
  (0 ≤ r ∧ ∃ hr : r.toNat < bins.length, bins[r.toNat].p = x) ∨
  (r < 0 ∧ (-(r + 1)).toNat ≤ bins.length ∧ ∀ j (hj : j < bins.length),
    (j < (-(r + 1)).toNat → bins[j].p < x) ∧ ((-(r + 1)).toNat ≤ j → x < bins[j].p))

theorem binarySearch_located (bins : List (Bin K)) (sorted : Sorted bins) (key : Bin K)
    (start stop : Int) (h0 : 0 ≤ start) (h1 : stop < bins.length) (h2 : start ≤ stop + 1)
    (below : ∀ j (hj : j < bins.length), (j : Int) < start → bins[j].p < key.p)
    (above : ∀ j (hj : j < bins.length), stop < j → key.p < bins[j].p) :
    Located bins key.p (binarySearch bins start stop key) := by
  fun_induction binarySearch bins start stop key with
  | case1 start stop past =>
    -- nothing left to search: start is the insertion point
    refine Or.inr ⟨by omega, by omega, fun j hj => ⟨fun before => below j hj (by omega),
      fun after => above j hj (by omega)⟩⟩
  | case2 start stop within middle hit =>
    have middle_eq : middle = start + (stop - start) / 2 := rfl
    have inside : middle.toNat < bins.length := by omega
    rw [List.getD_eq_getElem _ _ inside, Bin.beq_iff] at hit
    exact Or.inl ⟨by omega, inside, hit⟩
  | case3 start stop within middle miss greater ih =>
    have middle_eq : middle = start + (stop - start) / 2 := rfl
    have inside : middle.toNat < bins.length := by omega
    rw [List.getD_eq_getElem _ _ inside, gt_iff_lt, Bin.lt_iff] at greater
    refine ih h0 (by omega) (by omega) below fun j hj after => ?_
    exact greater.trans_le (sorted.le hj (by omega))
  | case4 start stop within middle miss notGreater ih =>
    have middle_eq : middle = start + (stop - start) / 2 := rfl
    have inside : middle.toNat < bins.length := by omega
    rw [List.getD_eq_getElem _ _ inside, Bin.beq_iff] at miss
    rw [List.getD_eq_getElem _ _ inside, gt_iff_lt, Bin.lt_iff, not_lt] at notGreater
    have less : bins[middle.toNat].p < key.p := lt_of_le_of_ne notGreater miss
    refine ih (by omega) h1 (by omega) (fun j hj before => ?_) above
    exact (sorted.le inside (by omega)).trans_lt less

theorem located_whole (bins : List (Bin K)) (sorted : Sorted bins) (key : Bin K) :
    Located bins key.p (binarySearch bins 0 ((bins.length : Int) - 1) key) :=
  binarySearch_located bins sorted key 0 _ le_rfl (by omega) (by omega)
    (fun _ _ before => absurd before (by omega)) (fun _ hj after => absurd after (by omega))

end Search

section InsertBin

variable (h : Histogram K) (bin : Bin K)

@[simp] theorem insertBin_maxBins : (h.insertBin bin).maxBins = h.maxBins := rfl

@[simp] theorem insertBin_total : (h.insertBin bin).total = h.total + bin.m := rfl

theorem insertBin_minimum : (h.insertBin bin).minimum = min bin.p h.minimum := by
  show (if bin.p < h.minimum then bin.p else h.minimum) = _
  split
  next below => exact (min_eq_left below.le).symm
  next notBelow => exact (min_eq_right (not_lt.mp notBelow)).symm

theorem insertBin_maximum : (h.insertBin bin).maximum = max bin.p h.maximum := by
  show (if bin.p > h.maximum then bin.p else h.maximum) = _
  split
  next above => exact (max_eq_left above.le).symm
  next notAbove => exact (max_eq_right (not_lt.mp notAbove)).symm

theorem insertBin_bins (sorted : Sorted h.bins) :
    (∃ r, ∃ hr : r < h.bins.length, h.bins[r].p = bin.p ∧ (h.insertBin bin).bins =
      h.bins.take r ++ [{ h.bins[r] with m := h.bins[r].m + bin.m }] ++ h.bins.drop (r + 1)) ∨
    (∃ k ≤ h.bins.length, (∀ j (hj : j < h.bins.length),
      (j < k → h.bins[j].p < bin.p) ∧ (k ≤ j → bin.p < h.bins[j].p)) ∧
      (h.insertBin bin).bins = h.bins.take k ++ [bin] ++ h.bins.drop k) := by
  have located := located_whole h.bins sorted bin
  simp only [insertBin]
  generalize binarySearch h.bins 0 ((h.bins.length : Int) - 1) bin = r at located ⊢
  rcases located with ⟨found, hr, hit⟩ | ⟨missing, hk, place⟩
  · rw [if_pos found]
    exact Or.inl ⟨r.toNat, hr, hit, modify_eq_splice _ _ _ hr⟩
  · have point : r.natAbs - 1 = (-(r + 1)).toNat := by omega
    rw [if_neg (by omega), point]
    exact Or.inr ⟨_, hk, place, insertIdx_eq_splice _ _ _ hk⟩

end InsertBin

section Merge

def Scanned (bins : List (Bin K)) (n : ℕ) (acc : Int × K) : Prop :=
  (acc.1 = -1 ∧ acc.2 = DBL_MAX ∧ ∀ i < n, DBL_MAX ≤ gapAt bins i) ∨
    (0 ≤ acc.1 ∧ acc.1 < n ∧ gapAt bins acc.1.toNat < DBL_MAX ∧ acc.2 < DBL_MAX)

theorem Scanned.step {bins : List (Bin K)} {n : ℕ} {acc : Int × K} (scanned : Scanned bins n acc) :
    Scanned bins (n + 1) (minGapStep bins acc n) := by
  have bound : acc.2 ≤ DBL_MAX := by
    rcases scanned with ⟨-, same, -⟩ | ⟨-, -, -, below⟩
    · exact same.le
    · exact below.le
  unfold minGapStep
  split
  next smaller =>
    refine Or.inr ⟨by omega, by omega, ?_, smaller.trans_le bound⟩
    simpa using smaller.trans_le bound
  next notSmaller =>
    rcases scanned with ⟨none, same, wide⟩ | ⟨found, within, gap, below⟩
    · refine Or.inl ⟨none, same, fun i hi => ?_⟩
      rcases Nat.lt_succ_iff_lt_or_eq.mp hi with hi | rfl
      · exact wide i hi
      · rw [same] at notSmaller
        exact not_lt.mp notSmaller
    · exact Or.inr ⟨found, by omega, gap, below⟩

theorem foldl_minGapStep (bins : List (Bin K)) : ∀ n : ℕ,
    Scanned bins n ((List.range n).foldl (minGapStep bins) (-1, DBL_MAX))
  | 0 => Or.inl ⟨rfl, rfl, fun _ none => absurd none (Nat.not_lt_zero _)⟩
  | n + 1 => by
    rw [List.range_succ, List.foldl_append, List.foldl_cons, List.foldl_nil]
    exact (foldl_minGapStep bins n).step

theorem mergeTwoBinsWithMinGap_eq_none_iff (bins : List (Bin K)) :
    mergeTwoBinsWithMinGap bins = none ↔ ∀ i, i + 1 < bins.length → DBL_MAX ≤ gapAt bins i := by
  have scan := foldl_minGapStep bins (bins.length - 1)
  unfold mergeTwoBinsWithMinGap
  generalize (List.range (bins.length - 1)).foldl (minGapStep bins) (-1, DBL_MAX) = acc at scan ⊢
  rcases scan with ⟨none, -, wide⟩ | ⟨found, within, gap, -⟩
  · rw [if_pos (by omega)]
    exact iff_of_true rfl fun i hi => wide i (by omega)
  · rw [if_neg (not_lt.mpr found)]
    exact iff_of_false (Option.some_ne_none _) fun wide => not_le.mpr gap (wide _ (by omega))

theorem mergeTwoBinsWithMinGap_eq_some {bins merged : List (Bin K)}
    (merge : mergeTwoBinsWithMinGap bins = some merged) :
    ∃ i, ∃ hi : i + 1 < bins.length,
      merged = bins.take i ++ [bins[i].mergeWith bins[i + 1]] ++ bins.drop (i + 2) := by
  have scan := foldl_minGapStep bins (bins.length - 1)
  unfold mergeTwoBinsWithMinGap at merge
  generalize (List.range (bins.length - 1)).foldl (minGapStep bins) (-1, DBL_MAX) = acc at scan merge
  rcases scan with ⟨none, -, -⟩ | ⟨found, within, -, -⟩
  · simp [none] at merge
  · have hi : acc.1.toNat + 1 < bins.length := by omega
    rw [if_neg (not_lt.mpr found), Option.some.injEq] at merge
    rw [← merge, List.getD_eq_getElem _ _ (by omega), List.getD_eq_getElem _ _ hi]
    exact ⟨acc.1.toNat, hi, set_eraseIdx_eq_splice _ _ _ hi⟩

end Merge

section Invariant

variable [IsStrictOrderedRing K]

/-- What every Update keeps of the bins: in order of position, with positive masses, each within
the range of the points fed so far. -/
structure Fits (points : List K) (bins : List (Bin K)) : Prop where
  sorted : Sorted bins
  positive : ∀ b ∈ bins, 0 < b.m
  hull : ∀ b ∈ bins, ∃ q ∈ points, ∃ q' ∈ points, q ≤ b.p ∧ b.p ≤ q'

theorem Fits.insertBin {points : List K} {h : Histogram K} (fits : Fits points h.bins) (p : K) :
    Fits (points ++ [p]) (h.insertBin ⟨p, 1⟩).bins ∧
      ((h.insertBin ⟨p, 1⟩).bins.map Bin.m).sum = (h.bins.map Bin.m).sum + 1 ∧
      (h.insertBin ⟨p, 1⟩).bins.length ≤ h.bins.length + 1 := by
  have old : ∀ b ∈ h.bins, ∃ q ∈ points ++ [p], ∃ q' ∈ points ++ [p], q ≤ b.p ∧ b.p ≤ q' := by
    intro b mem
    obtain ⟨q, hq, q', hq', lo, hi⟩ := fits.hull b mem
    exact ⟨q, List.mem_append_left _ hq, q', List.mem_append_left _ hq', lo, hi⟩
  have fresh : ∃ q ∈ points ++ [p], ∃ q' ∈ points ++ [p], q ≤ p ∧ p ≤ q' :=
    ⟨p, by simp, p, by simp, le_rfl, le_rfl⟩
  rcases insertBin_bins h ⟨p, 1⟩ fits.sorted with ⟨r, hr, hit, bins⟩ | ⟨k, hk, place, bins⟩
  · -- the unit of mass joins the bin already at p
    have left : ∀ a ∈ h.bins.take r, ∀ x ∈ [{ h.bins[r] with m := h.bins[r].m + 1 }], a.p < x.p :=
      forall_mem_take fun j _ jr => by simpa using fits.sorted.lt hr jr
    have right : ∀ x ∈ [{ h.bins[r] with m := h.bins[r].m + 1 }], ∀ c ∈ h.bins.drop (r + 1),
        x.p < c.p := by
      intro x memx
      rw [List.mem_singleton.mp memx]
      exact forall_mem_drop fun j hj rj => fits.sorted.lt hj (by omega)
    have mr := fits.positive _ (List.getElem_mem hr)
    rw [bins]
    refine ⟨⟨pairwise_splice (Nat.le_succ r) fits.sorted (List.pairwise_singleton _ _) left right,
      ?_, ?_⟩, ?_, ?_⟩
    · exact forall_mem_splice fits.positive (add_pos mr one_pos)
    · refine forall_mem_splice old ?_
      show ∃ q ∈ points ++ [p], ∃ q' ∈ points ++ [p], q ≤ h.bins[r].p ∧ h.bins[r].p ≤ q'
      rw [hit]
      exact fresh
    · conv_rhs => rw [eq_splice_one h.bins r hr]
      simp only [List.map_append, List.sum_append, List.map_cons, List.map_nil, List.sum_cons,
        List.sum_nil]
      ring
    · rw [length_splice _ _ _ _ (by omega) (Nat.le_succ r)]
      simp
  · -- a new bin at its insertion point
    have left : ∀ a ∈ h.bins.take k, ∀ x ∈ [(⟨p, 1⟩ : Bin K)], a.p < x.p :=
      forall_mem_take fun j hj jk => by simpa using (place j hj).1 jk
    have right : ∀ x ∈ [(⟨p, 1⟩ : Bin K)], ∀ c ∈ h.bins.drop k, x.p < c.p := by
      intro x memx
      rw [List.mem_singleton.mp memx]
      exact forall_mem_drop fun j hj kj => (place j hj).2 kj
    rw [bins]
    refine ⟨⟨pairwise_splice le_rfl fits.sorted (List.pairwise_singleton _ _) left right, ?_, ?_⟩,
      ?_, ?_⟩
    · exact forall_mem_splice fits.positive one_pos
    · exact forall_mem_splice old fresh
    · conv_rhs => rw [← List.take_append_drop k h.bins]
      simp only [List.map_append, List.sum_append, List.map_cons, List.map_nil, List.sum_cons,
        List.sum_nil]
      ring
    · rw [length_splice _ _ _ _ (by omega) le_rfl]
      simp

theorem Fits.merge {points : List K} {bins merged : List (Bin K)} (fits : Fits points bins)
    (merge : mergeTwoBinsWithMinGap bins = some merged) :
    Fits points merged ∧ (merged.map Bin.m).sum = (bins.map Bin.m).sum ∧
      merged.length + 1 = bins.length := by
  obtain ⟨i, hi, rfl⟩ := mergeTwoBinsWithMinGap_eq_some merge
  have hi' : i < bins.length := by omega
  have xy : bins[i].p < bins[i + 1].p := fits.sorted.lt hi (Nat.lt_succ_self i)
  have mx := fits.positive _ (List.getElem_mem hi')
  have my := fits.positive _ (List.getElem_mem hi)
  -- the centroid of two neighbours lies strictly between them
  have above : bins[i].p < (bins[i].mergeWith bins[i + 1]).p := lt_weightedMean xy mx my
  have below : (bins[i].mergeWith bins[i + 1]).p < bins[i + 1].p := weightedMean_lt xy mx my
  have left : ∀ a ∈ bins.take i, ∀ x ∈ [bins[i].mergeWith bins[i + 1]], a.p < x.p :=
    forall_mem_take fun j _ ji => by simpa using (fits.sorted.lt hi' ji).trans above
  have right : ∀ x ∈ [bins[i].mergeWith bins[i + 1]], ∀ c ∈ bins.drop (i + 2), x.p < c.p := by
    intro x memx
    rw [List.mem_singleton.mp memx]
    exact forall_mem_drop fun j hj ij => below.trans (fits.sorted.lt hj (by omega))
  refine ⟨⟨pairwise_splice (by omega) fits.sorted (List.pairwise_singleton _ _) left right, ?_, ?_⟩,
    ?_, ?_⟩
  · exact forall_mem_splice fits.positive (add_pos mx my)
  · refine forall_mem_splice fits.hull ?_
    -- the merged bin lies between the hulls of the two it replaces
    obtain ⟨q, hq, -, -, qx, -⟩ := fits.hull _ (List.getElem_mem hi')
    obtain ⟨-, -, q', hq', -, yq'⟩ := fits.hull _ (List.getElem_mem hi)
    exact ⟨q, hq, q', hq', qx.trans above.le, below.le.trans yq'⟩
  · conv_rhs => rw [eq_splice_two bins i hi]
    simp only [List.map_append, List.sum_append, List.map_cons, List.map_nil, List.sum_cons,
      List.sum_nil, Bin.mergeWith]
    ring
  · rw [length_splice _ _ _ _ (by omega) (by omega)]
    simp
    omega

theorem Fits.merge_exists {points : List K} {bins : List (Bin K)} (fits : Fits points bins)
    (two : 2 ≤ bins.length) (spread : ∀ q ∈ points, ∀ q' ∈ points, q' - q < DBL_MAX) :
    ∃ merged, mergeTwoBinsWithMinGap bins = some merged := by
  cases merge : mergeTwoBinsWithMinGap bins with
  | some merged => exact ⟨merged, rfl⟩
  | none =>
    have wide := (mergeTwoBinsWithMinGap_eq_none_iff bins).mp merge 0 (by omega)
    have xy : bins[0].p < bins[1].p := fits.sorted.lt (by omega) Nat.zero_lt_one
    obtain ⟨q, hq, -, -, qx, -⟩ := fits.hull _ (List.getElem_mem (by omega : 0 < bins.length))
    obtain ⟨-, -, q', hq', -, yq'⟩ := fits.hull _ (List.getElem_mem (by omega : 1 < bins.length))
    have gap : gapAt bins 0 = bins[1].p - bins[0].p := by
      rw [gapAt, List.getD_eq_getElem _ _ (by omega), List.getD_eq_getElem _ _ (by omega),
        abs_sub_comm, abs_of_pos (by simpa using xy)]
    have close := spread q hq q' hq'
    rw [gap] at wide
    linarith

/-- The state after Update was called with points, in order: the bins fit the points and are
at most max_bins, their masses sum to total_, which counts the points, and minimum_ and
maximum_ are the extremes of the points together with the constructor's DBL_MAX and DBL_MIN. -/
structure Tracks (points : List K) (h : Histogram K) : Prop where
  fits : Fits points h.bins
  short : h.bins.length ≤ h.maxBins.toNat
  mass : (h.bins.map Bin.m).sum = h.total
  total : h.total = points.length
  minimum : IsLeast (insert DBL_MAX {q | q ∈ points}) h.minimum
  maximum : IsGreatest (insert DBL_MIN {q | q ∈ points}) h.maximum

omit [Field K] [LinearOrder K] [IsStrictOrderedRing K] in
theorem setOf_mem_append (points : List K) (p : K) :
    {q | q ∈ points ++ [p]} = insert p {q | q ∈ points} := by
  ext q
  simp [or_comm]

theorem tracks_init (maxBins : UInt8) : Tracks [] (init maxBins : Histogram K) where
  fits := ⟨List.Pairwise.nil, fun _ mem => absurd mem List.not_mem_nil,
    fun _ mem => absurd mem List.not_mem_nil⟩
  short := Nat.zero_le _
  mass := by simp [init]
  total := by simp [init]
  minimum := by simp [init]
  maximum := by simp [init]

theorem Tracks.update {points : List K} {h : Histogram K} (tracks : Tracks points h)
    (wide : 0 < h.maxBins.toNat) (p : K)
    (spread : ∀ q ∈ points ++ [p], ∀ q' ∈ points ++ [p], q' - q < DBL_MAX) :
    ∃ h', h.update p = some h' ∧ Tracks (points ++ [p]) h' ∧ h'.maxBins = h.maxBins := by
  obtain ⟨fits, mass, longer⟩ := tracks.fits.insertBin p
  have mass' : ((h.insertBin ⟨p, 1⟩).bins.map Bin.m).sum = (h.insertBin ⟨p, 1⟩).total := by
    rw [mass, tracks.mass, insertBin_total]
  have total : (h.insertBin ⟨p, 1⟩).total = (points ++ [p]).length := by
    rw [insertBin_total, tracks.total, List.length_append, List.length_singleton, Nat.cast_add,
      Nat.cast_one]
  have minimum : IsLeast (insert DBL_MAX {q | q ∈ points ++ [p]}) (h.insertBin ⟨p, 1⟩).minimum := by
    rw [insertBin_minimum, setOf_mem_append, Set.insert_comm]
    exact tracks.minimum.insert p
  have maximum : IsGreatest (insert DBL_MIN {q | q ∈ points ++ [p]})
      (h.insertBin ⟨p, 1⟩).maximum := by
    rw [insertBin_maximum, setOf_mem_append, Set.insert_comm]
    exact tracks.maximum.insert p
  rw [Histogram.update]
  split
  next tooMany =>
    -- one bin too many: the merge takes it back to max_bins
    rw [insertBin_maxBins] at tooMany
    obtain ⟨merged, merge⟩ := fits.merge_exists (by omega) spread
    obtain ⟨fits', mass'', length⟩ := fits.merge merge
    have short := tracks.short
    rw [merge]
    exact ⟨_, rfl, ⟨fits', by simp; omega, mass''.trans mass', total, minimum, maximum⟩, rfl⟩
  next within =>
    exact ⟨_, rfl, ⟨fits, not_lt.mp within, mass', total, minimum, maximum⟩, rfl⟩

theorem Tracks.run (points : List K) : ∀ (done : List K) (h : Histogram K), Tracks done h →
    0 < h.maxBins.toNat → (∀ q ∈ done ++ points, ∀ q' ∈ done ++ points, q' - q < DBL_MAX) →
    ∃ h', h.run points = some h' ∧ Tracks (done ++ points) h' ∧ h'.maxBins = h.maxBins := by
  induction points with
  | nil => exact fun done h tracks _ _ => ⟨h, rfl, by simpa using tracks, rfl⟩
  | cons p rest ih =>
    intro done h tracks wide spread
    have sub : done ++ [p] ⊆ done ++ p :: rest := by
      intro q mem
      simp only [List.mem_append, List.mem_cons] at mem ⊢
      tauto
    obtain ⟨h', step, tracks', same⟩ :=
      tracks.update wide p fun q hq q' hq' => spread q (sub hq) q' (sub hq')
    obtain ⟨h'', later, tracks'', same'⟩ :=
      ih (done ++ [p]) h' tracks' (same ▸ wide) (by simpa using spread)
    refine ⟨h'', ?_, by simpa using tracks'', same'.trans same⟩
    rw [Histogram.run, List.foldlM_cons, step]
    exact later

end Invariant

section Sum

omit [LinearOrder K] in
theorem foldl_add_mass (bins : List (Bin K)) : ∀ i ≤ bins.length, ∀ s : K,
    (List.range i).foldl (fun s j => s + (bins.getD j default).m) s =
      s + prefixMass Bin.m bins i
  | 0, _, s => by simp [prefixMass_zero]
  | i + 1, hi, s => by
    rw [List.range_succ, List.foldl_append, foldl_add_mass bins i (by omega) s, List.foldl_cons,
      List.foldl_nil, prefixMass_succ _ _ _ (by omega), List.getD_eq_getElem _ _ (by omega),
      add_assoc]

theorem sum_interval (bins : List (Bin K)) (sorted : Sorted bins) (b : K)
    (hpos : 0 < bins.length) (first : bins[0].p ≤ b) (last : b < bins[bins.length - 1].p) :
    ∃ i, ∃ hi : i + 1 < bins.length, bins[i].p ≤ b ∧ b < bins[i + 1].p ∧
      (if binarySearch bins 0 ((bins.length : Int) - 1) ⟨b, 1⟩ < 0 then
        |binarySearch bins 0 ((bins.length : Int) - 1) ⟨b, 1⟩ + 1| - 1
      else binarySearch bins 0 ((bins.length : Int) - 1) ⟨b, 1⟩) = i := by
  have located := located_whole bins sorted ⟨b, 1⟩
  generalize binarySearch bins 0 ((bins.length : Int) - 1) ⟨b, 1⟩ = r at located ⊢
  rcases located with ⟨found, hr, hit⟩ | ⟨missing, hk, place⟩
  · -- b is the position of a bin, and not of the last one
    change bins[r.toNat].p = b at hit
    have notLast : r.toNat + 1 < bins.length := by
      by_contra atLast
      have := sorted.le hr (by omega : bins.length - 1 ≤ r.toNat)
      rw [hit] at this
      exact absurd last (not_lt.mpr this)
    refine ⟨r.toNat, notLast, le_of_eq hit, ?_, ?_⟩
    · rw [← hit]
      exact sorted.lt notLast (Nat.lt_succ_self _)
    · rw [if_neg (not_lt.mpr found)]
      omega
  · -- b lies strictly between two positions; its insertion point is past the first bin
    obtain ⟨k, hk'⟩ : ∃ k, (-(r + 1)).toNat = k + 1 := by
      refine ⟨(-(r + 1)).toNat - 1, ?_⟩
      by_contra zero
      exact absurd first (not_le.mpr ((place 0 hpos).2 (by omega)))
    have inside : k + 1 < bins.length := by
      by_contra past
      exact absurd last (not_lt.mpr ((place (bins.length - 1) (by omega)).1 (by omega)).le)
    refine ⟨k, inside, ((place k (by omega)).1 (by omega)).le, (place (k + 1) inside).2 (by omega),
      ?_⟩
    rw [if_pos missing, abs_of_nonpos (by omega)]
    omega

variable [IsStrictOrderedRing K]

theorem sum_eq_cumulative (h : Histogram K) (sorted : Sorted h.bins)
    (mass : (h.bins.map Bin.m).sum = h.total) (b : K) :
    h.sum b = cumulative Bin.p Bin.m h.bins b := by
  unfold sum
  split
  next empty => rw [List.length_eq_zero_iff.mp empty]; rfl
  have hpos : 0 < h.bins.length := by omega
  rw [List.getLastD_eq_getLast?, List.getLast?_eq_getElem?, List.getElem?_eq_getElem (by omega),
    Option.getD_some, List.headD_eq_head?_getD, List.head?_eq_getElem?,
    List.getElem?_eq_getElem hpos, Option.getD_some]
  split
  next past =>
    rw [cumulative_of_forall_le _ _ fun x mem => ?_, mass]
    obtain ⟨j, hj, rfl⟩ := List.getElem_of_mem mem
    exact (sorted.le (by omega) (by omega)).trans past
  next notPast =>
  split
  next before =>
    obtain ⟨x, rest, cons⟩ := List.exists_cons_of_length_pos hpos
    simp only [cons, List.getElem_cons_zero] at before ⊢
    rw [cumulative_of_lt_head before]
  next after =>
  obtain ⟨i, hi, ib, bi, index⟩ := sum_interval h.bins sorted b hpos (not_lt.mp after)
    (not_le.mp notPast)
  simp only [index, Int.toNat_natCast, getInterval, List.getD_eq_getElem _ _ hi,
    List.getD_eq_getElem _ _ (Nat.lt_of_succ_lt hi)]
  rw [foldl_add_mass _ i (by omega), cumulative_of_interval h.bins i hi b sorted ib bi, trapezoid]
  ring

end Sum

section Run

variable [IsStrictOrderedRing K]

omit [Field K] [IsStrictOrderedRing K] in
theorem isLeast_of_insert {S : Set K} {top m q : K} (least : IsLeast (insert top S) m) (hq : q ∈ S)
    (below : q ≤ top) : IsLeast S m := by
  refine ⟨?_, fun x hx => least.2 (Set.mem_insert_of_mem _ hx)⟩
  rcases least.1 with rfl | mem
  · have mq := least.2 (Set.mem_insert_of_mem _ hq)
    rw [le_antisymm mq below]
    exact hq
  · exact mem

theorem one_le_DBL_MAX : (1 : K) ≤ DBL_MAX := by
  have mantissa : (1 : K) ≤ 2 ^ 53 - 1 := by norm_num
  exact one_le_mul_of_one_le_of_one_le mantissa (one_le_pow₀ one_le_two)

omit [IsStrictOrderedRing K] in
theorem Tracks.getMaxValue_of_below {points : List K} {h : Histogram K} (tracks : Tracks points h)
    (below : ∀ p ∈ points, p < DBL_MIN) : h.getMaxValue = DBL_MIN := by
  rcases tracks.maximum.1 with same | mem
  · exact same
  · exact absurd (tracks.maximum.2 (Set.mem_insert _ _)) (not_le.mpr (below _ mem))

/-- Update(p) for each of a nonempty run of finite points from a fresh histogram whose points are
less than DBL_MAX apart: the bins stay strictly sorted and at most max_bins, their masses sum to
total_, the number of points, GetMinValue() is the least point, Sum is monotone and within
[0, total_], but GetMaxValue() is the greatest of the points and DBL_MIN. -/
theorem run_max_includes_dbl_min (maxBins : UInt8) (wide : 0 < maxBins.toNat) (points : List K)
    (nonempty : points ≠ []) (finite : ∀ p ∈ points, |p| ≤ DBL_MAX)
    (spread : ∀ p ∈ points, ∀ q ∈ points, q - p < DBL_MAX) :
    ∃ h, (init maxBins).run points = some h ∧
      h.bins.Pairwise (fun a b => a.p < b.p) ∧ h.bins.length ≤ maxBins.toNat ∧
      (h.bins.map Bin.m).sum = h.total ∧ h.total = points.length ∧
      IsLeast {p | p ∈ points} h.getMinValue ∧
      IsGreatest (insert DBL_MIN {p | p ∈ points}) h.getMaxValue ∧
      Monotone h.sum ∧ ∀ b, 0 ≤ h.sum b ∧ h.sum b ≤ h.total := by
  obtain ⟨h, run, tracks, same⟩ :=
    Tracks.run points [] (init maxBins) (tracks_init maxBins) wide (by simpa using spread)
  rw [List.nil_append] at tracks
  have sorted := tracks.fits.sorted
  have nonneg : ∀ x ∈ h.bins, 0 ≤ x.m := fun x mem => (tracks.fits.positive x mem).le
  have sum_eq : h.sum = cumulative Bin.p Bin.m h.bins :=
    funext (sum_eq_cumulative h sorted tracks.mass)
  obtain ⟨q, hq⟩ := List.exists_mem_of_ne_nil points nonempty
  have short : h.bins.length ≤ maxBins.toNat := by
    rw [← show h.maxBins = maxBins from same]
    exact tracks.short
  refine ⟨h, run, sorted, short, tracks.mass, tracks.total,
    isLeast_of_insert tracks.minimum hq (le_abs_self q |>.trans (finite q hq)), tracks.maximum,
    ?_, fun b => ?_⟩
  · rw [sum_eq]
    exact cumulative_mono h.bins sorted nonneg
  · rw [sum_eq, ← tracks.mass]
    exact ⟨cumulative_nonneg h.bins b sorted nonneg, cumulative_le_total h.bins b sorted nonneg⟩

end Run

theorem run_max_includes_dbl_min_of_negative_point :
    0 < (2 : UInt8).toNat ∧ [(-1 : ℝ)] ≠ [] ∧ (∀ p ∈ [(-1 : ℝ)], |p| ≤ DBL_MAX) ∧
      (∀ p ∈ [(-1 : ℝ)], ∀ q ∈ [(-1 : ℝ)], q - p < DBL_MAX) ∧
      ∃ h, (init 2 : Histogram ℝ).run [-1] = some h ∧
        h.bins.Pairwise (fun a b => a.p < b.p) ∧ h.bins.length ≤ (2 : UInt8).toNat ∧
        (h.bins.map Bin.m).sum = h.total ∧ h.total = [(-1 : ℝ)].length ∧
        IsLeast {p | p ∈ [(-1 : ℝ)]} h.getMinValue ∧
        IsGreatest (insert DBL_MIN {p | p ∈ [(-1 : ℝ)]}) h.getMaxValue ∧
        Monotone h.sum ∧ ∀ b, 0 ≤ h.sum b ∧ h.sum b ≤ h.total := by
  have wide : 0 < (2 : UInt8).toNat := by decide
  have finite : ∀ p ∈ [(-1 : ℝ)], |p| ≤ DBL_MAX := by
    simpa using one_le_DBL_MAX
  have spread : ∀ p ∈ [(-1 : ℝ)], ∀ q ∈ [(-1 : ℝ)], q - p < DBL_MAX := by
    simpa using zero_lt_one.trans_le one_le_DBL_MAX
  exact ⟨wide, List.cons_ne_nil _ _, finite, spread,
    run_max_includes_dbl_min 2 wide [-1] (List.cons_ne_nil _ _) finite spread⟩

end Histogram

end Peloton.Optimizer
