import Mathlib

set_option autoImplicit false

namespace Peloton.Optimizer

-- depth rows of width uint64_t cells; eps, gamma and row_hash are never read by Add, Remove or
-- EstimateItemCount, so they are left out.
structure CountMinSketch (I : Type) where
  depth : Nat
  width : Int32
  size : UInt64
  table : List (List UInt64)
  -- MurmurHash3_x64_128(item, seed) as the header declares it: an int32_t. The int64 and the
  -- string overloads are this one function on a sum of the two item types.
  murmur : I → UInt32 → Int32

namespace CountMinSketch

variable {I : Type}

def UINT64_MAX : UInt64 := 18446744073709551615

def cAbs (r : Int32) : Int32 := if r < 0 then -r else r

def init (depth : Nat) (width : Int32) (murmur : I → UInt32 → Int32) : CountMinSketch I :=
  { depth := depth, width := width, size := 0,
    table := List.replicate depth (List.replicate width.toInt.toNat 0), murmur := murmur }

def getHashBins (s : CountMinSketch I) (item : I) : List Int32 :=
  let h1 := s.murmur item 0
  let h2 := s.murmur item h1.toUInt32
  (List.range s.depth).map fun i => cAbs ((h1 + Int32.ofNat i * h2) % s.width)

def cell (table : List (List UInt64)) (i j : Nat) : UInt64 := (table.getD i []).getD j 0

def setCell (table : List (List UInt64)) (i j : Nat) (value : UInt64) : List (List UInt64) :=
  table.modify i (fun row => row.set j value)

def binAt (bins : List Int32) (i : Nat) : Nat := (bins.getD i 0).toInt.toNat

def addRow (bins : List Int32) (count : Int32) (acc : UInt64 × List (List UInt64)) (i : Nat) :
    UInt64 × List (List UInt64) :=
  let c := cell acc.2 i (binAt bins i)
  (min c acc.1, setCell acc.2 i (binAt bins i) (c + UInt64.ofInt count.toInt))

def add (s : CountMinSketch I) (item : I) (count : Int32) : CountMinSketch I :=
  let loop := (List.range s.depth).foldl (addRow (s.getHashBins item) count) (UINT64_MAX, s.table)
  { s with table := loop.2, size := if loop.1 = 0 then s.size + 1 else s.size }

def removeRow (bins : List Int32) (count : UInt32) (acc : UInt64 × UInt64 × List (List UInt64))
    (i : Nat) : UInt64 × UInt64 × List (List UInt64) :=
  let c := cell acc.2.2 i (binAt bins i)
  let c' := if c > count.toUInt64 then c - count.toUInt64 else 0
  (min c acc.1, min acc.2.1 c', setCell acc.2.2 i (binAt bins i) c')

def remove (s : CountMinSketch I) (item : I) (count : UInt32) : CountMinSketch I :=
  let loop := (List.range s.depth).foldl (removeRow (s.getHashBins item) count)
    (UINT64_MAX, UINT64_MAX, s.table)
  { s with
    table := loop.2.2
    size := if loop.1 ≠ 0 ∧ loop.2.1 = 0 then s.size - 1 else s.size }

def estimateItemCount (s : CountMinSketch I) (item : I) : UInt64 :=
  let bins := s.getHashBins item
  (List.range s.depth).foldl (fun count i => min count (cell s.table i (binAt bins i))) UINT64_MAX

section Table

def Shaped (table : List (List UInt64)) (depth width : Nat) : Prop :=
  table.length = depth ∧ ∀ row ∈ table, row.length = width

theorem shaped_replicate (depth width : Nat) :
    Shaped (List.replicate depth (List.replicate width 0)) depth width := by
  simp [Shaped]

@[simp] theorem cell_replicate (depth width i j : Nat) :
    cell (List.replicate depth (List.replicate width 0)) i j = 0 := by
  simp only [cell, List.getD_eq_getElem?_getD, List.getElem?_replicate]
  by_cases row : i < depth <;> by_cases col : j < width <;> simp [row, col]

theorem Shaped.setCell {table : List (List UInt64)} {depth width : Nat}
    (shaped : Shaped table depth width) (i j : Nat) (value : UInt64) :
    Shaped (setCell table i j value) depth width := by
  refine ⟨by simp [CountMinSketch.setCell, shaped.1], fun row mem => ?_⟩
  obtain ⟨k, lt, rfl⟩ := List.getElem_of_mem mem
  simp only [CountMinSketch.setCell, List.getElem_modify]
  split
  · simpa using shaped.2 _ (List.getElem_mem _)
  · exact shaped.2 _ (List.getElem_mem _)

theorem cell_setCell {table : List (List UInt64)} {depth width : Nat}
    (shaped : Shaped table depth width) {i j : Nat} (hi : i < depth) (hj : j < width)
    (value : UInt64) (i' j' : Nat) :
    cell (setCell table i j value) i' j' = if i' = i ∧ j' = j then value else cell table i' j' := by
  have row : ∀ r, table[i]? = some r → r.length = width := fun r some =>
    shaped.2 r (List.mem_of_getElem? some)
  simp only [cell, CountMinSketch.setCell, List.getD_eq_getElem?_getD, List.getElem?_modify]
  by_cases same : i' = i
  · subst same
    have inside : i' < table.length := by rw [shaped.1]; exact hi
    obtain ⟨r, some⟩ : ∃ r, table[i']? = some r := ⟨table[i'], List.getElem?_eq_getElem inside⟩
    simp only [some, Option.map_eq_map, Option.map_some, Option.getD_some, List.getElem?_set,
      true_and, if_true]
    have len := row r some
    by_cases col : j' = j
    · subst col; simp [len, hj]
    · simp [col, Ne.symm col]
  · simp [same, Ne.symm same]

theorem foldl_addRow_table (bins : List Int32) (count : Int32) :
    ∀ (rows : List Nat) (acc : UInt64 × List (List UInt64)),
      (rows.foldl (addRow bins count) acc).2 = rows.foldl
        (fun t i => setCell t i (binAt bins i) (cell t i (binAt bins i) + UInt64.ofInt count.toInt))
        acc.2
  | [], _ => rfl
  | _ :: rest, _ => foldl_addRow_table bins count rest _

theorem foldl_removeRow_table (bins : List Int32) (count : UInt32) :
    ∀ (rows : List Nat) (acc : UInt64 × UInt64 × List (List UInt64)),
      (rows.foldl (removeRow bins count) acc).2.2 = rows.foldl
        (fun t i => setCell t i (binAt bins i)
          (if cell t i (binAt bins i) > count.toUInt64 then
            cell t i (binAt bins i) - count.toUInt64 else 0))
        acc.2.2
  | [], _ => rfl
  | _ :: rest, _ => foldl_removeRow_table bins count rest _

theorem foldl_update_rows {depth width : Nat} (col : Nat → Nat) (cols : ∀ i < depth, col i < width)
    (update : UInt64 → UInt64) (rows : List Nat) (nodup : rows.Nodup)
    (inside : ∀ i ∈ rows, i < depth) :
    ∀ table, Shaped table depth width →
      Shaped (rows.foldl (fun t i => setCell t i (col i) (update (cell t i (col i)))) table)
          depth width ∧
        ∀ i' j', cell (rows.foldl (fun t i => setCell t i (col i) (update (cell t i (col i)))) table)
            i' j' = if i' ∈ rows ∧ j' = col i' then update (cell table i' j') else cell table i' j' := by
  induction rows with
  | nil => exact fun table shaped => ⟨shaped, fun i' j' => by simp⟩
  | cons r rest ih =>
    intro table shaped
    have ⟨fresh, distinct⟩ := List.nodup_cons.mp nodup
    have hr := inside r List.mem_cons_self
    have step := cell_setCell shaped hr (cols r hr) (update (cell table r (col r)))
    obtain ⟨shaped', cells⟩ := ih distinct (fun i mem => inside i (List.mem_cons_of_mem r mem)) _
      (shaped.setCell r (col r) _)
    refine ⟨shaped', fun i' j' => ?_⟩
    rw [List.foldl_cons, cells, step]
    -- row r is written by this iteration only, since it does not come again
    by_cases same : i' = r
    · subst same
      by_cases column : j' = col i'
      · subst column
        simp [fresh]
      · simp [fresh, column]
    · simp [same]

end Table

section Bins

theorem cAbs_mod_range (x w : Int32) (wide : 0 < w.toInt) :
    0 ≤ (cAbs (x % w)).toInt ∧ (cAbs (x % w)).toInt < w.toInt := by
  have rem : (x % w).toInt = x.toInt.tmod w.toInt := Int32.toInt_mod x w
  have below := Int.tmod_lt_of_pos x.toInt wide
  have above := Int.lt_tmod_of_pos x.toInt wide
  have narrow := w.toInt_lt
  unfold cAbs
  split
  next negative =>
    rw [Int32.lt_iff_toInt_lt, rem] at negative
    rw [Int32.toInt_neg, rem, Int.bmod_eq_of_le (by simp at negative ⊢; omega) (by omega)]
    simp at negative
    omega
  next nonnegative =>
    rw [Int32.lt_iff_toInt_lt, rem] at nonnegative
    rw [rem]
    simp at nonnegative
    omega

variable {I : Type}

theorem getHashBins_range (s : CountMinSketch I) (wide : 0 < s.width.toInt) (item : I) :
    ∀ b ∈ s.getHashBins item, 0 ≤ b.toInt ∧ b.toInt < s.width.toInt := by
  intro b mem
  obtain ⟨i, -, rfl⟩ := List.mem_map.mp mem
  exact cAbs_mod_range _ _ wide

theorem binAt_lt (s : CountMinSketch I) (wide : 0 < s.width.toInt) (item : I) {i : Nat}
    (row : i < s.depth) : binAt (s.getHashBins item) i < s.width.toInt.toNat := by
  have len : i < (s.getHashBins item).length := by simpa [getHashBins] using row
  have range := getHashBins_range s wide item _ (List.getElem_mem len)
  simp only [binAt, List.getD_eq_getElem?_getD, List.getElem?_eq_getElem len, Option.getD_some]
  omega

end Bins

section Operations

variable {I : Type} (s : CountMinSketch I) (item : I)

@[simp] theorem add_depth (count : Int32) : (s.add item count).depth = s.depth := rfl
@[simp] theorem add_width (count : Int32) : (s.add item count).width = s.width := rfl
@[simp] theorem getHashBins_add (count : Int32) :
    (s.add item count).getHashBins = s.getHashBins := rfl
@[simp] theorem remove_depth (count : UInt32) : (s.remove item count).depth = s.depth := rfl
@[simp] theorem remove_width (count : UInt32) : (s.remove item count).width = s.width := rfl
@[simp] theorem getHashBins_remove (count : UInt32) :
    (s.remove item count).getHashBins = s.getHashBins := rfl

variable {s} (shaped : Shaped s.table s.depth s.width.toInt.toNat) (wide : 0 < s.width.toInt)
include shaped wide

theorem cell_add (count : Int32) :
    Shaped (s.add item count).table s.depth s.width.toInt.toNat ∧
      ∀ i j, cell (s.add item count).table i j =
        if i ∈ List.range s.depth ∧ j = binAt (s.getHashBins item) i then
          cell s.table i j + UInt64.ofInt count.toInt
        else cell s.table i j := by
  rw [add, foldl_addRow_table]
  exact foldl_update_rows (fun i => binAt (s.getHashBins item) i)
    (fun _ row => binAt_lt s wide item row) (fun c => c + UInt64.ofInt count.toInt)
    (List.range s.depth) List.nodup_range (fun _ mem => List.mem_range.mp mem) s.table shaped

theorem cell_remove (count : UInt32) :
    Shaped (s.remove item count).table s.depth s.width.toInt.toNat ∧
      ∀ i j, cell (s.remove item count).table i j =
        if i ∈ List.range s.depth ∧ j = binAt (s.getHashBins item) i then
          (if cell s.table i j > count.toUInt64 then cell s.table i j - count.toUInt64 else 0)
        else cell s.table i j := by
  have loop := foldl_update_rows (fun i => binAt (s.getHashBins item) i)
    (fun _ row => binAt_lt s wide item row)
    (fun c => if c > count.toUInt64 then c - count.toUInt64 else 0)
    (List.range s.depth) List.nodup_range (fun _ mem => List.mem_range.mp mem) s.table shaped
  rw [remove, foldl_removeRow_table]
  exact loop

end Operations

section Tracking

variable {I : Type} [DecidableEq I]

omit [DecidableEq I] in
theorem countP_replicate (p : I → Prop) [DecidablePred p] (n : Nat) (a : I) :
    (Multiset.replicate n a).countP p = if p a then n else 0 := by
  induction n with
  | zero => simp
  | succ n ih => rw [Multiset.replicate_succ, Multiset.countP_cons, ih]; split <;> simp

theorem count_le_countP (p : I → Prop) [DecidablePred p] {x : I} (px : p x) (m : Multiset I) :
    m.count x ≤ m.countP p := by
  rw [← Multiset.count_filter_of_pos px, Multiset.countP_eq_card_filter]
  exact Multiset.count_le_card x _

theorem toNat_ofInt_of_pos (count : Int32) (positive : 0 < count.toInt) :
    (UInt64.ofInt count.toInt).toNat = count.toInt.toNat := by
  have small : count.toInt < 2 ^ 64 := by have := count.toInt_lt; omega
  have mod : count.toInt % 2 ^ 64 = count.toInt := Int.emod_eq_of_lt (by omega) small
  rw [UInt64.ofInt, UInt64.toNat_ofNat', mod]
  omega

omit [DecidableEq I] in
theorem le_foldl_min (b : Nat) (f : Nat → UInt64) :
    ∀ (rows : List Nat) (start : UInt64), b ≤ start.toNat → (∀ i ∈ rows, b ≤ (f i).toNat) →
      b ≤ (rows.foldl (fun c i => min c (f i)) start).toNat
  | [], _, low, _ => low
  | i :: rest, start, low, cells => by
    have both : (min start (f i)).toNat = min start.toNat (f i).toNat := UInt64.toNat_min start (f i)
    refine le_foldl_min b f rest _ ?_ (fun j mem => cells j (List.mem_cons_of_mem i mem))
    rw [both]
    exact le_min low (cells i List.mem_cons_self)

/-- The sketch against the multiset m of items added and not removed: each cell of row i holds
exactly the number of items of m that row i hashes to it. -/
structure Tracks (s : CountMinSketch I) (m : Multiset I) : Prop where
  shaped : Shaped s.table s.depth s.width.toInt.toNat
  exact : ∀ i < s.depth, ∀ j < s.width.toInt.toNat,
    (cell s.table i j).toNat = m.countP (fun x => binAt (s.getHashBins x) i = j)
  bounded : Multiset.card m < 2 ^ 64

variable {s : CountMinSketch I} {m : Multiset I} (wide : 0 < s.width.toInt)
include wide

omit [DecidableEq I] in
theorem Tracks.add (tracks : Tracks s m) (item : I) (count : Int32) (positive : 0 < count.toInt)
    (room : Multiset.card m + count.toInt.toNat < 2 ^ 64) :
    Tracks (s.add item count) (m + Multiset.replicate count.toInt.toNat item) := by
  obtain ⟨shaped, cells⟩ := cell_add item tracks.shaped wide count
  refine ⟨by simpa using shaped, fun i row j col => ?_, by simpa using room⟩
  have load := tracks.exact i row j col
  have fits : Multiset.countP (fun x => binAt (s.getHashBins x) i = j) m ≤ Multiset.card m :=
    Multiset.countP_le_card _ _
  simp only [add_depth, add_width] at row col
  show (cell (s.add item count).table i j).toNat =
    (m + Multiset.replicate count.toInt.toNat item).countP (fun x => binAt (s.getHashBins x) i = j)
  rw [cells, Multiset.countP_add, countP_replicate]
  by_cases hit : j = binAt (s.getHashBins item) i
  · rw [if_pos ⟨List.mem_range.mpr row, hit⟩, if_pos hit.symm, UInt64.toNat_add,
      toNat_ofInt_of_pos count positive, load, Nat.mod_eq_of_lt (by omega)]
  · rw [if_neg (fun both => hit both.2), if_neg (Ne.symm hit), load, Nat.add_zero]

theorem Tracks.remove (tracks : Tracks s m) (item : I) (count : UInt32)
    (present : count.toNat ≤ m.count item) :
    Tracks (s.remove item count) (m - Multiset.replicate count.toNat item) := by
  obtain ⟨shaped, cells⟩ := cell_remove item tracks.shaped wide count
  have removed : Multiset.replicate count.toNat item ≤ m :=
    Multiset.le_count_iff_replicate_le.mp present
  refine ⟨by simpa using shaped, fun i row j col => ?_, ?_⟩
  · have load := tracks.exact i row j col
    simp only [remove_depth, remove_width] at row col
    show (cell (s.remove item count).table i j).toNat =
      (m - Multiset.replicate count.toNat item).countP (fun x => binAt (s.getHashBins x) i = j)
    rw [cells, Multiset.countP_sub removed, countP_replicate]
    by_cases hit : j = binAt (s.getHashBins item) i
    · -- the cell holds at least the item's own count, so the clamp at zero never cuts deeper
      have atLeast : count.toNat ≤ (cell s.table i j).toNat := by
        rw [load]
        exact present.trans (count_le_countP _ (by exact hit.symm) m)
      rw [if_pos ⟨List.mem_range.mpr row, hit⟩, if_pos hit.symm, ← load]
      split
      next more =>
        rw [UInt64.toNat_sub_of_le _ _ (UInt64.le_of_lt more)]
        rfl
      next notMore =>
        rw [gt_iff_lt, UInt64.lt_iff_toNat_lt] at notMore
        simp only [UInt32.toNat_toUInt64] at notMore atLeast ⊢
        simp only [UInt64.toNat_zero]
        omega
    · rw [if_neg (fun both => hit both.2), if_neg (Ne.symm hit), load, Nat.sub_zero]
  · calc Multiset.card (m - Multiset.replicate count.toNat item)
        ≤ Multiset.card m := Multiset.card_le_card (Multiset.sub_le_self _ _)
      _ < 2 ^ 64 := tracks.bounded

theorem Tracks.count_le_estimate (tracks : Tracks s m) (x : I) :
    m.count x ≤ (s.estimateItemCount x).toNat := by
  have rows : ∀ i ∈ List.range s.depth,
      m.count x ≤ (cell s.table i (binAt (s.getHashBins x) i)).toNat := by
    intro i mem
    have row := List.mem_range.mp mem
    rw [tracks.exact i row _ (binAt_lt s wide x row)]
    exact count_le_countP _ (by rfl) m
  have start : m.count x ≤ UINT64_MAX.toNat := by
    have := Multiset.count_le_card x m
    have := tracks.bounded
    have max : UINT64_MAX.toNat = 2 ^ 64 - 1 := rfl
    omega
  exact le_foldl_min _ _ _ _ start rows

end Tracking

inductive SketchOp (I : Type) where
  | add (item : I) (count : Int32)
  | remove (item : I) (count : UInt32)

section Runs

variable {I : Type}

def apply (s : CountMinSketch I) : SketchOp I → CountMinSketch I
  | .add item count => s.add item count
  | .remove item count => s.remove item count

def run (s : CountMinSketch I) (ops : List (SketchOp I)) : CountMinSketch I := ops.foldl apply s

def trueCounts [DecidableEq I] (m : Multiset I) : SketchOp I → Multiset I
  | .add item count => m + Multiset.replicate count.toInt.toNat item
  | .remove item count => m - Multiset.replicate count.toNat item

def trueRun [DecidableEq I] (m : Multiset I) (ops : List (SketchOp I)) : Multiset I :=
  ops.foldl trueCounts m

def validOp [DecidableEq I] (m : Multiset I) : SketchOp I → Prop
  | .add _ count => 0 < count.toInt
  | .remove item count => count.toNat ≤ m.count item

def ValidRun [DecidableEq I] : Multiset I → List (SketchOp I) → Prop
  | _, [] => True
  | m, op :: ops => validOp m op ∧ ValidRun (trueCounts m op) ops

def addedCount : List (SketchOp I) → Nat
  | [] => 0
  | .add _ count :: ops => count.toInt.toNat + addedCount ops
  | .remove _ _ :: ops => addedCount ops

@[simp] theorem apply_depth (s : CountMinSketch I) (op : SketchOp I) :
    (s.apply op).depth = s.depth := by cases op <;> rfl
@[simp] theorem apply_width (s : CountMinSketch I) (op : SketchOp I) :
    (s.apply op).width = s.width := by cases op <;> rfl
@[simp] theorem getHashBins_apply (s : CountMinSketch I) (op : SketchOp I) :
    (s.apply op).getHashBins = s.getHashBins := by cases op <;> rfl

theorem run_fixed (s : CountMinSketch I) (ops : List (SketchOp I)) :
    (s.run ops).depth = s.depth ∧ (s.run ops).width = s.width ∧
      (s.run ops).getHashBins = s.getHashBins := by
  induction ops generalizing s with
  | nil => exact ⟨rfl, rfl, rfl⟩
  | cons op rest ih =>
    obtain ⟨depth, width, bins⟩ := ih (s.apply op)
    exact ⟨by rw [run, List.foldl_cons, ← run, depth, apply_depth],
      by rw [run, List.foldl_cons, ← run, width, apply_width],
      by rw [run, List.foldl_cons, ← run, bins, getHashBins_apply]⟩

variable [DecidableEq I]

theorem Tracks.run {s : CountMinSketch I} (wide : 0 < s.width.toInt) :
    ∀ (ops : List (SketchOp I)) {m : Multiset I}, Tracks s m → ValidRun m ops →
      Multiset.card m + addedCount ops < 2 ^ 64 → Tracks (s.run ops) (trueRun m ops) := by
  intro ops
  induction ops generalizing s with
  | nil => exact fun tracks _ _ => tracks
  | cons op rest ih =>
    intro m tracks valid room
    obtain ⟨now, later⟩ := valid
    cases op with
    | add item count =>
      have room' : Multiset.card m + count.toInt.toNat + addedCount rest < 2 ^ 64 := by
        simp only [addedCount] at room
        omega
      have added : Multiset.card (trueCounts m (.add item count)) =
          Multiset.card m + count.toInt.toNat := by
        simp [trueCounts]
      exact ih (by simpa using wide) (tracks.add wide item count now (by omega)) later
        (by rw [added]; exact room')
    | remove item count =>
      have shrink : Multiset.card (trueCounts m (.remove item count)) ≤ Multiset.card m :=
        Multiset.card_le_card (Multiset.sub_le_self _ _)
      exact ih (by simpa using wide) (tracks.remove wide item count now) later
        (by simp only [addedCount] at room; omega)

omit [DecidableEq I] in
theorem tracks_init (depth : Nat) (width : Int32) (murmur : I → UInt32 → Int32) :
    Tracks (init depth width murmur) 0 :=
  ⟨shaped_replicate depth width.toInt.toNat,
    fun i _ j _ => by simp [init, cell_replicate], by simp⟩

theorem estimateItemCount_ge_true_count (depth : Nat) (width : Int32)
    (murmur : I → UInt32 → Int32) (wide : 0 < width.toInt) (ops : List (SketchOp I))
    (valid : ValidRun 0 ops) (noWrap : addedCount ops < 2 ^ 64) :
    (∀ x, (trueRun 0 ops).count x ≤
        (((init depth width murmur).run ops).estimateItemCount x).toNat) ∧
      ∀ item, ∀ b ∈ ((init depth width murmur).run ops).getHashBins item,
        0 ≤ b.toInt ∧ b.toInt < width.toInt := by
  obtain ⟨-, sameWidth, -⟩ := run_fixed (init depth width murmur) ops
  have wide' : 0 < ((init depth width murmur).run ops).width.toInt := by
    rw [sameWidth]
    exact wide
  have tracks := Tracks.run wide ops (tracks_init depth width murmur) valid (by simpa using noWrap)
  refine ⟨fun x => tracks.count_le_estimate wide' x, fun item b mem => ?_⟩
  have range := getHashBins_range _ wide' item b mem
  rw [sameWidth] at range
  exact range

end Runs

def addTwiceRemoveOnce : List (SketchOp ℕ) := [.add 7 2, .remove 7 1]

theorem estimateItemCount_ge_true_count_of_add_remove :
    0 < (3 : Int32).toInt ∧ ValidRun 0 addTwiceRemoveOnce ∧ addedCount addTwiceRemoveOnce < 2 ^ 64 ∧
      (∀ x, (trueRun 0 addTwiceRemoveOnce).count x ≤
          (((init 2 3 (fun x seed => Int32.ofNat (x + seed.toNat))).run
            addTwiceRemoveOnce).estimateItemCount x).toNat) ∧
        ∀ item, ∀ b ∈ ((init 2 3 (fun x seed => Int32.ofNat (x + seed.toNat))).run
            addTwiceRemoveOnce).getHashBins item, 0 ≤ b.toInt ∧ b.toInt < (3 : Int32).toInt := by
  have wide : 0 < (3 : Int32).toInt := by decide
  have valid : ValidRun 0 addTwiceRemoveOnce := by
    simp [ValidRun, validOp, trueCounts, addTwiceRemoveOnce]
  have added : addedCount addTwiceRemoveOnce < 2 ^ 64 := by decide
  exact ⟨wide, valid, added, estimateItemCount_ge_true_count 2 3 _ wide _ valid added⟩

section Wrap

variable {I : Type}

@[simp] theorem init_depth (depth : Nat) (width : Int32) (murmur : I → UInt32 → Int32) :
    (init depth width murmur).depth = depth := rfl

@[simp] theorem init_width (depth : Nat) (width : Int32) (murmur : I → UInt32 → Int32) :
    (init depth width murmur).width = width := rfl

theorem run_append_single (s : CountMinSketch I) (ops : List (SketchOp I)) (op : SketchOp I) :
    s.run (ops ++ [op]) = (s.run ops).apply op := by
  rw [run, List.foldl_append]
  rfl

theorem estimateItemCount_of_depth_one (s : CountMinSketch I) (one : s.depth = 1) (x : I) :
    s.estimateItemCount x = min UINT64_MAX (cell s.table 0 (binAt (s.getHashBins x) 0)) := by
  unfold estimateItemCount
  rw [one]
  rfl

theorem binAt_of_width_one (s : CountMinSketch I) (depth : s.depth = 1) (width : s.width = 1)
    (x : I) : binAt (s.getHashBins x) 0 = 0 := by
  have wide : 0 < s.width.toInt := by rw [width]; decide
  have column := binAt_lt s wide x (by rw [depth]; exact Nat.one_pos)
  have one : (1 : Int32).toInt.toNat = 1 := by decide
  rw [width, one] at column
  omega

theorem addedCount_replicate_add (x : I) (count : Int32) :
    ∀ n : Nat, addedCount (List.replicate n (.add x count)) = n * count.toInt.toNat
  | 0 => by simp [addedCount]
  | n + 1 => by
    rw [List.replicate_succ, addedCount, addedCount_replicate_add x count n]
    ring

theorem cell_run_replicate_add (murmur : I → UInt32 → Int32) (x : I) :
    ∀ n : Nat, Shaped ((init 1 1 murmur).run (List.replicate n (.add x 1))).table 1 1 ∧
      cell ((init 1 1 murmur).run (List.replicate n (.add x 1))).table 0 0 = UInt64.ofNat n := by
  have one : (1 : Int32).toInt.toNat = 1 := by decide
  intro n
  induction n with
  | zero =>
    refine ⟨?_, ?_⟩
    · have shaped := shaped_replicate 1 (1 : Int32).toInt.toNat
      rw [one] at shaped
      exact shaped
    · exact cell_replicate 1 _ 0 0
  | succ n ih =>
    obtain ⟨shaped, value⟩ := ih
    obtain ⟨depth, width, -⟩ := run_fixed (init 1 1 murmur) (List.replicate n (.add x 1))
    rw [init_depth] at depth
    rw [init_width] at width
    rw [List.replicate_succ', run_append_single]
    generalize (init 1 1 murmur).run (List.replicate n (.add x 1)) = t at shaped value depth width ⊢
    have wide : 0 < t.width.toInt := by rw [width]; decide
    have shaped' : Shaped t.table t.depth t.width.toInt.toNat := by
      rw [depth, width, one]; exact shaped
    obtain ⟨shapedNext, cells⟩ := cell_add x shaped' wide 1
    refine ⟨by rw [depth, width, one] at shapedNext; exact shapedNext, ?_⟩
    show cell (t.add x 1).table 0 0 = _
    rw [cells, if_pos ⟨by simp [depth], (binAt_of_width_one t depth width x).symm⟩, value,
      UInt64.ofNat_add]
    rfl

variable [DecidableEq I]

theorem validRun_replicate_add (x : I) (count : Int32) (positive : 0 < count.toInt) :
    ∀ (n : Nat) (m : Multiset I), ValidRun m (List.replicate n (.add x count))
  | 0, _ => trivial
  | n + 1, _ => ⟨positive, validRun_replicate_add x count positive n _⟩

theorem trueRun_replicate_add (x : I) (count : Int32) :
    ∀ (n : Nat) (m : Multiset I), trueRun m (List.replicate n (.add x count)) =
      m + Multiset.replicate (n * count.toInt.toNat) x
  | 0, m => by simp [trueRun]
  | n + 1, m => by
    rw [List.replicate_succ, trueRun, List.foldl_cons, ← trueRun, trueRun_replicate_add x count n,
      trueCounts, add_assoc, ← Multiset.replicate_add]
    congr 2
    ring

theorem estimateItemCount_zero_after_two_pow_64_adds :
    ValidRun 0 (List.replicate (2 ^ 64) (SketchOp.add (0 : ℕ) 1)) ∧
      addedCount (List.replicate (2 ^ 64) (SketchOp.add (0 : ℕ) 1)) = 2 ^ 64 ∧
      (trueRun 0 (List.replicate (2 ^ 64) (SketchOp.add (0 : ℕ) 1))).count 0 = 2 ^ 64 ∧
      ((init 1 1 (fun (_ : ℕ) (_ : UInt32) => (0 : Int32))).run
        (List.replicate (2 ^ 64) (SketchOp.add 0 1))).estimateItemCount 0 = 0 := by
  have one : (1 : Int32).toInt.toNat = 1 := by decide
  refine ⟨validRun_replicate_add 0 1 (by decide) _ _, ?_, ?_, ?_⟩
  · rw [addedCount_replicate_add, one, Nat.mul_one]
  · rw [trueRun_replicate_add, one, Nat.mul_one, zero_add, Multiset.count_replicate_self]
  · -- the run is never unfolded: only its one cell, counted modulo 2^64, is read
    generalize hash : (fun (_ : ℕ) (_ : UInt32) => (0 : Int32)) = murmur
    obtain ⟨-, value⟩ := cell_run_replicate_add murmur 0 (2 ^ 64)
    obtain ⟨depth, width, -⟩ := run_fixed (init 1 1 murmur) (List.replicate (2 ^ 64) (.add 0 1))
    rw [init_depth] at depth
    rw [init_width] at width
    generalize (init 1 1 murmur).run (List.replicate (2 ^ 64) (.add 0 1)) = t at value depth width ⊢
    rw [estimateItemCount_of_depth_one t depth, binAt_of_width_one t depth width, value]
    decide

end Wrap

end CountMinSketch

end Peloton.Optimizer
