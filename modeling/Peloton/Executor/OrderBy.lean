import Peloton.Executor.LogicalTile

set_option autoImplicit false

namespace Peloton.Executor

open Peloton.Type

variable {V : Type} [SqlType V]

def TupleComparer : List Bool → List V → List V → Bool
  | descend :: descendFlags, va :: ta, vb :: tb =>
    if !descend then
      if Value.CompareLessThan va vb = .CmpTrue then true
      else if Value.CompareGreaterThan va vb = .CmpTrue then false
      else TupleComparer descendFlags ta tb
    else
      if Value.CompareLessThan vb va = .CmpTrue then true
      else if Value.CompareGreaterThan vb va = .CmpTrue then false
      else TupleComparer descendFlags ta tb
  | _, _, _ => false

theorem tupleComparer_of_null (descend : Bool) (descendFlags : List Bool) {va vb : V}
    (ta tb : List V) (null : SqlType.IsNull va = true ∨ SqlType.IsNull vb = true) :
    TupleComparer (descend :: descendFlags) (va :: ta) (vb :: tb) =
      TupleComparer descendFlags ta tb := by
  have swapped : SqlType.IsNull vb = true ∨ SqlType.IsNull va = true := null.symm
  cases descend <;>
    simp [TupleComparer, Value.CompareLessThan, Value.CompareGreaterThan,
      Value.compareWith_ne_cmpTrue_of_null _ _ _ null,
      Value.compareWith_ne_cmpTrue_of_null _ _ _ swapped]

-- An entry of sort_buffer_: where the row is (tile id, tuple id) and its sort-key tuple.
structure SortBufferEntry (V : Type) where
  itemPointer : Nat × Nat
  tuple : List V

def sortBufferOf (inputTiles : List (LogicalTile V)) (sortKeys : List Nat) :
    List (SortBufferEntry V) :=
  inputTiles.zipIdx.flatMap fun entry =>
    entry.1.visibleIds.map fun tupleId =>
      ⟨(entry.2, tupleId), project (entry.1.GetRow tupleId) sortKeys⟩

-- DoSort after the child is drained.
def DoSort (sort : (SortBufferEntry V → SortBufferEntry V → Bool) →
      List (SortBufferEntry V) → List (SortBufferEntry V))
    (underlingOrdered : Bool) (descendFlags : List Bool) (sortKeys : List Nat)
    (inputTiles : List (LogicalTile V)) : List (SortBufferEntry V) :=
  let buffer := sortBufferOf inputTiles sortKeys
  if buffer.length = 0 then []
  else if underlingOrdered then buffer
  else sort (fun a b => TupleComparer descendFlags a.tuple b.tuple) buffer

omit [SqlType V] in
theorem sortBufferOf_rows (inputTiles : List (LogicalTile V)) (sortKeys : List Nat) :
    (sortBufferOf inputTiles sortKeys).map
        (fun entry => LogicalTile.rowAt inputTiles entry.itemPointer.1 entry.itemPointer.2) =
      inputTiles.flatMap LogicalTile.visibleRows := by
  have pointsBack : ∀ entry ∈ inputTiles.zipIdx,
      (entry.1.visibleIds.map fun tupleId =>
          (⟨(entry.2, tupleId), project (entry.1.GetRow tupleId) sortKeys⟩ : SortBufferEntry V)).map
        (fun entry => LogicalTile.rowAt inputTiles entry.itemPointer.1 entry.itemPointer.2) =
        entry.1.visibleRows := by
    rintro ⟨tile, tileId⟩ mem
    simp [LogicalTile.rowAt_of_mem_zipIdx mem, LogicalTile.visibleRows]
  rw [sortBufferOf, List.map_flatMap, List.flatMap_congr pointsBack,
    ← List.flatMap_map Prod.fst, List.zipIdx_map_fst]

structure OrderByExecutor (V : Type) where
  inputTiles : List (LogicalTile V)
  sortBuffer : List (SortBufferEntry V)
  numTuplesReturned : Nat

namespace OrderByExecutor

variable (tuplesPerTileGroup : Nat) (outputColumnIds : List Nat)

def outputRow (e : OrderByExecutor V) (entry : SortBufferEntry V) : List V :=
  project (LogicalTile.rowAt e.inputTiles entry.itemPointer.1 entry.itemPointer.2) outputColumnIds

-- DExecute once the sort is done: the next min(DEFAULT_TUPLES_PER_TILEGROUP, rows left) rows
-- of the sort buffer, each read back from its input tile and projected on output_column_ids_.
def DExecute (e : OrderByExecutor V) : Option (List (List V)) × OrderByExecutor V :=
  if e.numTuplesReturned < e.sortBuffer.length then
    let tileSize := min tuplesPerTileGroup (e.sortBuffer.length - e.numTuplesReturned)
    (some (((e.sortBuffer.drop e.numTuplesReturned).take tileSize).map
        (outputRow outputColumnIds e)),
      { e with numTuplesReturned := e.numTuplesReturned + tileSize })
  else (none, e)

def run : Nat → OrderByExecutor V → List (List (List V)) × Bool
  | 0, _ => ([], false)
  | fuel + 1, e =>
    match DExecute tuplesPerTileGroup outputColumnIds e with
    | (none, _) => ([], true)
    | (some tile, e') => ((run fuel e').1.cons tile, (run fuel e').2)

def init (sort : (SortBufferEntry V → SortBufferEntry V → Bool) →
      List (SortBufferEntry V) → List (SortBufferEntry V))
    (underlingOrdered : Bool) (descendFlags : List Bool) (sortKeys : List Nat)
    (inputTiles : List (LogicalTile V)) : OrderByExecutor V :=
  ⟨inputTiles, DoSort sort underlingOrdered descendFlags sortKeys inputTiles, 0⟩

omit [SqlType V] in
@[simp] theorem outputRow_numTuplesReturned (e : OrderByExecutor V) (n : Nat) :
    outputRow outputColumnIds { e with numTuplesReturned := n } = outputRow outputColumnIds e :=
  rfl

omit [SqlType V] in
theorem run_emits (positive : 0 < tuplesPerTileGroup) (fuel : Nat) (e : OrderByExecutor V)
    (enough : e.sortBuffer.length - e.numTuplesReturned < fuel) :
    (run tuplesPerTileGroup outputColumnIds fuel e).2 = true ∧
      (run tuplesPerTileGroup outputColumnIds fuel e).1.flatten =
        (e.sortBuffer.drop e.numTuplesReturned).map (outputRow outputColumnIds e) := by
  induction fuel generalizing e with
  | zero => omega
  | succ fuel ih =>
    by_cases left : e.numTuplesReturned < e.sortBuffer.length
    · -- one tile of at least one row, then the run of the advanced executor
      obtain ⟨finished, rest⟩ := ih ⟨e.inputTiles, e.sortBuffer, e.numTuplesReturned +
        min tuplesPerTileGroup (e.sortBuffer.length - e.numTuplesReturned)⟩ (by dsimp only; omega)
      rw [outputRow_numTuplesReturned] at rest
      refine ⟨by simpa [run, DExecute, left] using finished, ?_⟩
      simp only [run, DExecute, left, if_true, List.flatten_cons, rest]
      rw [← List.map_append, ← List.drop_drop, List.take_append_drop]
    · have done : (e.sortBuffer.drop e.numTuplesReturned) = [] := by simp; omega
      simp [run, DExecute, left, done]

-- With a std::sort that permutes the buffer, the rows emitted over all DExecute calls are the
-- input's visible rows projected on output_column_ids_, each once.
theorem run_init_perm
    (sort : (SortBufferEntry V → SortBufferEntry V → Bool) →
      List (SortBufferEntry V) → List (SortBufferEntry V))
    (permutes : ∀ comp buffer, (sort comp buffer).Perm buffer) (positive : 0 < tuplesPerTileGroup)
    (underlingOrdered : Bool) (descendFlags : List Bool) (sortKeys : List Nat)
    (inputTiles : List (LogicalTile V)) :
    ∃ fuel tiles, run tuplesPerTileGroup outputColumnIds fuel
        (init sort underlingOrdered descendFlags sortKeys inputTiles) = (tiles, true) ∧
      tiles.flatten.Perm
        ((inputTiles.flatMap LogicalTile.visibleRows).map (project · outputColumnIds)) := by
  set e := init sort underlingOrdered descendFlags sortKeys inputTiles
  have sorted : e.sortBuffer.Perm (sortBufferOf inputTiles sortKeys) := by
    simp only [e, init, DoSort]
    split
    next => simp_all
    next =>
      split
      · rfl
      · exact permutes _ _
  obtain ⟨finished, emitted⟩ :=
    run_emits tuplesPerTileGroup outputColumnIds positive (e.sortBuffer.length + 1) e (by omega)
  refine ⟨e.sortBuffer.length + 1, _, Prod.ext rfl finished, ?_⟩
  rw [emitted, ← sortBufferOf_rows inputTiles sortKeys, List.map_map]
  exact sorted.map _

theorem run_init_perm_of_merge_sort :
    ∃ fuel tiles, run 2 [0] fuel (init (fun comp buffer => buffer.mergeSort comp) false [false] [0]
        [⟨[([⟨3⟩], true), ([⟨1⟩], false)]⟩, ⟨[([⟨2⟩], true)]⟩]) = (tiles, true) ∧
      tiles.flatten.Perm
        (([⟨[([⟨3⟩], true), ([⟨1⟩], false)]⟩, ⟨[([⟨2⟩], true)]⟩] : List (LogicalTile IntegerValue)).flatMap
          LogicalTile.visibleRows |>.map (project · [0])) :=
  run_init_perm 2 [0] _ (fun comp buffer => List.mergeSort_perm buffer comp) (by decide) false [false] [0] _

end OrderByExecutor

def integerSortKeys : List (List IntegerValue) := [[⟨1⟩], [IntegerValue.null], [⟨2⟩]]

-- (1) and (2) are both incomparable with (NULL) but (1) is below (2): incomparability is not
-- transitive, which std::sort requires of its comparator.
theorem tupleComparer_not_strict_weak_order :
    ¬ IsStrictWeakOrder {key : List IntegerValue // key ∈ integerSortKeys}
      (fun a b => TupleComparer [false] a.1 b.1 = true) := by
  intro order
  have undecided (v : IntegerValue) :
      TupleComparer [false] [v] [IntegerValue.null] = false ∧
        TupleComparer [false] [IntegerValue.null] [v] = false :=
    ⟨by rw [tupleComparer_of_null false [] [] [] (.inr rfl)]; rfl,
      by rw [tupleComparer_of_null false [] [] [] (.inl rfl)]; rfl⟩
  have incomparable := order.incomp_trans ⟨[⟨1⟩], by decide⟩ ⟨[IntegerValue.null], by decide⟩
    ⟨[⟨2⟩], by decide⟩ (by simp [(undecided _).1, (undecided _).2])
    (by simp [(undecided _).1, (undecided _).2])
  exact incomparable.1 (by decide)

end Peloton.Executor
