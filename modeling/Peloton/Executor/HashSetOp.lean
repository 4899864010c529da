import Peloton.Executor.LogicalTile

set_option autoImplicit false

namespace Peloton.Executor

open Peloton.Type

inductive SetOpType where
  | INTERSECT
  | INTERSECT_ALL
  | EXCEPT
  | EXCEPT_ALL
  deriving DecidableEq, Repr

structure CounterPair where
  left : Nat
  right : Nat
  deriving DecidableEq, Repr

-- CalculateCopies: the number of copies of a key the output keeps, stored in the left counter.
def CalculateCopies : SetOpType → CounterPair → CounterPair
  | .INTERSECT, c => { c with left := if 0 < c.right then 1 else 0 }
  | .INTERSECT_ALL, c => { c with left := min c.left c.right }
  | .EXCEPT, c => { c with left := if 0 < c.right then 0 else 1 }
  | .EXCEPT_ALL, c => { c with left := if c.right < c.left then c.left - c.right else 0 }

namespace HashSetOpExecutor

variable {V : Type} [SqlType V] (stdHash : HashInput → UInt64)

abbrev Key (V : Type) := (Nat × Nat) × List V

def keyHash (key : Key V) : UInt64 := ContainerTuple.HashCode stdHash key.2

def keyEqual (a b : Key V) : Bool := ContainerTuple.EqualsNoSchemaCheck a.2 b.2

def keyOf (tiles : List (LogicalTile V)) (tileIdx id : Nat) : Key V :=
  ((tileIdx, id), (tiles[tileIdx]?.map (·.GetRow id)).getD [])

def visibleLocations (tiles : List (LogicalTile V)) : List (Nat × Nat) :=
  tiles.zipIdx.flatMap fun entry => entry.1.visibleIds.map fun id => (entry.2, id)

def countLeft (tiles : List (LogicalTile V)) (table : List (Key V × CounterPair)) :
    List (Key V × CounterPair) :=
  (visibleLocations tiles).foldl (fun table location =>
    HashTable.upsert (keyHash stdHash) keyEqual table (keyOf tiles location.1 location.2) ⟨0, 0⟩
      fun c => { c with left := c.left + 1 }) table

def countRight (rightTiles : List (LogicalTile V)) (table : List (Key V × CounterPair)) :
    List (Key V × CounterPair) :=
  (visibleLocations rightTiles).foldl (fun table location =>
    HashTable.modify (keyHash stdHash) keyEqual table (keyOf rightTiles location.1 location.2)
      fun c => { c with right := c.right + 1 }) table

def firstRound (tiles : List (LogicalTile V)) (table : List (Key V × CounterPair)) :
    List (LogicalTile V) × List (Key V × CounterPair) :=
  (visibleLocations tiles).foldl (fun acc location =>
    let key := keyOf tiles location.1 location.2
    match HashTable.find? (keyHash stdHash) keyEqual acc.2 key with
    | none => acc
    | some (representative, counters) =>
      if representative.1 = location then acc
      else if 0 < counters.left then
        (acc.1, HashTable.modify (keyHash stdHash) keyEqual acc.2 key
          fun c => { c with left := c.left - 1 })
      else (acc.1.modify location.1 (·.RemoveVisibility location.2), acc.2)) (tiles, table)

def secondRound (tiles : List (LogicalTile V)) (table : List (Key V × CounterPair)) :
    List (LogicalTile V) :=
  table.foldl (fun tiles entry =>
    if entry.2.left = 0 then tiles.modify entry.1.1.1 (·.RemoveVisibility entry.1.1.2)
    else tiles) tiles

-- ExecuteHelper followed by the DExecute calls: the left tiles, edited in place, that still
-- show a row.
def execute (setOp : SetOpType) (leftTiles rightTiles : List (LogicalTile V)) :
    List (LogicalTile V) :=
  if leftTiles.isEmpty then []
  else
    let table := countRight stdHash rightTiles (countLeft stdHash leftTiles [])
    let table := table.map fun entry => (entry.1, CalculateCopies setOp entry.2)
    let first := firstRound stdHash leftTiles table
    (secondRound first.1 first.2).filter fun tile => 0 < tile.GetTupleCount

def outputRows (setOp : SetOpType) (leftTiles rightTiles : List (LogicalTile V)) : List (List V) :=
  (execute stdHash setOp leftTiles rightTiles).flatMap LogicalTile.visibleRows

def singleRowTile (row : List V) : LogicalTile V := ⟨[(row, true)]⟩

omit [SqlType V] in
@[simp] theorem keyOf_singleRowTile (row : List V) :
    keyOf [singleRowTile row] 0 0 = ((0, 0), row) := rfl

theorem firstRound_singleRowTile (row : List V) (c : CounterPair) :
    firstRound stdHash [singleRowTile row] [(((0, 0), row), c)] =
      ([singleRowTile row], [(((0, 0), row), c)]) := by
  have locations : visibleLocations [singleRowTile row] = [(0, 0)] := rfl
  simp only [firstRound, locations, List.foldl_cons, List.foldl_nil, keyOf_singleRowTile]
  split
  next => rfl
  next representative counters found =>
    -- the only entry is the representative, met at its own location
    have stored : (representative, counters) = (((0, 0), row), c) :=
      List.mem_singleton.1 (List.mem_of_find?_eq_some found)
    simp [(Prod.mk.inj stored).1]

theorem outputRows_intersect_singleRowTile (a b : List V) :
    outputRows stdHash .INTERSECT [singleRowTile a] [singleRowTile b] =
      if ContainerTuple.HashCode stdHash a == ContainerTuple.HashCode stdHash b &&
          ContainerTuple.EqualsNoSchemaCheck b a then [a] else [] := by
  have counted : countLeft stdHash [singleRowTile a] [] = [(((0, 0), a), ⟨1, 0⟩)] := rfl
  have matched : countRight stdHash [singleRowTile b] [(((0, 0), a), ⟨1, 0⟩)] =
      [(((0, 0), a), ⟨1, if ContainerTuple.HashCode stdHash a == ContainerTuple.HashCode stdHash b &&
          ContainerTuple.EqualsNoSchemaCheck b a then 1 else 0⟩)] := by
    show HashTable.modify _ _ _ _ _ = _
    simp only [HashTable.modify]
    split <;> simp_all [HashTable.Matches, keyHash, keyEqual]
  simp only [outputRows, execute, List.isEmpty_cons, Bool.false_eq_true, if_false, counted,
    matched, List.map_cons, List.map_nil, CalculateCopies, firstRound_singleRowTile]
  split <;> simp [secondRound, singleRowTile, LogicalTile.GetTupleCount, LogicalTile.visibleIds,
    LogicalTile.RemoveVisibility, LogicalTile.visibleRows, LogicalTile.GetRow]

end HashSetOpExecutor

def sqlCopies : SetOpType → Nat → Nat → Nat
  | .INTERSECT, l, r => if 0 < l ∧ 0 < r then 1 else 0
  | .INTERSECT_ALL, l, r => min l r
  | .EXCEPT, l, r => if 0 < l ∧ r = 0 then 1 else 0
  | .EXCEPT_ALL, l, r => l - r

def sqlSetOp {V : Type} [DecidableEq V] (setOp : SetOpType) (left right : List (List V)) :
    List (List V) :=
  left.dedup.flatMap fun row =>
    List.replicate (sqlCopies setOp (left.count row) (right.count row)) row

theorem calculateCopies_left (setOp : SetOpType) (l r : Nat) (met : 0 < l) :
    (CalculateCopies setOp ⟨l, r⟩).left = sqlCopies setOp l r := by
  cases setOp with
  | INTERSECT => simp [CalculateCopies, sqlCopies, met]
  | INTERSECT_ALL => rfl
  | EXCEPT =>
    by_cases none : r = 0
    · simp [CalculateCopies, sqlCopies, met, none]
    · simp [CalculateCopies, sqlCopies, none, Nat.pos_of_ne_zero none]
  | EXCEPT_ALL =>
    simp only [CalculateCopies, sqlCopies]
    split <;> omega

-- A NULL VARCHAR hashes as its ToString, the text 'varlen_null', and a comparison with a NULL is
-- never a difference: the NULL row finds the text row's key and the intersection keeps it.
theorem hashSetOp_intersects_null_with_text (stdHash : HashInput → UInt64) :
    HashSetOpExecutor.outputRows stdHash .INTERSECT
        [HashSetOpExecutor.singleRowTile [VarlenValue.null]]
        [HashSetOpExecutor.singleRowTile [⟨some "varlen_null"⟩]] = [[VarlenValue.null]] ∧
      sqlSetOp .INTERSECT [[VarlenValue.null]] [[⟨some "varlen_null"⟩]] = [] := by
  have sameHash : ContainerTuple.HashCode stdHash [VarlenValue.null] =
      ContainerTuple.HashCode stdHash [(⟨some "varlen_null"⟩ : VarlenValue)] := rfl
  have equal : ContainerTuple.EqualsNoSchemaCheck [(⟨some "varlen_null"⟩ : VarlenValue)]
      [VarlenValue.null] = true := by decide
  refine ⟨?_, by decide⟩
  rw [HashSetOpExecutor.outputRows_intersect_singleRowTile, sameHash, equal]
  simp

end Peloton.Executor
