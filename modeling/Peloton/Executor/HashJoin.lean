import Peloton.Executor.AbstractJoin

set_option autoImplicit false

namespace Peloton.Executor

open Peloton.Type

variable {V : Type} [SqlType V]

abbrev HashTableOf (V : Type) := List (List V × (List V × List (Nat × Nat)))

section HashExecutor

variable (stdHash : HashInput → UInt64) (columnIds : List Nat)

def hashTile (outputIdx : Nat) (tile : LogicalTile V) (table : HashTableOf V) :
    LogicalTile V × HashTableOf V :=
  tile.visibleIds.foldl (fun acc id =>
    let key := project (acc.1.GetRow id) columnIds
    let tile' := if (ContainerTuple.find? stdHash acc.2 key).isSome then acc.1.RemoveVisibility id
      else acc.1
    (tile', HashTable.upsert (ContainerTuple.HashCode stdHash) ContainerTuple.EqualsNoSchemaCheck
      acc.2 key (acc.1.GetRow id, []) fun bucket => (bucket.1, bucket.2 ++ [(outputIdx, id)])))
    (tile, table)

-- HashExecutor::DExecute's build: the tiles it will return (the child tiles that had rows,
-- output_tile_itrs_) and the table over them.
def HashExecutor.build (childTiles : List (LogicalTile V)) : List (LogicalTile V) × HashTableOf V :=
  childTiles.foldl (fun acc tile =>
    if 0 < tile.GetTupleCount then
      let hashed := hashTile stdHash columnIds acc.1.length tile acc.2
      (acc.1 ++ [hashed.1], hashed.2)
    else acc) ([], [])

end HashExecutor

structure HashJoinPlan (V : Type) where
  joinType : JoinType
  leftHashKeys : List Nat
  -- The join predicate; none is a NULL result, which IsFalse does not reject.
  predicate : Option (List V → List V → Option Bool)

structure HashJoinExecutor (V : Type) where
  leftChild : List (LogicalTile V)
  rightChild : List (LogicalTile V)
  hashTable : HashTableOf V
  bufferedOutputTiles : List (List (JoinRow V))
  leftChildDone : Bool
  rightChildDone : Bool
  join : JoinState V

-- The output tiles of one left tile under construction: the right tile of the last location,
-- the rows of the tile being built and the finished tiles.
structure ProbeState (V : Type) where
  prevTile : Option Nat
  rows : List (JoinRow V)
  finished : List (List (JoinRow V))
  join : JoinState V

namespace HashJoinExecutor

variable (stdHash : HashInput → UInt64) (plan : HashJoinPlan V)

def flush (p : ProbeState V) : List (List (JoinRow V)) :=
  if p.rows.isEmpty then p.finished else p.finished ++ [p.rows]

def joinLocation (leftRow : List V) (p : ProbeState V) (location : Nat × Nat) : ProbeState V :=
  let p := if p.prevTile = some location.1 then p
    else { p with rows := [], finished := flush p }
  { p with
    rows := p.rows ++ [(some leftRow, some (JoinState.rowOf p.join.rightResultTiles location.1
      location.2))]
    join := p.join.RecordMatchedRightRow plan.joinType location.1 location.2
    prevTile := some location.1 }

def predicateRejects (leftRow first : List V) : Bool :=
  match plan.predicate with
  | none => false
  | some predicate => predicate leftRow first == some false

def joinRow (table : HashTableOf V) (leftTile : LogicalTile V) (leftIdx : Nat) (p : ProbeState V)
    (id : Nat) : ProbeState V :=
  let leftRow := leftTile.GetRow id
  match ContainerTuple.find? stdHash table (project leftRow plan.leftHashKeys) with
  | none => p
  | some (_, first, locations) =>
    if predicateRejects plan leftRow first then p
    else
      locations.foldl (joinLocation plan leftRow)
        { p with join := p.join.RecordMatchedLeftRow plan.joinType leftIdx id }

def joinTile (table : HashTableOf V) (leftTile : LogicalTile V) (join : JoinState V) :
    List (List (JoinRow V)) × JoinState V :=
  let p := leftTile.visibleIds.foldl (joinRow stdHash plan table leftTile
    (join.leftResultTiles.length - 1)) ⟨none, [], [], join⟩
  (flush p, p.join)

def outerOutput (e : HashJoinExecutor V) : Option (List (JoinRow V)) × HashJoinExecutor V :=
  let r := e.join.BuildOuterJoinOutput plan.joinType
  (r.1, { e with join := r.2 })

def bufferRightChild (e : HashJoinExecutor V) : HashJoinExecutor V :=
  if e.rightChildDone then e
  else { e with
    join := e.rightChild.foldl (JoinState.BufferRightTile plan.joinType) e.join
    rightChild := []
    rightChildDone := true }

def pullLeft (e : HashJoinExecutor V) :
    List (LogicalTile V) → Option (List (JoinRow V)) × HashJoinExecutor V
  | [] => outerOutput plan { e with leftChild := [], leftChildDone := true }
  | leftTile :: rest =>
    let e' := { e with leftChild := rest, join := e.join.BufferLeftTile plan.joinType leftTile }
    if e'.join.rightResultTiles.isEmpty then outerOutput plan e'
    else
      let joined := joinTile stdHash plan e'.hashTable leftTile e'.join
      match joined.1 with
      | tile :: rest' => (some tile, { e' with bufferedOutputTiles := rest', join := joined.2 })
      | [] => pullLeft { e' with join := joined.2 } rest

-- HashJoinExecutor::DExecute.
def DExecute (e : HashJoinExecutor V) : Option (List (JoinRow V)) × HashJoinExecutor V :=
  match e.bufferedOutputTiles with
  | tile :: rest => (some tile, { e with bufferedOutputTiles := rest })
  | [] =>
    if e.leftChildDone then outerOutput plan e
    else pullLeft stdHash plan (bufferRightChild plan e) e.leftChild

def init (hashKeys : List Nat) (leftTiles rightTiles : List (LogicalTile V)) : HashJoinExecutor V :=
  let hashed := HashExecutor.build stdHash hashKeys rightTiles
  ⟨leftTiles, hashed.1, hashed.2, [], false, false, JoinState.empty⟩

def run : Nat → HashJoinExecutor V → List (List (JoinRow V)) × Bool
  | 0, _ => ([], false)
  | fuel + 1, e =>
    match DExecute stdHash plan e with
    | (none, _) => ([], true)
    | (some tile, e') => ((run fuel e').1.cons tile, (run fuel e').2)

section Refinement

variable (stdHash : HashInput → UInt64) (plan : HashJoinPlan V)

def bucketRows (table : HashTableOf V) (rightTiles : List (LogicalTile V)) (leftRow : List V) :
    List (JoinRow V) :=
  match ContainerTuple.find? stdHash table (project leftRow plan.leftHashKeys) with
  | none => []
  | some (_, first, locations) =>
    if predicateRejects plan leftRow first then []
    else locations.map fun location =>
      (some leftRow, some (JoinState.rowOf rightTiles location.1 location.2))

def probeRows (table : HashTableOf V) (rightTiles : List (LogicalTile V)) (leftTile : LogicalTile V) :
    List (JoinRow V) :=
  leftTile.visibleRows.flatMap (bucketRows stdHash plan table rightTiles)

theorem bucketRows_of_find? {table : HashTableOf V} {rightTiles : List (LogicalTile V)}
    {leftRow : List V} {key first : List V} {locations : List (Nat × Nat)}
    (found : ContainerTuple.find? stdHash table (project leftRow plan.leftHashKeys) =
      some (key, first, locations))
    (accepted : predicateRejects plan leftRow first = false) :
    bucketRows stdHash plan table rightTiles leftRow = locations.map fun location =>
      (some leftRow, some (JoinState.rowOf rightTiles location.1 location.2)) := by
  simp [bucketRows, found, accepted]

def emitted (p : ProbeState V) : List (JoinRow V) := p.finished.flatten ++ p.rows

omit [SqlType V] in
theorem flatten_flush (p : ProbeState V) : (flush p).flatten = emitted p := by
  unfold flush emitted
  split
  · next empty => simp [List.isEmpty_iff.mp empty]
  · simp

omit [SqlType V] in
theorem joinLocation_emitted (leftRow : List V) (p : ProbeState V) (location : Nat × Nat) :
    emitted (joinLocation plan leftRow p location) =
      emitted p ++ [(some leftRow, some (JoinState.rowOf p.join.rightResultTiles location.1
        location.2))] := by
  unfold joinLocation
  split
  · simp [emitted]
  · simp [emitted, flatten_flush]

omit [SqlType V] in
@[simp] theorem joinLocation_rightResultTiles (leftRow : List V) (p : ProbeState V)
    (location : Nat × Nat) :
    (joinLocation plan leftRow p location).join.rightResultTiles = p.join.rightResultTiles := by
  unfold joinLocation
  split <;> simp

omit [SqlType V] in
theorem foldl_joinLocation (leftRow : List V) (locations : List (Nat × Nat)) (p : ProbeState V) :
    emitted (locations.foldl (joinLocation plan leftRow) p) =
        emitted p ++ locations.map (fun location =>
          (some leftRow, some (JoinState.rowOf p.join.rightResultTiles location.1 location.2))) ∧
      (locations.foldl (joinLocation plan leftRow) p).join.rightResultTiles =
        p.join.rightResultTiles := by
  induction locations generalizing p with
  | nil => simp
  | cons location rest ih =>
    obtain ⟨rows, tiles⟩ := ih (joinLocation plan leftRow p location)
    simp only [List.foldl_cons, rows, tiles, joinLocation_emitted, joinLocation_rightResultTiles,
      List.map_cons, List.append_assoc, List.singleton_append, and_self]

theorem joinRow_emitted (table : HashTableOf V) (leftTile : LogicalTile V) (leftIdx : Nat)
    (p : ProbeState V) (id : Nat) :
    emitted (joinRow stdHash plan table leftTile leftIdx p id) =
        emitted p ++ bucketRows stdHash plan table p.join.rightResultTiles (leftTile.GetRow id) ∧
      (joinRow stdHash plan table leftTile leftIdx p id).join.rightResultTiles =
        p.join.rightResultTiles := by
  unfold joinRow bucketRows
  cases found : ContainerTuple.find? stdHash table (project (leftTile.GetRow id) plan.leftHashKeys) with
  | none => simp [found]
  | some entry =>
    obtain ⟨_, first, locations⟩ := entry
    by_cases rejected : predicateRejects plan (leftTile.GetRow id) first
    · simp [found, rejected]
    · obtain ⟨rows, tiles⟩ := foldl_joinLocation plan (leftTile.GetRow id) locations
        { p with join := p.join.RecordMatchedLeftRow plan.joinType leftIdx id }
      simp only [found, rejected, Bool.false_eq_true, if_false, rows, tiles,
        JoinState.recordMatchedLeftRow_rightResultTiles, and_true]
      rfl

theorem joinTile_rows (table : HashTableOf V) (leftTile : LogicalTile V) (join : JoinState V) :
    (joinTile stdHash plan table leftTile join).1.flatten =
        probeRows stdHash plan table join.rightResultTiles leftTile ∧
      (joinTile stdHash plan table leftTile join).2.rightResultTiles = join.rightResultTiles := by
  -- The fold over the visible ids keeps emitted = the rows of the ids visited so far.
  have fold : ∀ (ids : List Nat) (p : ProbeState V),
      emitted (ids.foldl (joinRow stdHash plan table leftTile (join.leftResultTiles.length - 1)) p) =
          emitted p ++ ids.flatMap (fun id =>
            bucketRows stdHash plan table p.join.rightResultTiles (leftTile.GetRow id)) ∧
        (ids.foldl (joinRow stdHash plan table leftTile (join.leftResultTiles.length - 1)) p).join.rightResultTiles =
          p.join.rightResultTiles := by
    intro ids
    induction ids with
    | nil => simp
    | cons id rest ih =>
      intro p
      obtain ⟨rows, tiles⟩ := joinRow_emitted stdHash plan table leftTile
        (join.leftResultTiles.length - 1) p id
      obtain ⟨rows', tiles'⟩ := ih (joinRow stdHash plan table leftTile
        (join.leftResultTiles.length - 1) p id)
      simp only [List.foldl_cons, rows', tiles', rows, tiles, List.flatMap_cons, List.append_assoc,
        and_self]
  obtain ⟨rows, tiles⟩ := fold leftTile.visibleIds ⟨none, [], [], join⟩
  refine ⟨?_, tiles⟩
  simp only [joinTile, flatten_flush, rows, probeRows, LogicalTile.visibleRows, List.flatMap_map]
  simp [emitted]

def pendingRows (rightTiles : List (LogicalTile V)) (e : HashJoinExecutor V) : List (JoinRow V) :=
  e.bufferedOutputTiles.flatten ++
    if e.leftChildDone then [] else e.leftChild.flatMap (probeRows stdHash plan e.hashTable rightTiles)

omit [SqlType V] in
theorem bufferRightChild_of_done (e : HashJoinExecutor V) (done : e.rightChildDone = true) :
    bufferRightChild plan e = e := by
  simp [bufferRightChild, done]

section Inner

variable {plan} (inner : plan.joinType = .INNER) {rightTiles : List (LogicalTile V)}
  (nonempty : rightTiles ≠ [])
include inner nonempty

theorem pullLeft_inner (tiles : List (LogicalTile V)) (e : HashJoinExecutor V)
    (rightTilesOf : e.join.rightResultTiles = rightTiles) (running : e.leftChildDone = false)
    (empty : e.bufferedOutputTiles = []) :
    ((pullLeft stdHash plan e tiles).1 = none ∧
        tiles.flatMap (probeRows stdHash plan e.hashTable rightTiles) = []) ∨
      ∃ tile e', pullLeft stdHash plan e tiles = (some tile, e') ∧
        e'.join.rightResultTiles = rightTiles ∧ e'.rightChildDone = e.rightChildDone ∧
        e'.leftChildDone = false ∧ e'.hashTable = e.hashTable ∧
        e'.leftChild.length < tiles.length ∧
        tile ++ pendingRows stdHash plan rightTiles e' =
          tiles.flatMap (probeRows stdHash plan e.hashTable rightTiles) := by
  induction tiles generalizing e with
  | nil => left; simp [pullLeft, outerOutput, inner]
  | cons leftTile rest ih =>
    obtain ⟨rows, tilesOf⟩ := joinTile_rows stdHash plan e.hashTable leftTile
      (e.join.BufferLeftTile plan.joinType leftTile)
    rw [JoinState.bufferLeftTile_rightResultTiles, rightTilesOf] at rows tilesOf
    cases joined : (joinTile stdHash plan e.hashTable leftTile
        (e.join.BufferLeftTile plan.joinType leftTile)).1 with
    | cons tile rest' =>
      -- The tile's first output tile is returned at once; the others wait in the buffer.
      right
      refine ⟨tile,
        { e with
          leftChild := rest
          bufferedOutputTiles := rest'
          join := (joinTile stdHash plan e.hashTable leftTile
            (e.join.BufferLeftTile plan.joinType leftTile)).2 },
        ?_, tilesOf, rfl, running, rfl, by simp, ?_⟩
      · simp [pullLeft, rightTilesOf, nonempty, joined]
      · rw [joined, List.flatten_cons] at rows
        simp [pendingRows, running, ← rows]
    | nil =>
      -- A left tile that joins nothing: the loop goes on with the next one.
      rw [joined, List.flatten_nil] at rows
      have next : pullLeft stdHash plan e (leftTile :: rest) = pullLeft stdHash plan
          { e with
            leftChild := rest
            join := (joinTile stdHash plan e.hashTable leftTile
              (e.join.BufferLeftTile plan.joinType leftTile)).2 } rest := by
        simp [pullLeft, rightTilesOf, nonempty, joined]
      rcases ih { e with
          leftChild := rest
          join := (joinTile stdHash plan e.hashTable leftTile
            (e.join.BufferLeftTile plan.joinType leftTile)).2 } tilesOf running empty with ⟨none, flat⟩ | ⟨tile, e', step, tiles', right, done,
        table, shorter, sum⟩
      · left
        exact ⟨next ▸ none, by simp [← rows, flat]⟩
      · right
        refine ⟨tile, e', next ▸ step, tiles', right, done, table, by simp at shorter ⊢; omega, ?_⟩
        simp [sum, ← rows]

theorem run_pending (e : HashJoinExecutor V) (right : e.rightChildDone = true)
    (rightTilesOf : e.join.rightResultTiles = rightTiles) :
    ∃ fuel tiles, run stdHash plan fuel e = (tiles, true) ∧
      tiles.flatten = pendingRows stdHash plan rightTiles e := by
  cases buffered : e.bufferedOutputTiles with
  | cons tile rest =>
    obtain ⟨fuel, tiles, ran, flat⟩ :=
      run_pending { e with bufferedOutputTiles := rest } right rightTilesOf
    refine ⟨fuel + 1, tile :: tiles, ?_, ?_⟩
    · simp [run, DExecute, buffered, ran]
    · simp [pendingRows, buffered, flat] at flat ⊢
  | nil =>
    by_cases done : e.leftChildDone
    · exact ⟨1, [], by simp [run, DExecute, buffered, done, outerOutput, inner],
        by simp [pendingRows, buffered, done]⟩
    · have running : e.leftChildDone = false := by simpa using done
      have first : DExecute stdHash plan e = pullLeft stdHash plan e e.leftChild := by
        simp [DExecute, buffered, running, bufferRightChild_of_done plan e right]
      rcases pullLeft_inner stdHash inner nonempty e.leftChild e rightTilesOf running buffered with
        ⟨none, flat⟩ | ⟨tile, e', step, tiles', right', done', table, shorter, sum⟩
      · refine ⟨1, [], ?_, by simp [pendingRows, buffered, running, flat]⟩
        rw [run, first]
        cases pulled : pullLeft stdHash plan e e.leftChild with
        | mk out e' => simp only [pulled] at none; simp [none]
      · obtain ⟨fuel, tiles, ran, flat⟩ := run_pending e' (right'.trans right) tiles'
        refine ⟨fuel + 1, tile :: tiles, ?_, ?_⟩
        · simp [run, first, step, ran]
        · simp [pendingRows, buffered, running, ← sum, flat, table]
termination_by (e.leftChild.length, e.bufferedOutputTiles.length)
decreasing_by
  · apply Prod.Lex.left
    assumption
  · apply Prod.Lex.right
    simp_all

theorem run_init_inner (hashKeys : List Nat) (leftTiles rightTiles' : List (LogicalTile V))
    (built : (HashExecutor.build stdHash hashKeys rightTiles').1 = rightTiles) :
    ∃ fuel tiles, run stdHash plan fuel (init stdHash hashKeys leftTiles rightTiles') = (tiles, true) ∧
      tiles.flatten = leftTiles.flatMap
        (probeRows stdHash plan (HashExecutor.build stdHash hashKeys rightTiles').2 rightTiles) := by
  have right : (bufferRightChild plan (init stdHash hashKeys leftTiles rightTiles')).rightChildDone =
      true := by
    simp [bufferRightChild, init]
  have rightTilesOf :
      (bufferRightChild plan (init stdHash hashKeys leftTiles rightTiles')).join.rightResultTiles =
        rightTiles := by
    simp [bufferRightChild, init, JoinState.foldl_bufferRightTile_rightResultTiles,
      JoinState.empty, built]
  -- The first call buffers the right child; from there the run is the one of the buffered state.
  have first : DExecute stdHash plan (init stdHash hashKeys leftTiles rightTiles') =
      DExecute stdHash plan (bufferRightChild plan (init stdHash hashKeys leftTiles rightTiles')) := by
    simp [DExecute, init, bufferRightChild]
  obtain ⟨fuel, tiles, ran, flat⟩ := run_pending stdHash inner nonempty _ right rightTilesOf
  cases fuel with
  | zero => simp [run] at ran
  | succ fuel =>
    refine ⟨fuel + 1, tiles, ?_, ?_⟩
    · rw [run, first, ← ran, run]
    · simp [flat, pendingRows, bufferRightChild, init]

end Inner

end Refinement

end HashJoinExecutor

def sqlKeysMatch (l r : List V) : Bool :=
  l.length == r.length && (l.zip r).all fun p => Value.CompareEquals p.1 p.2 == .CmpTrue

def sqlMatches (plan : HashJoinPlan V) (hashKeys : List Nat) (l r : List V) : Bool :=
  sqlKeysMatch (project l plan.leftHashKeys) (project r hashKeys) &&
    match plan.predicate with
    | none => true
    | some predicate => predicate l r == some true

def sqlJoin (plan : HashJoinPlan V) (hashKeys : List Nat) (left right : List (List V)) :
    List (JoinRow V) :=
  left.flatMap (fun l => (right.filter (sqlMatches plan hashKeys l)).map fun r => (some l, some r)) ++
    (if JoinState.tracksLeft plan.joinType then
      (left.filter fun l => !right.any (sqlMatches plan hashKeys l)).map fun l => (some l, none)
    else []) ++
    (if JoinState.tracksRight plan.joinType then
      (right.filter fun r => !left.any fun l => sqlMatches plan hashKeys l r).map
        fun r => (none, some r)
    else [])

def nullKeyTile : LogicalTile IntegerValue := ⟨[([IntegerValue.null], true)]⟩

def innerJoinOnFirstColumn : HashJoinPlan IntegerValue := ⟨.INNER, [0], none⟩

theorem build_nullKeyTile (stdHash : HashInput → UInt64) :
    HashExecutor.build stdHash [0] [nullKeyTile] =
      ([nullKeyTile], [([IntegerValue.null], [IntegerValue.null], [(0, 0)])]) := by
  simp [HashExecutor.build, hashTile, nullKeyTile, LogicalTile.GetTupleCount,
    LogicalTile.visibleIds, ContainerTuple.find?, HashTable.upsert, project, LogicalTile.GetRow]

-- Whatever std::hash does, the NULL keys find each other's bucket and the join emits the pair,
-- where SQL equality of NULLs is unknown and the SQL join is empty.
theorem hashJoin_joins_null_keys (stdHash : HashInput → UInt64) :
    (∃ fuel tiles, HashJoinExecutor.run stdHash innerJoinOnFirstColumn fuel
        (HashJoinExecutor.init stdHash [0] [nullKeyTile] [nullKeyTile]) = (tiles, true) ∧
      tiles.flatten = [(some [IntegerValue.null], some [IntegerValue.null])]) ∧
    sqlJoin innerJoinOnFirstColumn [0] nullKeyTile.visibleRows nullKeyTile.visibleRows = [] := by
  have key : project [IntegerValue.null] innerJoinOnFirstColumn.leftHashKeys =
      [IntegerValue.null] := rfl
  have found : ContainerTuple.find? stdHash [([IntegerValue.null], [IntegerValue.null], [(0, 0)])]
      (project [IntegerValue.null] innerJoinOnFirstColumn.leftHashKeys) =
        some ([IntegerValue.null], [IntegerValue.null], [(0, 0)]) := by
    rw [key]
    exact ContainerTuple.find?_self stdHash _ _ (by decide)
  obtain ⟨fuel, tiles, ran, flat⟩ := HashJoinExecutor.run_init_inner stdHash
    (show innerJoinOnFirstColumn.joinType = .INNER from rfl)
    (by simp : [nullKeyTile] ≠ []) [0] [nullKeyTile] [nullKeyTile]
    (by rw [build_nullKeyTile])
  refine ⟨⟨fuel, tiles, ran, ?_⟩, by decide⟩
  have rows : nullKeyTile.visibleRows = [[IntegerValue.null]] := rfl
  rw [flat, build_nullKeyTile, List.flatMap_singleton, HashJoinExecutor.probeRows, rows,
    List.flatMap_singleton, HashJoinExecutor.bucketRows_of_find? stdHash _ found rfl]
  rfl

end Peloton.Executor
