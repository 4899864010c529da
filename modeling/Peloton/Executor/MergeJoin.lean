import Peloton.Executor.AbstractJoin

set_option autoImplicit false

namespace Peloton.Executor

open Peloton.Type

variable {V : Type} [SqlType V]

-- A join clause: the expressions that read its key from a left and from a right tuple.
structure JoinClause (V : Type) where
  left : List V → V
  right : List V → V

structure MergeJoinPlan (V : Type) where
  joinType : JoinType
  joinClauses : List (JoinClause V)
  -- The join predicate; none is a NULL result, which IsFalse does not reject.
  predicate : Option (List V → List V → Option Bool)

-- The children's tiles still to come, the run cursors [start, end) into the last buffered tile
-- of each side, and the bookkeeping of AbstractJoinExecutor.
structure MergeJoinExecutor (V : Type) where
  leftChild : List (LogicalTile V)
  rightChild : List (LogicalTile V)
  leftChildDone : Bool
  rightChildDone : Bool
  leftStartRow : Nat
  leftEndRow : Nat
  rightStartRow : Nat
  rightEndRow : Nat
  join : JoinState V

-- The state of the while loop of DExecute over one pair of tiles.
structure MergeLoop (V : Type) where
  leftStartRow : Nat
  leftEndRow : Nat
  rightStartRow : Nat
  rightEndRow : Nat
  rows : List (JoinRow V)
  join : JoinState V

namespace MergeJoinExecutor

variable (plan : MergeJoinPlan V)

def keyOf (isLeft : Bool) (clause : JoinClause V) : List V → V :=
  if isLeft then clause.left else clause.right

def sameKey (isLeft : Bool) (this next : List V) : Bool :=
  plan.joinClauses.all fun clause =>
    Value.CompareEquals (keyOf isLeft clause this) (keyOf isLeft clause next) = .CmpTrue

def advanceRun (isLeft : Bool) (tile : LogicalTile V) : Nat → Nat → Nat → Nat
  | 0, _, endRow => endRow
  | fuel + 1, thisRow, endRow =>
    if sameKey plan isLeft (tile.GetRow thisRow) (tile.GetRow endRow) then
      advanceRun isLeft tile fuel endRow (endRow + 1)
    else endRow

-- Advance: the end of the run of rows that start at startRow.
def Advance (tile : LogicalTile V) (startRow : Nat) (isLeft : Bool) : Nat :=
  if tile.GetTupleCount ≤ startRow then startRow
  else advanceRun plan isLeft tile (tile.GetTupleCount - startRow - 1) startRow (startRow + 1)

def clauseOrder (l r : List V) : List (JoinClause V) → Option Bool
  | [] => none
  | clause :: rest =>
    if Value.CompareLessThan (clause.left l) (clause.right r) = .CmpTrue then some true
    else if Value.CompareGreaterThan (clause.left l) (clause.right r) = .CmpTrue then some false
    else clauseOrder l r rest

def predicateFalse (l r : List V) : Bool :=
  match plan.predicate with
  | none => false
  | some predicate => predicate l r == some false

section Loop

variable (leftTile rightTile : LogicalTile V) (leftIdx rightIdx : Nat)

def advanceLeft (p : MergeLoop V) : MergeLoop V :=
  { p with leftStartRow := p.leftEndRow, leftEndRow := Advance plan leftTile p.leftEndRow true }

def advanceRight (p : MergeLoop V) : MergeLoop V :=
  { p with
    rightStartRow := p.rightEndRow
    rightEndRow := Advance plan rightTile p.rightEndRow false }

def addRow (p : MergeLoop V) (l r : Nat) : MergeLoop V :=
  { p with
    rows := p.rows ++ [(some (leftTile.GetRow l), some (rightTile.GetRow r))]
    join := (p.join.RecordMatchedLeftRow plan.joinType leftIdx l).RecordMatchedRightRow
      plan.joinType rightIdx r }

def product (p : MergeLoop V) : MergeLoop V :=
  (List.range' p.leftStartRow (p.leftEndRow - p.leftStartRow)).foldl (fun q l =>
    (List.range' p.rightStartRow (p.rightEndRow - p.rightStartRow)).foldl (fun q r =>
      addRow plan leftTile rightTile leftIdx rightIdx q l r) q) p

def loopStep (p : MergeLoop V) : MergeLoop V :=
  let l := leftTile.GetRow p.leftStartRow
  let r := rightTile.GetRow p.rightStartRow
  match clauseOrder l r plan.joinClauses with
  | some true => advanceLeft plan leftTile p
  | some false => advanceRight plan rightTile p
  | none =>
    -- a false predicate advances both runs, and the product below is still taken
    let p := if predicateFalse plan l r then advanceRight plan rightTile (advanceLeft plan leftTile p)
      else p
    let p := advanceRight plan rightTile (product plan leftTile rightTile leftIdx rightIdx p)
    if p.rightStartRow ≠ p.rightEndRow then advanceLeft plan leftTile p else p

def joinLoop : Nat → MergeLoop V → MergeLoop V
  | 0, p => p
  | fuel + 1, p =>
    if p.leftStartRow < p.leftEndRow ∧ p.rightStartRow < p.rightEndRow then
      joinLoop fuel (loopStep plan leftTile rightTile leftIdx rightIdx p)
    else p

end Loop

section Progress

variable (leftTile rightTile : LogicalTile V) (leftIdx rightIdx : Nat)

theorem advanceRun_bounds (isLeft : Bool) (tile : LogicalTile V) :
    ∀ fuel thisRow endRow, endRow ≤ advanceRun plan isLeft tile fuel thisRow endRow ∧
      advanceRun plan isLeft tile fuel thisRow endRow ≤ endRow + fuel
  | 0, _, _ => by simp [advanceRun]
  | fuel + 1, thisRow, endRow => by
    have rest := advanceRun_bounds isLeft tile fuel endRow (endRow + 1)
    unfold advanceRun
    split <;> omega

theorem advance_bounds (tile : LogicalTile V) (startRow : Nat) (isLeft : Bool)
    (inside : startRow ≤ tile.GetTupleCount) :
    startRow ≤ Advance plan tile startRow isLeft ∧ Advance plan tile startRow isLeft ≤ tile.GetTupleCount ∧
      (startRow < tile.GetTupleCount → startRow < Advance plan tile startRow isLeft) := by
  unfold Advance
  split
  · omega
  · have run := advanceRun_bounds plan isLeft tile (tile.GetTupleCount - startRow - 1) startRow
      (startRow + 1)
    omega

def Bounded (p : MergeLoop V) : Prop :=
  p.leftStartRow ≤ p.leftEndRow ∧ p.leftEndRow ≤ leftTile.GetTupleCount ∧
    p.rightStartRow ≤ p.rightEndRow ∧ p.rightEndRow ≤ rightTile.GetTupleCount

def remaining (p : MergeLoop V) : Nat :=
  (leftTile.GetTupleCount - p.leftStartRow) + (rightTile.GetTupleCount - p.rightStartRow)

theorem bounded_advanceLeft {p : MergeLoop V} (bounded : Bounded leftTile rightTile p) :
    Bounded leftTile rightTile (advanceLeft plan leftTile p) ∧
      (advanceLeft plan leftTile p).leftStartRow = p.leftEndRow := by
  have advanced := advance_bounds plan leftTile p.leftEndRow true bounded.2.1
  refine ⟨?_, rfl⟩
  unfold Bounded at bounded ⊢
  simp only [advanceLeft]
  omega

theorem bounded_advanceRight {p : MergeLoop V} (bounded : Bounded leftTile rightTile p) :
    Bounded leftTile rightTile (advanceRight plan rightTile p) ∧
      (advanceRight plan rightTile p).rightStartRow = p.rightEndRow := by
  have advanced := advance_bounds plan rightTile p.rightEndRow false bounded.2.2.2
  refine ⟨?_, rfl⟩
  unfold Bounded at bounded ⊢
  simp only [advanceRight]
  omega

def cursors (p : MergeLoop V) : Nat × Nat × Nat × Nat :=
  (p.leftStartRow, p.leftEndRow, p.rightStartRow, p.rightEndRow)

omit [SqlType V] in
theorem foldl_cursors {α : Type} (f : MergeLoop V → α → MergeLoop V)
    (keeps : ∀ q x, cursors (f q x) = cursors q) (xs : List α) (p : MergeLoop V) :
    cursors (xs.foldl f p) = cursors p := by
  induction xs generalizing p with
  | nil => rfl
  | cons x rest ih => rw [List.foldl_cons, ih, keeps]

omit [SqlType V] in
theorem product_cursors (p : MergeLoop V) :
    cursors (product plan leftTile rightTile leftIdx rightIdx p) = cursors p := by
  unfold product
  refine foldl_cursors _ (fun q l => ?_) _ p
  exact foldl_cursors (fun q r => addRow plan leftTile rightTile leftIdx rightIdx q l r)
    (fun _ _ => rfl) _ q

omit [SqlType V] in
theorem bounded_of_cursors {p q : MergeLoop V} (same : cursors q = cursors p)
    (bounded : Bounded leftTile rightTile p) : Bounded leftTile rightTile q := by
  simp only [cursors, Prod.mk.injEq] at same
  unfold Bounded at bounded ⊢
  omega

theorem loopStep_progress (p : MergeLoop V) (bounded : Bounded leftTile rightTile p)
    (running : p.leftStartRow < p.leftEndRow ∧ p.rightStartRow < p.rightEndRow) :
    Bounded leftTile rightTile (loopStep plan leftTile rightTile leftIdx rightIdx p) ∧
      remaining leftTile rightTile (loopStep plan leftTile rightTile leftIdx rightIdx p) <
        remaining leftTile rightTile p := by
  have inside := bounded
  unfold Bounded at inside
  cases order : clauseOrder (leftTile.GetRow p.leftStartRow) (rightTile.GetRow p.rightStartRow)
      plan.joinClauses with
  | some below =>
    cases below with
    | true =>
      -- the left key is below: the left run is passed
      obtain ⟨stillBounded, passed⟩ := bounded_advanceLeft plan leftTile rightTile bounded
      simp only [loopStep, order]
      refine ⟨stillBounded, ?_⟩
      simp only [remaining, advanceLeft]
      omega
    | false =>
      obtain ⟨stillBounded, passed⟩ := bounded_advanceRight plan leftTile rightTile bounded
      simp only [loopStep, order]
      refine ⟨stillBounded, ?_⟩
      simp only [remaining, advanceRight]
      omega
  | none =>
    -- the keys match: the right run is passed, after both runs if the predicate is false
    simp only [loopStep, order]
    set q := if predicateFalse plan (leftTile.GetRow p.leftStartRow)
        (rightTile.GetRow p.rightStartRow) then advanceRight plan rightTile (advanceLeft plan leftTile p)
      else p with unfoldQ
    have first : Bounded leftTile rightTile q ∧ p.leftStartRow ≤ q.leftStartRow ∧
        p.rightEndRow ≤ q.rightEndRow := by
      rw [unfoldQ]
      split
      · obtain ⟨passedLeft, leftStart⟩ := bounded_advanceLeft plan leftTile rightTile bounded
        obtain ⟨passedBoth, rightStart⟩ := bounded_advanceRight plan leftTile rightTile passedLeft
        have inside' := passedBoth
        unfold Bounded at inside'
        refine ⟨passedBoth, ?_, ?_⟩
        · simp only [advanceRight, advanceLeft] at leftStart ⊢
          omega
        · simp only [advanceRight, advanceLeft] at rightStart inside' ⊢
          omega
      · exact ⟨bounded, Nat.le_refl _, Nat.le_refl _⟩
    have kept := product_cursors plan leftTile rightTile leftIdx rightIdx q
    obtain ⟨second, rightStart⟩ := bounded_advanceRight plan leftTile rightTile
      (bounded_of_cursors leftTile rightTile kept first.1)
    simp only [cursors, Prod.mk.injEq] at kept
    have firstInside := first.1
    unfold Bounded at firstInside
    split
    · obtain ⟨third, -⟩ := bounded_advanceLeft plan leftTile rightTile second
      have secondInside := second
      unfold Bounded at secondInside
      refine ⟨third, ?_⟩
      simp only [remaining, advanceLeft, rightStart] at secondInside ⊢
      simp only [advanceRight] at secondInside ⊢
      omega
    · refine ⟨second, ?_⟩
      have secondInside := second
      unfold Bounded at secondInside
      simp only [remaining, rightStart] at secondInside ⊢
      simp only [advanceRight] at secondInside ⊢
      omega

theorem joinLoop_exits (fuel : Nat) (p : MergeLoop V) (bounded : Bounded leftTile rightTile p)
    (enough : remaining leftTile rightTile p < fuel) :
    Bounded leftTile rightTile (joinLoop plan leftTile rightTile leftIdx rightIdx fuel p) ∧
      ¬ ((joinLoop plan leftTile rightTile leftIdx rightIdx fuel p).leftStartRow <
          (joinLoop plan leftTile rightTile leftIdx rightIdx fuel p).leftEndRow ∧
        (joinLoop plan leftTile rightTile leftIdx rightIdx fuel p).rightStartRow <
          (joinLoop plan leftTile rightTile leftIdx rightIdx fuel p).rightEndRow) := by
  induction fuel generalizing p with
  | zero => omega
  | succ fuel ih =>
    unfold joinLoop
    split
    next running =>
      obtain ⟨stillBounded, fewer⟩ :=
        loopStep_progress plan leftTile rightTile leftIdx rightIdx p bounded running
      exact ih _ stillBounded (by omega)
    next stopped => exact ⟨bounded, stopped⟩

end Progress

-- What DExecute does after trying a child: try again, build the outer join output, or go on.
inductive Fetched (V : Type) where
  | again (e : MergeJoinExecutor V)
  | outer (e : MergeJoinExecutor V)
  | ready (e : MergeJoinExecutor V)

def fetchRight (e : MergeJoinExecutor V) : Fetched V :=
  if (!e.rightChildDone && e.rightStartRow == e.rightEndRow) || e.leftChildDone then
    match e.rightChild with
    | [] => .again { e with rightChildDone := true }
    | tile :: rest =>
      .ready { e with
        rightChild := rest
        join := e.join.BufferRightTile plan.joinType tile
        rightStartRow := 0
        rightEndRow := Advance plan tile 0 false }
  else .ready e

def fetchLeft (e : MergeJoinExecutor V) : Fetched V :=
  if (!e.leftChildDone && e.leftStartRow == e.leftEndRow) || e.rightChildDone then
    match e.leftChild with
    | [] =>
      -- a LEFT or INNER join needs nothing more from the right child
      if plan.joinType = .LEFT ∨ plan.joinType = .INNER then .outer { e with leftChildDone := true }
      else .again { e with leftChildDone := true }
    | tile :: rest =>
      .ready { e with
        leftChild := rest
        join := e.join.BufferLeftTile plan.joinType tile
        leftStartRow := 0
        leftEndRow := Advance plan tile 0 true }
  else .ready e

def outerOutput (e : MergeJoinExecutor V) : Option (List (JoinRow V)) × MergeJoinExecutor V :=
  let built := JoinState.BuildOuterJoinOutput plan.joinType e.join
  (built.1, { e with join := built.2 })

def joinTiles (e : MergeJoinExecutor V) (leftTile rightTile : LogicalTile V) : MergeLoop V :=
  joinLoop plan leftTile rightTile (e.join.leftResultTiles.length - 1)
    (e.join.rightResultTiles.length - 1) (leftTile.GetTupleCount + rightTile.GetTupleCount + 1)
    ⟨e.leftStartRow, e.leftEndRow, e.rightStartRow, e.rightEndRow, [], e.join⟩

theorem joinTiles_exits (e : MergeJoinExecutor V) (leftTile rightTile : LogicalTile V)
    (bounded : Bounded leftTile rightTile
      ⟨e.leftStartRow, e.leftEndRow, e.rightStartRow, e.rightEndRow, [], e.join⟩) :
    ¬ ((joinTiles plan e leftTile rightTile).leftStartRow <
        (joinTiles plan e leftTile rightTile).leftEndRow ∧
      (joinTiles plan e leftTile rightTile).rightStartRow <
        (joinTiles plan e leftTile rightTile).rightEndRow) := by
  have fewer : remaining leftTile rightTile
      (⟨e.leftStartRow, e.leftEndRow, e.rightStartRow, e.rightEndRow, [], e.join⟩ : MergeLoop V) <
      leftTile.GetTupleCount + rightTile.GetTupleCount + 1 := by
    simp only [remaining]
    omega
  exact (joinLoop_exits plan leftTile rightTile _ _ _ _ bounded fewer).2

-- DExecute, with fuel for its calls to itself ("try again"); none when the fuel runs out.
def DExecute : Nat → MergeJoinExecutor V → Option (Option (List (JoinRow V)) × MergeJoinExecutor V)
  | 0, _ => none
  | fuel + 1, e =>
    if e.rightChildDone && e.leftChildDone then some (outerOutput plan e)
    else
      match fetchRight plan e with
      | .again e => DExecute fuel e
      | .outer e => some (outerOutput plan e)
      | .ready e =>
        match fetchLeft plan e with
        | .again e => DExecute fuel e
        | .outer e => some (outerOutput plan e)
        | .ready e =>
          match e.join.leftResultTiles.getLast?, e.join.rightResultTiles.getLast? with
          | some leftTile, some rightTile =>
            let p := joinTiles plan e leftTile rightTile
            let e := { e with
              leftStartRow := p.leftStartRow
              leftEndRow := p.leftEndRow
              rightStartRow := p.rightStartRow
              rightEndRow := p.rightEndRow
              join := p.join }
            if p.rows.isEmpty then
              (DExecute fuel e).map fun
                | (none, e) => (some [], e)
                | (some tile, e) => (some tile, e)
            else some (some p.rows, e)
          | _, _ => some (outerOutput plan e)

def run (fuel : Nat) : Nat → MergeJoinExecutor V → List (List (JoinRow V)) × Bool
  | 0, _ => ([], false)
  | calls + 1, e =>
    match DExecute plan fuel e with
    | none => ([], false)
    | some (none, _) => ([], true)
    | some (some tile, e') => ((run fuel calls e').1.cons tile, (run fuel calls e').2)

def init (leftTiles rightTiles : List (LogicalTile V)) : MergeJoinExecutor V :=
  ⟨leftTiles, rightTiles, false, false, 0, 0, 0, 0, JoinState.empty⟩

end MergeJoinExecutor

def sqlMergeMatches (plan : MergeJoinPlan V) (l r : List V) : Bool :=
  plan.joinClauses.all (fun clause => Value.CompareEquals (clause.left l) (clause.right r) = .CmpTrue) &&
    match plan.predicate with
    | none => true
    | some predicate => predicate l r == some true

def sqlMergeJoin (plan : MergeJoinPlan V) (left right : List (List V)) : List (JoinRow V) :=
  left.flatMap (fun l => (right.filter (sqlMergeMatches plan l)).map fun r => (some l, some r)) ++
    (if JoinState.tracksLeft plan.joinType then
      (left.filter fun l => !right.any (sqlMergeMatches plan l)).map fun l => (some l, none)
    else []) ++
    (if JoinState.tracksRight plan.joinType then
      (right.filter fun r => !left.any fun l => sqlMergeMatches plan l r).map fun r => (none, some r)
    else [])

def keyTile (keys : List Int) : LogicalTile IntegerValue := ⟨keys.map fun k => ([⟨k⟩], true)⟩

def firstColumnClause : JoinClause IntegerValue :=
  ⟨fun row => row.getD 0 IntegerValue.null, fun row => row.getD 0 IntegerValue.null⟩

def innerMergeOnFirstColumn
    (predicate : Option (List IntegerValue → List IntegerValue → Option Bool)) :
    MergeJoinPlan IntegerValue :=
  ⟨.INNER, [firstColumnClause], predicate⟩

-- Sorted inputs with non-NULL keys. A run of keys 1 that continues into the next left tile is
-- joined only in its first tile; and a false predicate advances both runs and then joins the
-- next runs without comparing their keys.
theorem mergeJoin_diverges_from_sql_join :
    MergeJoinExecutor.run (innerMergeOnFirstColumn none) 10 10
        (MergeJoinExecutor.init [keyTile [1], keyTile [1]] [keyTile [1]]) =
      ([[(some [⟨1⟩], some [⟨1⟩])], []], true) ∧
    sqlMergeJoin (innerMergeOnFirstColumn none) [[⟨1⟩], [⟨1⟩]] [[⟨1⟩]] =
      [(some [⟨1⟩], some [⟨1⟩]), (some [⟨1⟩], some [⟨1⟩])] ∧
    MergeJoinExecutor.run (innerMergeOnFirstColumn (some fun _ _ => some false)) 10 10
        (MergeJoinExecutor.init [keyTile [1, 2]] [keyTile [1, 3]]) =
      ([[(some [⟨2⟩], some [⟨3⟩])]], true) ∧
    sqlMergeJoin (innerMergeOnFirstColumn (some fun _ _ => some false)) [[⟨1⟩], [⟨2⟩]]
      [[⟨1⟩], [⟨3⟩]] = [] :=
  ⟨by decide, by decide, by decide, by decide⟩

end Peloton.Executor
