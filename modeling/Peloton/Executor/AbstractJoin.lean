import Peloton.Executor.LogicalTile

set_option autoImplicit false

namespace Peloton.Executor

inductive JoinType where
  | LEFT
  | RIGHT
  | INNER
  | OUTER
  deriving DecidableEq, Repr

abbrev JoinRow (V : Type) := Option (List V) × Option (List V)

-- The buffered tiles of both children and the ids of their rows that have matched nothing yet,
-- as AbstractJoinExecutor keeps them.
structure JoinState (V : Type) where
  leftResultTiles : List (LogicalTile V)
  rightResultTiles : List (LogicalTile V)
  noMatchingLeftRowSets : List (List Nat)
  noMatchingRightRowSets : List (List Nat)
  leftMatchingIdx : Nat
  rightMatchingIdx : Nat

namespace JoinState

variable {V : Type}

def empty : JoinState V := ⟨[], [], [], [], 0, 0⟩

def tracksLeft : JoinType → Bool
  | .LEFT | .OUTER => true
  | _ => false

def tracksRight : JoinType → Bool
  | .RIGHT | .OUTER => true
  | _ => false

-- BufferLeftTile: UpdateLeftJoinRowSets starts the tile's set with every visible row.
def BufferLeftTile (joinType : JoinType) (s : JoinState V) (tile : LogicalTile V) : JoinState V :=
  { s with
    leftResultTiles := s.leftResultTiles ++ [tile]
    noMatchingLeftRowSets :=
      if tracksLeft joinType then s.noMatchingLeftRowSets ++ [tile.visibleIds]
      else s.noMatchingLeftRowSets }

def BufferRightTile (joinType : JoinType) (s : JoinState V) (tile : LogicalTile V) : JoinState V :=
  { s with
    rightResultTiles := s.rightResultTiles ++ [tile]
    noMatchingRightRowSets :=
      if tracksRight joinType then s.noMatchingRightRowSets ++ [tile.visibleIds]
      else s.noMatchingRightRowSets }

def RecordMatchedLeftRow (joinType : JoinType) (s : JoinState V) (tileIdx rowIdx : Nat) :
    JoinState V :=
  if tracksLeft joinType then
    { s with noMatchingLeftRowSets := s.noMatchingLeftRowSets.modify tileIdx (·.erase rowIdx) }
  else s

def RecordMatchedRightRow (joinType : JoinType) (s : JoinState V) (tileIdx rowIdx : Nat) :
    JoinState V :=
  if tracksRight joinType then
    { s with noMatchingRightRowSets := s.noMatchingRightRowSets.modify tileIdx (·.erase rowIdx) }
  else s

def firstNonEmpty (sets : List (List Nat)) (idx : Nat) : Option Nat :=
  ((sets.drop idx).findIdx? fun set => !set.isEmpty).map (· + idx)

def rowOf (tiles : List (LogicalTile V)) (tileIdx rowIdx : Nat) : List V :=
  (tiles[tileIdx]?.map (·.GetRow rowIdx)).getD []

-- BuildLeftJoinOutput: one output tile of NULL-padded rows for the next left tile with
-- unmatched rows, or none (false) once every set has been emitted.
def BuildLeftJoinOutput (s : JoinState V) : Option (List (JoinRow V)) × JoinState V :=
  match firstNonEmpty s.noMatchingLeftRowSets s.leftMatchingIdx with
  | none =>
    (none, { s with leftMatchingIdx := max s.leftMatchingIdx s.noMatchingLeftRowSets.length })
  | some i =>
    (some ((s.noMatchingLeftRowSets[i]?.getD []).map fun row =>
        (some (rowOf s.leftResultTiles i row), none)),
      { s with leftMatchingIdx := i + 1 })

def BuildRightJoinOutput (s : JoinState V) : Option (List (JoinRow V)) × JoinState V :=
  match firstNonEmpty s.noMatchingRightRowSets s.rightMatchingIdx with
  | none =>
    (none, { s with rightMatchingIdx := max s.rightMatchingIdx s.noMatchingRightRowSets.length })
  | some i =>
    (some ((s.noMatchingRightRowSets[i]?.getD []).map fun row =>
        (none, some (rowOf s.rightResultTiles i row))),
      { s with rightMatchingIdx := i + 1 })

def BuildOuterJoinOutput (joinType : JoinType) (s : JoinState V) :
    Option (List (JoinRow V)) × JoinState V :=
  match joinType with
  | .LEFT => BuildLeftJoinOutput s
  | .RIGHT => BuildRightJoinOutput s
  | .OUTER =>
    match BuildLeftJoinOutput s with
    | (some tile, s') => (some tile, s')
    | (none, s') => BuildRightJoinOutput s'
  | .INNER => (none, s)

@[simp] theorem buildOuterJoinOutput_inner (s : JoinState V) :
    BuildOuterJoinOutput .INNER s = (none, s) := rfl

@[simp] theorem bufferLeftTile_rightResultTiles (joinType : JoinType) (s : JoinState V)
    (tile : LogicalTile V) : (s.BufferLeftTile joinType tile).rightResultTiles = s.rightResultTiles :=
  rfl

@[simp] theorem recordMatchedLeftRow_rightResultTiles (joinType : JoinType) (s : JoinState V)
    (tileIdx rowIdx : Nat) :
    (s.RecordMatchedLeftRow joinType tileIdx rowIdx).rightResultTiles = s.rightResultTiles := by
  unfold RecordMatchedLeftRow; split <;> rfl

@[simp] theorem recordMatchedRightRow_rightResultTiles (joinType : JoinType) (s : JoinState V)
    (tileIdx rowIdx : Nat) :
    (s.RecordMatchedRightRow joinType tileIdx rowIdx).rightResultTiles = s.rightResultTiles := by
  unfold RecordMatchedRightRow; split <;> rfl

theorem foldl_bufferRightTile_rightResultTiles (joinType : JoinType) (s : JoinState V)
    (tiles : List (LogicalTile V)) :
    (tiles.foldl (BufferRightTile joinType) s).rightResultTiles = s.rightResultTiles ++ tiles := by
  induction tiles generalizing s with
  | nil => simp
  | cons tile rest ih => simp [ih, BufferRightTile]

end JoinState

end Peloton.Executor
