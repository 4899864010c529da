import Peloton.Common.ContainerTuple

set_option autoImplicit false

namespace Peloton.Executor

-- A logical tile as its rows, each with its visibility bit.
structure LogicalTile (V : Type) where
  rows : List (List V × Bool)
  deriving DecidableEq, Repr

namespace LogicalTile

variable {V : Type}

def visibleIds (tile : LogicalTile V) : List Nat :=
  tile.rows.zipIdx.filterMap fun entry => if entry.1.2 then some entry.2 else none

def GetTupleCount (tile : LogicalTile V) : Nat := tile.visibleIds.length

def RemoveVisibility (tile : LogicalTile V) (id : Nat) : LogicalTile V :=
  ⟨tile.rows.modify id fun row => (row.1, false)⟩

def GetRow (tile : LogicalTile V) (id : Nat) : List V := (tile.rows[id]?.map Prod.fst).getD []

def visibleRows (tile : LogicalTile V) : List (List V) := tile.visibleIds.map tile.GetRow

def rowAt (tiles : List (LogicalTile V)) (tileId tupleId : Nat) : List V :=
  (tiles[tileId]?.map (·.GetRow tupleId)).getD []

theorem rowAt_of_mem_zipIdx {tiles : List (LogicalTile V)} {tile : LogicalTile V} {tileId : Nat}
    (mem : (tile, tileId) ∈ tiles.zipIdx) (tupleId : Nat) :
    rowAt tiles tileId tupleId = tile.GetRow tupleId := by
  obtain ⟨-, bound, stored⟩ := List.mem_zipIdx mem
  simp only [Nat.zero_add] at bound
  simp [rowAt, List.getElem?_eq_getElem bound, stored]

@[simp] theorem getRow_removeVisibility (tile : LogicalTile V) (id row : Nat) :
    (tile.RemoveVisibility id).GetRow row = tile.GetRow row := by
  simp only [GetRow, RemoveVisibility, List.getElem?_modify]
  cases tile.rows[row]? <;> simp
  split <;> rfl

@[simp] theorem length_removeVisibility (tile : LogicalTile V) (id : Nat) :
    (tile.RemoveVisibility id).rows.length = tile.rows.length := by
  simp [RemoveVisibility]

end LogicalTile

def project {V : Type} (row : List V) (columnIds : List Nat) : List V :=
  columnIds.filterMap fun column => row[column]?

end Peloton.Executor
