import Peloton.Common.InternalTypes

set_option autoImplicit false

namespace Peloton.Storage

-- The MVCC header of one tuple slot.
structure TupleHeader where
  transactionId : TxnId
  beginCommitId : Cid
  endCommitId : Cid
  nextItemPointer : ItemPointer
  prevItemPointer : ItemPointer
  -- the ItemPointer * of the indirection cell; nullptr is none
  indirection : Option Nat
  lastReaderCid : Cid
  deriving DecidableEq, Repr

def TupleHeader.initial : TupleHeader :=
  { transactionId := INVALID_TXN_ID, beginCommitId := MAX_CID, endCommitId := MAX_CID,
    nextItemPointer := INVALID_ITEMPOINTER, prevItemPointer := INVALID_ITEMPOINTER,
    indirection := none, lastReaderCid := 0 }

-- The headers of every tile group the catalog manager knows, and the indirection cells the
-- tables' indirection arrays hand out.
structure Store where
  headers : ItemPointer → TupleHeader
  indirections : Nat → ItemPointer

namespace Store

def initial : Store :=
  { headers := fun _ => TupleHeader.initial, indirections := fun _ => INVALID_ITEMPOINTER }

def modify (s : Store) (loc : ItemPointer) (f : TupleHeader → TupleHeader) : Store :=
  { s with headers := Function.update s.headers loc (f (s.headers loc)) }

def setTransactionId (s : Store) (loc : ItemPointer) (v : TxnId) : Store :=
  s.modify loc fun h => { h with transactionId := v }

def setBeginCommitId (s : Store) (loc : ItemPointer) (v : Cid) : Store :=
  s.modify loc fun h => { h with beginCommitId := v }

def setEndCommitId (s : Store) (loc : ItemPointer) (v : Cid) : Store :=
  s.modify loc fun h => { h with endCommitId := v }

def setNextItemPointer (s : Store) (loc : ItemPointer) (v : ItemPointer) : Store :=
  s.modify loc fun h => { h with nextItemPointer := v }

def setPrevItemPointer (s : Store) (loc : ItemPointer) (v : ItemPointer) : Store :=
  s.modify loc fun h => { h with prevItemPointer := v }

def setIndirection (s : Store) (loc : ItemPointer) (v : Option Nat) : Store :=
  s.modify loc fun h => { h with indirection := v }

def setLastReaderCid (s : Store) (loc : ItemPointer) (v : Cid) : Store :=
  s.modify loc fun h => { h with lastReaderCid := v }

-- AtomicUpdateItemPointer on an indirection cell.
def atomicUpdateItemPointer (s : Store) (cell : Nat) (v : ItemPointer) : Store :=
  { s with indirections := Function.update s.indirections cell v }

@[simp] theorem modify_headers (s : Store) (loc loc' : ItemPointer) (f : TupleHeader → TupleHeader) :
    (s.modify loc f).headers loc' = if loc' = loc then f (s.headers loc) else s.headers loc' := by
  by_cases h : loc' = loc
  · subst h; simp [modify]
  · simp [modify, h]

@[simp] theorem modify_indirections (s : Store) (loc : ItemPointer) (f : TupleHeader → TupleHeader) :
    (s.modify loc f).indirections = s.indirections := rfl

@[simp] theorem atomicUpdateItemPointer_headers (s : Store) (cell : Nat) (v : ItemPointer) :
    (s.atomicUpdateItemPointer cell v).headers = s.headers := rfl

@[simp] theorem atomicUpdateItemPointer_indirections (s : Store) (cell cell' : Nat) (v : ItemPointer) :
    (s.atomicUpdateItemPointer cell v).indirections cell' =
      if cell' = cell then v else s.indirections cell' := by
  by_cases h : cell' = cell
  · subst h; simp [atomicUpdateItemPointer]
  · simp [atomicUpdateItemPointer, h]

end Store

end Peloton.Storage
