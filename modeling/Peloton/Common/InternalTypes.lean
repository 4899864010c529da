import Mathlib

set_option autoImplicit false

namespace Peloton

abbrev Oid := Nat
abbrev TxnId := Nat
abbrev Cid := Nat
abbrev Eid := Nat

def INVALID_OID : Oid := 2 ^ 32 - 1

def INVALID_TXN_ID : TxnId := 0
def INITIAL_TXN_ID : TxnId := 1
def MAX_TXN_ID : TxnId := 2 ^ 64 - 1

def INVALID_CID : Cid := 0
def MAX_CID : Cid := 2 ^ 64 - 1

def MAX_EID : Eid := 2 ^ 64 - 1

structure ItemPointer where
  block : Oid
  offset : Oid
  deriving DecidableEq, Repr

def INVALID_ITEMPOINTER : ItemPointer := ⟨INVALID_OID, INVALID_OID⟩

def ItemPointer.isNull (p : ItemPointer) : Bool :=
  p.block == INVALID_OID && p.offset == INVALID_OID

inductive VisibilityType where
  | invalid | invisible | deleted | ok
  deriving DecidableEq, Repr

inductive VisibilityIdType where
  | invalid | readId | commitId
  deriving DecidableEq, Repr

inductive IsolationLevelType where
  | invalid | serializable | snapshot | repeatableReads | readCommitted | readOnly
  deriving DecidableEq, Repr

inductive ResultType where
  | invalid | success | failure | aborted | noop | unknown | queuing | toAbort
  deriving DecidableEq, Repr

inductive RWType where
  | invalid | read | readOwn | update | insert | delete | insDel
  deriving DecidableEq, Repr

inductive TimestampType where
  | invalid | snapshotRead | read | commit
  deriving DecidableEq, Repr

inductive GCVersionType where
  | invalid | commitUpdate | commitDelete | commitInsDel
  | abortUpdate | abortDelete | abortInsert | abortInsDel
  deriving DecidableEq, Repr

@[simp] theorem invalid_ne_initial_txn_id : INVALID_TXN_ID ≠ INITIAL_TXN_ID := by decide

@[simp] theorem initial_ne_invalid_txn_id : INITIAL_TXN_ID ≠ INVALID_TXN_ID := by decide

@[simp] theorem invalid_cid_ne_max : INVALID_CID ≠ MAX_CID := by decide

@[simp] theorem max_ne_invalid_cid : MAX_CID ≠ INVALID_CID := by decide

@[simp] theorem invalid_itemPointer_isNull : INVALID_ITEMPOINTER.isNull = true := by decide

end Peloton
