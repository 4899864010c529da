import Peloton.Common.InternalTypes

set_option autoImplicit false

namespace Peloton.Tcop

-- What the traffic cop sees of a statement: BEGIN, COMMIT, ROLLBACK, or another statement with the
-- way it goes.
inductive Statement where
  | begin
  | commit
  | rollback
  | other (planningThrows executionFails txnFails : Bool)
  deriving DecidableEq, Repr

-- What happens to the TransactionContexts the traffic cop begins: a transaction id is its begin
-- order on the connection.
inductive TxnEvent where
  | begun (txn : Nat)
  | committed (txn : Nat)
  | aborted (txn : Nat)
  | deleted (txn : Nat)
  deriving DecidableEq, Repr

-- One connection's TrafficCop: tcop_txn_state_ with its top first, single_statement_txn_, the
-- result_ of each transaction, and p_status_.m_result.
structure TrafficCop where
  tcopTxnState : List (Nat × ResultType)
  singleStatementTxn : Bool
  txnResult : Nat → ResultType
  pStatus : ResultType
  nextTxn : Nat
  log : List TxnEvent

def TrafficCop.initial : TrafficCop :=
  { tcopTxnState := [], singleStatementTxn := false, txnResult := fun _ => .success,
    pStatus := .success, nextTxn := 0, log := [] }

namespace TrafficCop

def beginTransaction (tc : TrafficCop) : TrafficCop :=
  { tc with
    tcopTxnState := (tc.nextTxn, .success) :: tc.tcopTxnState
    nextTxn := tc.nextTxn + 1
    log := tc.log ++ [.begun tc.nextTxn] }

def beginQueryHelper (tc : TrafficCop) : TrafficCop :=
  if tc.tcopTxnState.isEmpty then tc.beginTransaction else tc

-- Both helpers pop the top before they read it through a reference; the model reads the popped
-- entry.
def commitQueryHelper (tc : TrafficCop) : TrafficCop :=
  match tc.tcopTxnState with
  | [] => tc
  | (txn, result) :: rest =>
    { tc with
      tcopTxnState := rest
      log := tc.log ++ [if result ≠ .aborted then .committed txn else .aborted txn] }

def abortQueryHelper (tc : TrafficCop) : TrafficCop :=
  match tc.tcopTxnState with
  | [] => tc
  | (txn, result) :: rest =>
    { tc with
      tcopTxnState := rest
      -- an entry marked ABORTED is deleted without AbortTransaction
      log := tc.log ++ [if result ≠ .aborted then .aborted txn else .deleted txn] }

def markAborted (tc : TrafficCop) : TrafficCop :=
  match tc.tcopTxnState with
  | [] => tc
  | (txn, _) :: rest => { tc with tcopTxnState := (txn, .aborted) :: rest }

def processInvalidStatement (tc : TrafficCop) : TrafficCop :=
  if tc.singleStatementTxn then tc.abortQueryHelper else tc.markAborted

def topAborted (tc : TrafficCop) : Bool :=
  match tc.tcopTxnState with
  | (_, .aborted) :: _ => true
  | _ => false

-- PrepareStatement, and whether it returned a statement: nullptr when planning threw, and the
-- protocol handler then reports the error without executing anything.
def prepareStatement (tc : TrafficCop) (stmt : Statement) : TrafficCop × Bool :=
  if !tc.tcopTxnState.isEmpty then
    let tc1 := { tc with singleStatementTxn := false }
    if tc1.topAborted then (tc1, true)
    else match stmt with
      | .other true _ _ => (tc1.processInvalidStatement, false)
      | _ => (tc1, true)
  else
    let tc1 := { tc with singleStatementTxn := stmt ≠ Statement.begin }.beginTransaction
    match stmt with
    | .other true _ _ => (tc1.processInvalidStatement, false)
    | _ => (tc1, true)

-- ExecuteHelper: a statement outside a block starts a single-statement transaction; inside a broken
-- block it is answered TO_ABORT; otherwise the plan runs.
def executeHelper (tc : TrafficCop) (executionFails txnFails : Bool) : TrafficCop × Bool :=
  let tc1 :=
    if tc.tcopTxnState.isEmpty then { tc with singleStatementTxn := true }.beginTransaction else tc
  if tc1.topAborted then ({ tc1 with pStatus := .toAbort }, false)
  else match tc1.tcopTxnState with
    | [] => (tc1, false)
    | (txn, _) :: _ =>
      ({ tc1 with
          txnResult := if txnFails then Function.update tc1.txnResult txn .failure
            else tc1.txnResult
          pStatus := if executionFails then .failure else .success }, true)

def executeStatementPlanGetResult (tc : TrafficCop) : TrafficCop :=
  if tc.pStatus = .failure then tc
  else match tc.tcopTxnState with
    | [] => tc
    | (txn, _) :: _ =>
      let txnResult := tc.txnResult txn
      if tc.singleStatementTxn || txnResult == .failure then
        if txnResult = .success then tc.commitQueryHelper
        else if tc.singleStatementTxn then tc.abortQueryHelper
        else { tc.markAborted with pStatus := .aborted }
      else tc

-- ExecuteStatement, and the result step when the plan was queued.
def executeStatement (tc : TrafficCop) (stmt : Statement) : TrafficCop :=
  match stmt with
  | .begin => tc.beginQueryHelper
  | .commit => tc.commitQueryHelper
  | .rollback => tc.abortQueryHelper
  | .other _ executionFails txnFails =>
    match tc.executeHelper executionFails txnFails with
    | (tc1, true) => tc1.executeStatementPlanGetResult
    | (tc1, false) => tc1

def processStatement (tc : TrafficCop) (stmt : Statement) : TrafficCop :=
  match tc.prepareStatement stmt with
  | (tc1, true) => tc1.executeStatement stmt
  | (tc1, false) => tc1

def processStatements (tc : TrafficCop) (stmts : List Statement) : TrafficCop :=
  stmts.foldl processStatement tc

/-! tcop_txn_state_ holds at most one entry between statements: every push is onto an empty stack. -/

def Bounded (tc : TrafficCop) : Prop := tc.tcopTxnState.length ≤ 1

section Bounded

variable {tc : TrafficCop}

theorem bounded_beginTransaction (empty : tc.tcopTxnState = []) : Bounded tc.beginTransaction := by
  simp [Bounded, beginTransaction, empty]

theorem commitQueryHelper_bounded (h : Bounded tc) : Bounded tc.commitQueryHelper := by
  unfold commitQueryHelper Bounded at *
  split <;> simp_all

theorem abortQueryHelper_bounded (h : Bounded tc) : Bounded tc.abortQueryHelper := by
  unfold abortQueryHelper Bounded at *
  split <;> simp_all

theorem markAborted_bounded (h : Bounded tc) : Bounded tc.markAborted := by
  unfold markAborted Bounded at *
  split <;> simp_all

theorem processInvalidStatement_bounded (h : Bounded tc) : Bounded tc.processInvalidStatement := by
  unfold processInvalidStatement
  split
  · exact abortQueryHelper_bounded h
  · exact markAborted_bounded h

theorem beginQueryHelper_bounded (h : Bounded tc) : Bounded tc.beginQueryHelper := by
  unfold beginQueryHelper
  split
  · next empty => exact bounded_beginTransaction (List.isEmpty_iff.mp empty)
  · exact h

theorem prepareStatement_bounded (h : Bounded tc) (stmt : Statement) :
    Bounded (tc.prepareStatement stmt).1 := by
  have kept : Bounded { tc with singleStatementTxn := false } := h
  dsimp only [prepareStatement]
  split
  · split
    · exact kept
    · split
      · exact processInvalidStatement_bounded kept
      · exact kept
  · next empty =>
    have pushed : Bounded { tc with singleStatementTxn := stmt ≠ Statement.begin }.beginTransaction :=
      bounded_beginTransaction (by simpa using empty)
    split
    · exact processInvalidStatement_bounded pushed
    · exact pushed

theorem executeHelper_bounded (h : Bounded tc) (executionFails txnFails : Bool) :
    Bounded (tc.executeHelper executionFails txnFails).1 := by
  -- the single-statement transaction is pushed onto an empty stack; the rest keeps the stack
  dsimp only [executeHelper]
  split
  · next empty =>
    have pushed : Bounded { tc with singleStatementTxn := true }.beginTransaction :=
      bounded_beginTransaction (List.isEmpty_iff.mp empty)
    split
    · exact pushed
    · split <;> exact pushed
  · split
    · exact h
    · split <;> exact h

theorem executeStatementPlanGetResult_bounded (h : Bounded tc) :
    Bounded tc.executeStatementPlanGetResult := by
  dsimp only [executeStatementPlanGetResult]
  split
  · exact h
  · split
    · exact h
    · split
      · split
        · exact commitQueryHelper_bounded h
        · split
          · exact abortQueryHelper_bounded h
          · exact markAborted_bounded h
      · exact h

theorem executeStatement_bounded (h : Bounded tc) (stmt : Statement) :
    Bounded (tc.executeStatement stmt) := by
  unfold executeStatement
  split
  · exact beginQueryHelper_bounded h
  · exact commitQueryHelper_bounded h
  · exact abortQueryHelper_bounded h
  · next executionFails txnFails =>
    have queued := executeHelper_bounded h executionFails txnFails
    split
    · next tc1 hq => rw [hq] at queued; exact executeStatementPlanGetResult_bounded queued
    · next tc1 hq => rw [hq] at queued; exact queued

theorem processStatement_bounded (h : Bounded tc) (stmt : Statement) :
    Bounded (tc.processStatement stmt) := by
  have prepared := prepareStatement_bounded h stmt
  unfold processStatement
  split
  · next tc1 hp => rw [hp] at prepared; exact executeStatement_bounded prepared stmt
  · next tc1 hp => rw [hp] at prepared; exact prepared

theorem processStatements_bounded (h : Bounded tc) (stmts : List Statement) :
    Bounded (tc.processStatements stmts) := by
  induction stmts generalizing tc with
  | nil => exact h
  | cons stmt rest ih => exact ih (processStatement_bounded h stmt)

end Bounded

-- BEGIN; a statement whose planning throws; ROLLBACK. The failed statement marks the block
-- ABORTED without aborting its transaction, and ROLLBACK then deletes the context without
-- AbortTransaction: the transaction is neither committed nor aborted.
theorem rollback_of_failed_block_deletes_txn :
    (initial.processStatements [.begin, .other true false false, .rollback]).log =
      [.begun 0, .deleted 0] := by
  decide

end TrafficCop

end Peloton.Tcop
