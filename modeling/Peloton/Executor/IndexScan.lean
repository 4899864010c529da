import Peloton.Storage.DataTable
import Peloton.Executor.WritePath

set_option autoImplicit false

namespace Peloton.Executor

open Storage Concurrency

inductive ExpressionType where
  | compareEqual | compareNotEqual | compareLessThan | compareGreaterThan
  | compareLessThanOrEqualTo | compareGreaterThanOrEqualTo | compareIn
  deriving DecidableEq, Repr

def compareValues (exprType : ExpressionType) (lhs rhs : Value) : Bool :=
  if lhs = rhs then
    match exprType with
    | .compareEqual | .compareLessThanOrEqualTo | .compareGreaterThanOrEqualTo | .compareIn => true
    | _ => false
  else if lhs < rhs then
    match exprType with
    | .compareNotEqual | .compareLessThan | .compareLessThanOrEqualTo => true
    | _ => false
  else
    match exprType with
    | .compareNotEqual | .compareGreaterThan | .compareGreaterThanOrEqualTo => true
    | _ => false

-- The key conditions of an index scan: key_column_ids_, expr_types_ and values_, with the column
-- ids those of the table.
structure KeyConditions where
  keyColumnIds : List Nat
  exprTypes : List ExpressionType
  values : List Value

def KeyConditions.holds (conditions : KeyConditions) (column : Nat → Value) : Bool :=
  ((conditions.keyColumnIds.zip conditions.exprTypes).zip conditions.values).all
    fun ((columnId, exprType), value) => compareValues exprType (column columnId) value

def checkKeyConditions (conditions : KeyConditions) (tuple : List Value) : Bool :=
  conditions.holds fun columnId => tuple.getD columnId 0

def closedExprType : ExpressionType → ExpressionType
  | .compareLessThan => .compareLessThanOrEqualTo
  | .compareGreaterThan => .compareGreaterThanOrEqualTo
  | e => e

def scanIndex (index : Index) (conditions : KeyConditions) : List Nat :=
  if conditions.keyColumnIds = [] then index.entries.map Prod.snd
  else
    (index.entries.filter fun entry =>
      ((conditions.keyColumnIds.zip conditions.exprTypes).zip conditions.values).all
        fun ((columnId, exprType), value) =>
          exprType == .compareNotEqual ||
            compareValues (closedExprType exprType)
              (entry.1.getD (index.indexedColumns.idxOf columnId) 0) value).map Prod.snd

inductive ChainOutcome where
  | visible (location : ItemPointer)
  | skipped
  | failed
  deriving DecidableEq, Repr

-- The version-chain walk of ExecSecondaryIndexLookup from the head of one entry.
def traverseChain (s : Store) (txn : TransactionContext) :
    Nat → ItemPointer → Nat → ChainOutcome
  | 0, _, _ => .failed
  | fuel + 1, location, chainLength =>
    let h := s.headers location
    match isVisible s txn location .readId with
    | .deleted => .skipped
    | .ok => .visible location
    | _ =>
      if h.transactionId = INITIAL_TXN_ID ∧ h.endCommitId ≤ txn.readId then
        match h.indirection with
        | some cell => traverseChain s txn fuel (s.indirections cell) 0
        | none => .failed
      else if h.nextItemPointer.isNull then
        if chainLength + 1 = 1 then .skipped else .failed
      else traverseChain s txn fuel h.nextItemPointer (chainLength + 1)

-- What ExecSecondaryIndexLookup reads from its plan node.
structure IndexScanPlan where
  conditions : KeyConditions
  predicate : List Value → Bool
  acquireOwner : Bool
  leftOpen : Bool
  rightOpen : Bool

-- CheckOpenRangeWithReturnedTuples: drop the first and the last locations while they miss the key
-- conditions.
def checkOpenRange (check : ItemPointer → Bool) (leftOpen rightOpen : Bool)
    (locations : List ItemPointer) : List ItemPointer :=
  let left := if leftOpen then locations.dropWhile (fun l => !check l) else locations
  if rightOpen then (left.reverse.dropWhile (fun l => !check l)).reverse else left

-- ExecSecondaryIndexLookup: none when the transaction's result was set to FAILURE; otherwise the
-- store and the transaction after the reads, and the locations it emits in order.
def execSecondaryIndexLookup (s : Store) (txn : TransactionContext)
    (tuples : ItemPointer → List Value) (index : Index) (plan : IndexScanPlan) (fuel : Nat) :
    Option (Store × TransactionContext × List ItemPointer) :=
  let visible := (scanIndex index plan.conditions).foldl (fun acc cell =>
    acc.bind fun (s, txn, found) =>
      match traverseChain s txn fuel (s.indirections cell) 0 with
      | .failed => none
      | .skipped => some (s, txn, found)
      | .visible location =>
        if !checkKeyConditions plan.conditions (tuples location) then some (s, txn, found)
        else if !plan.predicate (tuples location) then some (s, txn, found)
        else match performRead s txn location plan.acquireOwner with
          | (s', txn', true) => some (s', txn', found ++ [location])
          | (_, _, false) => none)
    (some (s, txn, []))
  visible.map fun (s, txn, found) =>
    (s, txn, checkOpenRange (fun location => checkKeyConditions plan.conditions (tuples location))
      plan.leftOpen plan.rightOpen found)

def keyedTable : List Index := [⟨.primaryKey, [0], []⟩, ⟨.default, [1], []⟩]

def insertTxn : TransactionContext := TransactionContext.init 0 .serializable 2 2

def rowInserted : RowResult := insertRow Store.initial insertTxn ⟨⟨0, 0⟩, some 0, true⟩

def insertCommitted : Store × TransactionContext × ResultType :=
  commitTransaction rowInserted.store rowInserted.txn

def updateTxn : TransactionContext := TransactionContext.init 0 .serializable 3 3

def updatedIndexes : List Index × Bool :=
  Storage.installVersion insertCommitted.1 updateTxn
    (insertInIndexes Store.initial insertTxn keyedTable [1, 10] 0).1 [1, 20] [1] 0

def rowUpdated : RowResult :=
  updateRow insertCommitted.1 updateTxn ⟨0, 0⟩ false ⟨0, 1⟩ updatedIndexes.2 INVALID_ITEMPOINTER
    noTuple

def updateCommitted : Store × TransactionContext × ResultType :=
  commitTransaction rowUpdated.store rowUpdated.txn

def rowValues (location : ItemPointer) : List Value :=
  if location = ⟨0, 0⟩ then [1, 10] else [1, 20]

def atLeastTen : IndexScanPlan :=
  ⟨⟨[1], [.compareGreaterThanOrEqualTo], [10]⟩, fun _ => true, false, false, false⟩

theorem execSecondaryIndexLookup_emits_updated_row_twice :
    rowInserted.ok ∧ insertCommitted.2.2 = .success ∧ rowUpdated.ok ∧
      updateCommitted.2.2 = .success ∧
      (execSecondaryIndexLookup updateCommitted.1 (TransactionContext.init 0 .serializable 4 4)
          rowValues (updatedIndexes.1.getD 1 ⟨.default, [], []⟩) atLeastTen 4).map
        (fun r => r.2.2) = some [⟨0, 1⟩, ⟨0, 1⟩] := by
  decide

end Peloton.Executor
