import Peloton.Executor.LogicalTile

set_option autoImplicit false

namespace Peloton.Executor

open Peloton.Type

inductive AggregateType where
  | AGGREGATE_COUNT
  | AGGREGATE_COUNT_STAR
  | AGGREGATE_SUM
  | AGGREGATE_AVG
  | AGGREGATE_MIN
  | AGGREGATE_MAX
  deriving DecidableEq, Repr

-- An aggregate term of the plan: its type, DISTINCT, and the input column its expression reads
-- (none for COUNT(*), which advances with the INTEGER 1).
structure AggTerm where
  aggtype : AggregateType
  distinct : Bool
  expression : Option Nat
  deriving DecidableEq, Repr

-- What Finalize returns: a BIGINT count, a value of the input, or the INTEGER NULL; for SUM the
-- first addend Add-ed with each later one in turn, and for AVG that sum Divide-d by the DECIMAL
-- count.
inductive AggregateValue (V : Type) where
  | bigInt (count : Nat)
  | value (v : V)
  | null
  | sum (addends : List V)
  | average (addends : List V) (count : Nat)
  deriving DecidableEq, Repr

variable {V : Type} [SqlType V]

def valueMin (left right : V) : V :=
  if Value.CompareLessThan left right = .CmpTrue then left else right

def valueMax (left right : V) : V :=
  if Value.CompareGreaterThanEquals left right = .CmpTrue then left else right

-- One AbstractAttributeAggregator, with the fields of every subclass: count for COUNT, COUNT(*)
-- and AVG, aggregate for MIN and MAX (none until have_advanced), the values SUM and AVG have
-- added into their aggregate, and distinct_set_, an unordered_set under Value::hash and
-- Value::equal_to kept as a map to Unit.
structure AttributeAggregator (V : Type) where
  aggtype : AggregateType
  isDistinct : Bool
  distinctSet : List (V × Unit)
  count : Nat
  aggregate : Option V
  addends : List V

namespace AttributeAggregator

-- GetAttributeAggregatorInstance followed by SetDistinct.
def GetAttributeAggregatorInstance (term : AggTerm) : AttributeAggregator V :=
  ⟨term.aggtype, term.distinct, [], 0, none, []⟩

def DAdvance (a : AttributeAggregator V) (val : V) : AttributeAggregator V :=
  match a.aggtype with
  | .AGGREGATE_COUNT => if SqlType.IsNull val then a else { a with count := a.count + 1 }
  | .AGGREGATE_COUNT_STAR => { a with count := a.count + 1 }
  | .AGGREGATE_SUM => if SqlType.IsNull val then a else { a with addends := a.addends ++ [val] }
  | .AGGREGATE_AVG =>
    if SqlType.IsNull val then a else { a with addends := a.addends ++ [val], count := a.count + 1 }
  | .AGGREGATE_MIN =>
    if SqlType.IsNull val then a
    else { a with aggregate := some ((a.aggregate.map (valueMin · val)).getD val) }
  | .AGGREGATE_MAX =>
    if SqlType.IsNull val then a
    else { a with aggregate := some ((a.aggregate.map (valueMax · val)).getD val) }

def DFinalize (a : AttributeAggregator V) : AggregateValue V :=
  match a.aggtype with
  | .AGGREGATE_COUNT | .AGGREGATE_COUNT_STAR => .bigInt a.count
  -- have_advanced is set by the first non-NULL value
  | .AGGREGATE_SUM => if a.addends.isEmpty then .null else .sum a.addends
  | .AGGREGATE_AVG => if a.count = 0 then .null else .average a.addends a.count
  | .AGGREGATE_MIN | .AGGREGATE_MAX => (a.aggregate.map .value).getD .null

-- A DISTINCT aggregate only collects the value; Finalize replays the set through DAdvance.
def Advance (stdHash : HashInput → UInt64) (a : AttributeAggregator V) (val : V) :
    AttributeAggregator V :=
  if a.isDistinct then
    { a with
      distinctSet := HashTable.upsert (fun v => stdHash (SqlType.hashInput v))
        (fun x y => Value.CompareEquals x y = .CmpTrue) a.distinctSet val () id }
  else a.DAdvance val

def Finalize (a : AttributeAggregator V) : AggregateValue V :=
  if a.isDistinct then (a.distinctSet.foldl (fun a entry => a.DAdvance entry.1) a).DFinalize
  else a.DFinalize

/-! ### SUM and AVG -/

theorem DAdvance_isDistinct (a : AttributeAggregator V) (val : V) :
    (a.DAdvance val).isDistinct = a.isDistinct := by
  unfold DAdvance
  split <;> (try split) <;> rfl

theorem foldl_DAdvance_isDistinct (vals : List V) (a : AttributeAggregator V) :
    (vals.foldl DAdvance a).isDistinct = a.isDistinct := by
  induction vals generalizing a with
  | nil => rfl
  | cons val rest ih => rw [List.foldl_cons, ih, DAdvance_isDistinct]

theorem foldl_Advance_of_not_distinct (stdHash : HashInput → UInt64) (vals : List V) :
    ∀ {a : AttributeAggregator V}, a.isDistinct = false →
      vals.foldl (Advance stdHash) a = vals.foldl DAdvance a := by
  induction vals with
  | nil => intro a _; rfl
  | cons val rest ih =>
    intro a notDistinct
    simp only [List.foldl_cons, Advance, notDistinct, Bool.false_eq_true, if_false]
    exact ih ((DAdvance_isDistinct a val).trans notDistinct)

theorem DAdvance_addends (a : AttributeAggregator V) (val : V)
    (sumOrAvg : a.aggtype = .AGGREGATE_SUM ∨ a.aggtype = .AGGREGATE_AVG) :
    (a.DAdvance val).aggtype = a.aggtype ∧
      (a.DAdvance val).addends = a.addends ++ [val].filter (fun v => !SqlType.IsNull v) ∧
      (a.aggtype = .AGGREGATE_AVG →
        (a.DAdvance val).count = a.count + ([val].filter (fun v => !SqlType.IsNull v)).length) := by
  rcases sumOrAvg with kind | kind <;> cases null : SqlType.IsNull val <;>
    simp [DAdvance, kind, null]

theorem foldl_DAdvance_addends (vals : List V) :
    ∀ {a : AttributeAggregator V}, (a.aggtype = .AGGREGATE_SUM ∨ a.aggtype = .AGGREGATE_AVG) →
      (vals.foldl DAdvance a).aggtype = a.aggtype ∧
      (vals.foldl DAdvance a).addends = a.addends ++ vals.filter (fun v => !SqlType.IsNull v) ∧
      (a.aggtype = .AGGREGATE_AVG →
        (vals.foldl DAdvance a).count = a.count + (vals.filter (fun v => !SqlType.IsNull v)).length) := by
  induction vals with
  | nil => intro a _; simp
  | cons val rest ih =>
    intro a sumOrAvg
    obtain ⟨sameType, addends, counted⟩ := DAdvance_addends a val sumOrAvg
    obtain ⟨restType, restAddends, restCounted⟩ := ih (sameType ▸ sumOrAvg)
    have split : (val :: rest).filter (fun v => !SqlType.IsNull v) =
        [val].filter (fun v => !SqlType.IsNull v) ++ rest.filter (fun v => !SqlType.IsNull v) := by
      rw [← List.filter_append]
      rfl
    refine ⟨restType.trans sameType, ?_, fun avg => ?_⟩
    · rw [List.foldl_cons, restAddends, addends, split, List.append_assoc]
    · rw [List.foldl_cons, restCounted (sameType.trans avg), counted avg, split, List.length_append,
        Nat.add_assoc]

-- Without DISTINCT, the aggregate is DFinalize of its running value.
theorem finalize_foldl_of_not_distinct (stdHash : HashInput → UInt64) {term : AggTerm}
    (notDistinct : term.distinct = false) (vals : List V) :
    (vals.foldl (Advance stdHash) (GetAttributeAggregatorInstance term)).Finalize =
      (vals.foldl DAdvance (GetAttributeAggregatorInstance term : AttributeAggregator V)).DFinalize := by
  have fresh : (GetAttributeAggregatorInstance term : AttributeAggregator V).isDistinct = false := notDistinct
  rw [foldl_Advance_of_not_distinct stdHash vals fresh, Finalize, foldl_DAdvance_isDistinct, fresh,
    if_neg Bool.false_ne_true]

theorem finalize_sum (stdHash : HashInput → UInt64) {term : AggTerm} (sum : term.aggtype = .AGGREGATE_SUM)
    (notDistinct : term.distinct = false) (vals : List V) :
    (vals.foldl (Advance stdHash) (GetAttributeAggregatorInstance term)).Finalize =
      if (vals.filter (fun v => !SqlType.IsNull v)).isEmpty then .null
      else .sum (vals.filter (fun v => !SqlType.IsNull v)) := by
  obtain ⟨sameType, addends, -⟩ := foldl_DAdvance_addends vals
    (a := (GetAttributeAggregatorInstance term : AttributeAggregator V)) (.inl sum)
  rw [finalize_foldl_of_not_distinct stdHash notDistinct, DFinalize, sameType, addends]
  simp only [GetAttributeAggregatorInstance, sum, List.nil_append]

theorem finalize_avg (stdHash : HashInput → UInt64) {term : AggTerm} (avg : term.aggtype = .AGGREGATE_AVG)
    (notDistinct : term.distinct = false) (vals : List V) :
    (vals.foldl (Advance stdHash) (GetAttributeAggregatorInstance term)).Finalize =
      if (vals.filter (fun v => !SqlType.IsNull v)).isEmpty then .null
      else .average (vals.filter (fun v => !SqlType.IsNull v)) (vals.filter (fun v => !SqlType.IsNull v)).length := by
  obtain ⟨sameType, addends, counted⟩ := foldl_DAdvance_addends vals
    (a := (GetAttributeAggregatorInstance term : AttributeAggregator V)) (.inr avg)
  rw [finalize_foldl_of_not_distinct stdHash notDistinct, DFinalize, sameType, addends, counted avg]
  simp only [GetAttributeAggregatorInstance, avg, List.nil_append, Nat.zero_add, List.length_eq_zero_iff,
    List.isEmpty_iff]

end AttributeAggregator

structure AggregatePlan (V : Type) where
  groupbyColIds : List Nat
  uniqueAggTerms : List AggTerm
  predicate : Option (List V → List (AggregateValue V) → Option Bool)

variable (stdHash : HashInput → UInt64) (plan : AggregatePlan V) (one : V)

def argument (term : AggTerm) (row : List V) : V :=
  match term.expression with
  | none => one
  | some column => row.getD column one

def advanceAll (aggregates : List (AttributeAggregator V)) (row : List V) :
    List (AttributeAggregator V) :=
  List.zipWith (fun term a => a.Advance stdHash (argument one term row)) plan.uniqueAggTerms
    aggregates

def freshAggregates : List (AttributeAggregator V) :=
  plan.uniqueAggTerms.map AttributeAggregator.GetAttributeAggregatorInstance

-- Helper: the group's output row, as its delegate tuple and aggregate values (the projection
-- over them is left out), unless the predicate over them is false.
def Helper (aggregates : List (AttributeAggregator V)) (delegate : List V) :
    List (List V × List (AggregateValue V)) :=
  let values := aggregates.map AttributeAggregator.Finalize
  match plan.predicate with
  | some predicate => if predicate delegate values = some false then [] else [(delegate, values)]
  | none => [(delegate, values)]

structure SortedAggregator (V : Type) where
  delegateTupleValues : List V
  aggregates : List (AttributeAggregator V)
  output : List (List V × List (AggregateValue V))

def crossesGroup (next delegate : List V) : Bool :=
  (List.zip (project next plan.groupbyColIds) (project delegate plan.groupbyColIds)).any
    fun pair => Value.CompareNotEquals pair.1 pair.2 = .CmpTrue

namespace SortedAggregator

def empty : SortedAggregator V := ⟨[], [], []⟩

def Advance (s : SortedAggregator V) (next : List V) : SortedAggregator V :=
  let crossed := !s.delegateTupleValues.isEmpty && crossesGroup plan next s.delegateTupleValues
  let startNewAgg := s.delegateTupleValues.isEmpty || crossed
  let output := if crossed then s.output ++ Helper plan s.aggregates s.delegateTupleValues
    else s.output
  let aggregates := if startNewAgg then freshAggregates plan else s.aggregates
  let delegate := if startNewAgg then next else s.delegateTupleValues
  ⟨delegate, advanceAll stdHash plan one aggregates next, output⟩

def Finalize (s : SortedAggregator V) : List (List V × List (AggregateValue V)) :=
  if s.delegateTupleValues.isEmpty then s.output
  else s.output ++ Helper plan s.aggregates s.delegateTupleValues

def run (rows : List (List V)) : List (List V × List (AggregateValue V)) :=
  Finalize plan (rows.foldl (Advance stdHash plan one) empty)

end SortedAggregator

theorem crossesGroup_of_null_delegate (next delegate : List V)
    (null : ∀ v ∈ project delegate plan.groupbyColIds, SqlType.IsNull v = true) :
    crossesGroup plan next delegate = false := by
  rw [crossesGroup, List.any_eq_false]
  intro pair mem
  have delegateNull := null pair.2 (List.of_mem_zip mem).2
  have notDifferent : Value.CompareNotEquals pair.1 pair.2 ≠ .CmpTrue :=
    Value.compareWith_ne_cmpTrue_of_null _ pair.1 pair.2 (.inr delegateNull)
  simpa using notDifferent

namespace SortedAggregator

theorem advance_of_null_delegate (s : SortedAggregator V) (next : List V)
    (started : s.delegateTupleValues ≠ [])
    (null : ∀ v ∈ project s.delegateTupleValues plan.groupbyColIds, SqlType.IsNull v = true) :
    (Advance stdHash plan one s next).output = s.output ∧
      (Advance stdHash plan one s next).delegateTupleValues = s.delegateTupleValues := by
  have notEmpty : s.delegateTupleValues.isEmpty = false := List.isEmpty_eq_false_iff.2 started
  simp [Advance, notEmpty, crossesGroup_of_null_delegate plan next _ null]

theorem foldl_advance_of_null_delegate (rows : List (List V)) (s : SortedAggregator V)
    (started : s.delegateTupleValues ≠ [])
    (null : ∀ v ∈ project s.delegateTupleValues plan.groupbyColIds, SqlType.IsNull v = true) :
    (rows.foldl (Advance stdHash plan one) s).output = s.output ∧
      (rows.foldl (Advance stdHash plan one) s).delegateTupleValues = s.delegateTupleValues := by
  induction rows generalizing s with
  | nil => simp
  | cons next rest ih =>
    obtain ⟨sameOutput, sameDelegate⟩ := advance_of_null_delegate stdHash plan one s next started null
    rw [← sameDelegate] at started null
    obtain ⟨restOutput, restDelegate⟩ := ih _ started null
    exact ⟨restOutput.trans sameOutput, restDelegate.trans sameDelegate⟩

end SortedAggregator

def ValueVectorHasher (values : List V) : UInt64 := ContainerTuple.HashCode stdHash values

def ValueVectorCmp (lhs rhs : List V) : Bool := ContainerTuple.EqualsNoSchemaCheck lhs rhs

namespace HashAggregator

abbrev AggregatesMap (V : Type) := List (List V × (List V × List (AttributeAggregator V)))

def Advance (map : AggregatesMap V) (cur : List V) : AggregatesMap V :=
  HashTable.upsert (ValueVectorHasher stdHash) ValueVectorCmp map (project cur plan.groupbyColIds)
    (cur, freshAggregates plan) fun list => (list.1, advanceAll stdHash plan one list.2 cur)

def Finalize (map : AggregatesMap V) : List (List V × List (AggregateValue V)) :=
  map.flatMap fun entry => Helper plan entry.2.2 entry.2.1

def run (rows : List (List V)) : List (List V × List (AggregateValue V)) :=
  Finalize plan (rows.foldl (Advance stdHash plan one) [])

end HashAggregator

def sqlGroupKeys {W : Type} [DecidableEq W] (groupbyColIds : List Nat) (rows : List (List W)) :
    List (List W) :=
  (rows.map (project · groupbyColIds)).dedup

def countStarByFirstColumn : AggregatePlan IntegerValue :=
  ⟨[0], [⟨.AGGREGATE_COUNT_STAR, false, none⟩], none⟩

-- With the NULL key first or last, the sorted input (NULL), (1) is one group counted twice.
theorem sortedAggregator_merges_null_group (stdHash : HashInput → UInt64) :
    SortedAggregator.run stdHash countStarByFirstColumn ⟨1⟩ [[IntegerValue.null], [⟨1⟩]] =
        [([IntegerValue.null], [.bigInt 2])] ∧
      SortedAggregator.run stdHash countStarByFirstColumn ⟨1⟩ [[⟨1⟩], [IntegerValue.null]] =
        [([⟨1⟩], [.bigInt 2])] ∧
      (sqlGroupKeys [0] [[IntegerValue.null], [(⟨1⟩ : IntegerValue)]]).length = 2 :=
  ⟨rfl, rfl, by decide⟩

end Peloton.Executor
