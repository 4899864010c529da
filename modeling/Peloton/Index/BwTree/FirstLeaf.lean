import Peloton.Index.BwTree.LeafOps

set_option autoImplicit false

namespace Peloton.Index.BwTree

variable {K V : Type} [LinearOrder K] [DecidableEq V]

inductive BwTreeOp (K V : Type) where
  | insert (key : K) (value : V)
  | delete (key : K) (value : V)
  | conditionalInsert (key : K) (value : V) (predicate : V → Bool)
  | getValue (searchKey : K)

inductive BwTreeResult (V : Type) where
  | success (ret : Bool)
  | conditional (ret predicateSatisfied : Bool)
  | values (valueList : List V)
  deriving DecidableEq, Repr

def emptyFirstLeaf (highKey : K) : LeafChain K V := .leafNode [] (highKey, INVALID_NODE_ID)

def noSplit (node : LeafChain K V) : Bool :=
  match node with
  | .leafNode items _ => decide (items.length < LEAF_NODE_SIZE_UPPER_THRESHOLD)
  | _ => true

-- One operation on the first leaf; none once AdjustNodeSize would split it.
def firstLeafStep (h : BwTreeHash K V) (leaf : LeafChain K V) :
    BwTreeOp K V → Option (BwTreeResult V × LeafChain K V)
  | .getValue searchKey => some (.values (leafGetValue h leaf searchKey), leaf)
  | op =>
    let loaded := tryConsolidateLeaf h leaf
    if noSplit loaded = false then none
    else match op with
      | .insert key value =>
        let r := postLeafInsert loaded key value
        some (.success r.1, r.2)
      | .delete key value =>
        let r := postLeafDelete loaded key value
        some (.success r.1, r.2)
      | .conditionalInsert key value predicate =>
        let r := postLeafConditionalInsert h loaded key value predicate
        some (.conditional r.1 r.2.1, r.2.2)
      | .getValue searchKey => some (.values (leafGetValue h loaded searchKey), loaded)

def firstLeafRun (h : BwTreeHash K V) :
    LeafChain K V → List (BwTreeOp K V) → Option (List (BwTreeResult V) × LeafChain K V)
  | leaf, [] => some ([], leaf)
  | leaf, op :: ops => do
    let (r, leaf') ← firstLeafStep h leaf op
    let (rs, final) ← firstLeafRun h leaf' ops
    pure (r :: rs, final)

def duplicatingOps : List (BwTreeOp Nat Nat) :=
  (List.range 8).map (fun i => .insert (i + 1) (i + 1)) ++
    [.delete 1 1, .conditionalInsert 1 1 (fun _ => false)] ++
    (List.range 7).map (fun i => .insert (i + 9) (i + 9)) ++ [.getValue 1]

theorem firstLeafRun_duplicates_value :
    (firstLeafRun identityHash (emptyFirstLeaf 0) duplicatingOps).map Prod.fst =
      some ((List.range 8).map (fun _ => .success true) ++
        [.success true, .conditional true false] ++
        (List.range 7).map (fun _ => .success true) ++ [.values [1, 1]]) := by
  decide

def leafItems : LeafChain K V → List (K × V)
  | .leafNode items _ => items
  | _ => []

-- After the sixth of the seven later inserts the chain is LEAF_DELTA_CHAIN_LENGTH_THRESHOLD deep,
-- so the next operation consolidates it: CollectAllValuesOnLeaf keeps (1, 1) twice and returns one
-- item more than the item_count of the top delta.
theorem collectAllValuesOnLeaf_keeps_duplicate :
    (firstLeafRun identityHash (emptyFirstLeaf 0) (duplicatingOps.take 16)).map
      (fun run => ((leafItems (collectAllValuesOnLeaf identityHash run.2)).count (1, 1),
        run.2.getDepth, run.2.getItemCount,
        (leafItems (collectAllValuesOnLeaf identityHash run.2)).length)) =
      some (2, LEAF_DELTA_CHAIN_LENGTH_THRESHOLD, 14, 15) := by
  decide

end Peloton.Index.BwTree
