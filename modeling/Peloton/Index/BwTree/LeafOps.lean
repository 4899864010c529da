import Peloton.Index.BwTree.Consolidate

set_option autoImplicit false

namespace Peloton.Index.BwTree

variable {K V : Type} [LinearOrder K] [DecidableEq V]

namespace LeafChain

def contains : LeafChain K V → K × V → Bool
  | leafNode items highKeyPair, kv =>
    decide (kv ∈ items) && (highKeyPair.2 == INVALID_NODE_ID || decide (kv.1 < highKeyPair.1))
  | leafInsertNode item _ child, kv => decide (kv = item) || child.contains kv
  | leafDeleteNode item _ child, kv => !decide (kv = item) && child.contains kv
  | leafSplitNode (splitKey, _) _ child, kv => decide (kv.1 < splitKey) && child.contains kv
  | leafRemoveNode _ child, kv => child.contains kv
  | leafMergeNode _ rightMerge child, kv => child.contains kv || rightMerge.contains kv

def keys : LeafChain K V → List K
  | leafNode items _ => items.map Prod.fst
  | leafInsertNode item _ child => item.1 :: child.keys
  | leafDeleteNode item _ child => item.1 :: child.keys
  | leafSplitNode _ _ child => child.keys
  | leafRemoveNode _ child => child.keys
  | leafMergeNode _ rightMerge child => child.keys ++ rightMerge.keys

def InRange (node : LeafChain K V) (searchKey : K) : Prop :=
  node.getNextNodeID = INVALID_NODE_ID ∨ searchKey < node.getHighKeyPair.1

instance (node : LeafChain K V) (searchKey : K) : Decidable (node.InRange searchKey) :=
  inferInstanceAs (Decidable (_ ∨ _))

end LeafChain

-- The chains the tree posts: base pages sorted by key, insert and delete records whose index
-- pair comes from the existence check on the chain they are posted on, split records inside
-- the range, and merge records that join a left chain with its removed right sibling.
inductive Built : LeafChain K V → Prop
  | base (items : List (K × V)) (highKeyPair : K × NodeID)
      (sorted : items.Pairwise (fun a b => a.1 ≤ b.1)) (nodup : items.Nodup)
      (below : ∀ p ∈ items, highKeyPair.2 ≠ INVALID_NODE_ID → p.1 < highKeyPair.1) :
      Built (.leafNode items highKeyPair)
  | insert (node : LeafChain K V) (key : K) (value : V) (built : Built node)
      (inRange : node.InRange key) (absent : (navigateLeafNodeExists key value node).1 = none) :
      Built (.leafInsertNode (key, value) (navigateLeafNodeExists key value node).2 node)
  | delete (node : LeafChain K V) (key : K) (value : V) (built : Built node)
      (inRange : node.InRange key) (present : (navigateLeafNodeExists key value node).1 ≠ none) :
      Built (.leafDeleteNode (key, value) (navigateLeafNodeExists key value node).2 node)
  | split (node : LeafChain K V) (splitKey : K) (siblingId : NodeID) (siblingItemCount : Int)
      (built : Built node) (sibling : siblingId ≠ INVALID_NODE_ID) (inRange : node.InRange splitKey) :
      Built (.leafSplitNode (splitKey, siblingId) siblingItemCount node)
  | merge (left right : LeafChain K V) (mergeKey : K) (removedId : NodeID)
      (builtLeft : Built left) (builtRight : Built right)
      (highKey : left.getHighKeyPair = (mergeKey, removedId)) (removed : removedId ≠ INVALID_NODE_ID)
      (rightKeys : ∀ k ∈ right.keys, mergeKey ≤ k) :
      Built (.leafMergeNode (mergeKey, removedId) right left)

def mergedLeftPage : LeafChain Nat Nat := .leafNode [(1, 100), (5, 200)] (10, 3)

def mergedRightPage : LeafChain Nat Nat := .leafNode [(11, 300)] (0, INVALID_NODE_ID)

def insertAboveMerge : LeafChain Nat Nat :=
  let merged : LeafChain Nat Nat := .leafMergeNode (10, 3) mergedRightPage mergedLeftPage
  .leafInsertNode (10, 400) (navigateLeafNodeExists 10 400 merged).2 merged

def identityHash : BwTreeHash Nat Nat := ⟨id, id⟩

theorem insertAboveMerge_built : Built insertAboveMerge := by
  apply Built.insert
  · apply Built.merge mergedLeftPage mergedRightPage 10 3
    · exact Built.base _ _ (by decide) (by decide) (by decide)
    · exact Built.base _ _ (by decide) (by decide) (by decide)
    · rfl
    · decide
    · decide
  · decide
  · decide

-- The insert's hint (index 0 of the right page) becomes end_index on the left page, so the
-- lookup of key 5 stops before the pair (5, 200) that consolidation keeps.
theorem navigateLeafNode_skips_left_branch :
    Built insertAboveMerge ∧ insertAboveMerge.InRange 5 ∧
      navigateLeafNodeValues 5 insertAboveMerge (initialValueCollect identityHash) = [] ∧
      (5, 200) ∈ (match collectAllValuesOnLeaf identityHash insertAboveMerge with
        | .leafNode items _ => items
        | _ => []) ∧
      insertAboveMerge.contains (5, 200) = true :=
  ⟨insertAboveMerge_built, by decide, by decide, by decide, by decide⟩

-- Insert() once Traverse has stopped on the leaf: false when the pair is found, else the delta.
def postLeafInsert (node : LeafChain K V) (key : K) (value : V) : Bool × LeafChain K V :=
  match navigateLeafNodeExists key value node with
  | (some _, _) => (false, node)
  | (none, indexPair) => (true, .leafInsertNode (key, value) indexPair node)

-- Delete() once Traverse has stopped on the leaf.
def postLeafDelete (node : LeafChain K V) (key : K) (value : V) : Bool × LeafChain K V :=
  match navigateLeafNodeExists key value node with
  | (none, _) => (false, node)
  | (some _, indexPair) => (true, .leafDeleteNode (key, value) indexPair node)

-- ConditionalInsert() once Traverse has stopped on the leaf: the result, *predicate_satisfied
-- and the chain.
def postLeafConditionalInsert (h : BwTreeHash K V) (node : LeafChain K V) (key : K) (value : V)
    (predicate : V → Bool) : Bool × Bool × LeafChain K V :=
  let r := navigateLeafNodePredicate key value predicate node
    (BloomFilter.empty (fun a b => decide (a = b)) h.valueHashObj)
    (BloomFilter.empty (fun a b => decide (a = b)) h.valueHashObj)
  if r.predicateSatisfied then (false, true, node)
  else if r.item.isSome then (false, false, node)
  else (true, false, .leafInsertNode (key, value) (r.indexPair.getD (0, false)) node)

-- GetValue() on the leaf the read-optimized traversal stops on.
def leafGetValue (h : BwTreeHash K V) (node : LeafChain K V) (key : K) : List V :=
  navigateLeafNodeValues key node (initialValueCollect h)

-- TryConsolidateNode() on a leaf snapshot.
def tryConsolidateLeaf (h : BwTreeHash K V) (node : LeafChain K V) : LeafChain K V :=
  if node.isDeltaNode ∧ LEAF_DELTA_CHAIN_LENGTH_THRESHOLD ≤ node.getDepth then
    collectAllValuesOnLeaf h node
  else node

end Peloton.Index.BwTree
