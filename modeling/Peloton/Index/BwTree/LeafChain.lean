import Peloton.Index.BloomFilter
import Peloton.Index.SortedSmallSet

set_option autoImplicit false

namespace Peloton.Index.BwTree

abbrev NodeID := Nat

def INVALID_NODE_ID : NodeID := 0
def FIRST_LEAF_NODE_ID : NodeID := 2

def LEAF_DELTA_CHAIN_LENGTH_THRESHOLD : Nat := 8
def LEAF_NODE_SIZE_UPPER_THRESHOLD : Nat := 128
def LEAF_NODE_SIZE_LOWER_THRESHOLD : Nat := 32

inductive NodeType where
  | innerType | innerInsertType | innerDeleteType | innerSplitType | innerRemoveType
  | innerMergeType | innerAbortType
  | leafType | leafInsertType | leafSplitType | leafDeleteType | leafRemoveType | leafMergeType
  deriving DecidableEq, Repr

-- The hash members of the tree object; keys are compared by the linear order on K.
structure BwTreeHash (K V : Type) where
  keyHashObj : K → Nat
  valueHashObj : V → Nat

def BwTreeHash.keyValuePairHashObj {K V : Type} (h : BwTreeHash K V) (kvp : K × V) : Nat :=
  h.keyHashObj kvp.1 ^^^ h.valueHashObj kvp.2

-- A leaf delta chain; every delta points to the node it was posted on.
inductive LeafChain (K V : Type) where
  | leafNode (items : List (K × V)) (highKeyPair : K × NodeID)
  | leafInsertNode (item : K × V) (indexPair : Nat × Bool) (child : LeafChain K V)
  | leafDeleteNode (item : K × V) (indexPair : Nat × Bool) (child : LeafChain K V)
  | leafSplitNode (insertItem : K × NodeID) (siblingItemCount : Int) (child : LeafChain K V)
  | leafRemoveNode (removedId : NodeID) (child : LeafChain K V)
  | leafMergeNode (deleteItem : K × NodeID) (rightMerge : LeafChain K V) (child : LeafChain K V)
  deriving DecidableEq, Repr

namespace LeafChain

variable {K V : Type}

def getType : LeafChain K V → NodeType
  | leafNode .. => .leafType
  | leafInsertNode .. => .leafInsertType
  | leafDeleteNode .. => .leafDeleteType
  | leafSplitNode .. => .leafSplitType
  | leafRemoveNode .. => .leafRemoveType
  | leafMergeNode .. => .leafMergeType

def getHighKeyPair : LeafChain K V → K × NodeID
  | leafNode _ highKeyPair => highKeyPair
  | leafInsertNode _ _ child => child.getHighKeyPair
  | leafDeleteNode _ _ child => child.getHighKeyPair
  | leafSplitNode insertItem _ _ => insertItem
  | leafRemoveNode _ child => child.getHighKeyPair
  | leafMergeNode _ rightMerge _ => rightMerge.getHighKeyPair

def getNextNodeID (node : LeafChain K V) : NodeID := node.getHighKeyPair.2

def getDepth : LeafChain K V → Nat
  | leafNode .. => 0
  | leafInsertNode _ _ child => child.getDepth + 1
  | leafDeleteNode _ _ child => child.getDepth + 1
  | leafSplitNode _ _ child => child.getDepth
  | leafRemoveNode _ child => child.getDepth
  | leafMergeNode _ rightMerge child => child.getDepth + rightMerge.getDepth

def getItemCount : LeafChain K V → Int
  | leafNode items _ => items.length
  | leafInsertNode _ _ child => child.getItemCount + 1
  | leafDeleteNode _ _ child => child.getItemCount - 1
  | leafSplitNode _ siblingItemCount child => child.getItemCount - siblingItemCount
  | leafRemoveNode _ child => child.getItemCount
  | leafMergeNode _ rightMerge child => child.getItemCount + rightMerge.getItemCount

def isDeltaNode (node : LeafChain K V) : Bool := node.getType != .leafType

end LeafChain

section Navigate

variable {K V : Type} [LinearOrder K] [DecidableEq V]

def lowerBound (items : List (K × V)) (first last : Nat) (searchKey : K) : Nat :=
  first + ((items.drop first).take (last - first)).findIdx (fun p => !decide (p.1 < searchKey))

def pushRange (items : List (K × V)) (first last : Nat) : List (K × V) :=
  (items.drop first).take (last - first)

structure ValueCollect (V : Type) where
  startIndex : Nat
  -- end_index = -1 is none
  endIndex : Option Nat
  presentSet : BloomFilter V
  deletedSet : BloomFilter V
  valueList : List V

def collectLeafItems (searchKey : K) (presentSet deletedSet : BloomFilter V) :
    List (K × V) → List V
  | [] => []
  | (k, v) :: rest =>
    if searchKey = k then
      (if deletedSet.existsScalar v = false ∧ presentSet.existsScalar v = false then [v] else []) ++
        collectLeafItems searchKey presentSet deletedSet rest
    else []

-- NavigateLeafNode(context, value_list), from the node left by NavigateSiblingChain.
def navigateLeafNodeValues (searchKey : K) : LeafChain K V → ValueCollect V → List V
  | .leafNode items _, st =>
    let copyStart := lowerBound items st.startIndex (st.endIndex.getD items.length) searchKey
    st.valueList ++ collectLeafItems searchKey st.presentSet st.deletedSet (items.drop copyStart)
  | .leafInsertNode (k, v) indexPair child, st =>
    if searchKey = k then
      if st.deletedSet.existsScalar v = false ∧ st.presentSet.existsScalar v = false then
        navigateLeafNodeValues searchKey child
          { st with presentSet := st.presentSet.insertScalar v, valueList := st.valueList ++ [v] }
      else navigateLeafNodeValues searchKey child st
    else if k < searchKey then
      navigateLeafNodeValues searchKey child { st with startIndex := indexPair.1 }
    else navigateLeafNodeValues searchKey child { st with endIndex := some indexPair.1 }
  | .leafDeleteNode (k, v) indexPair child, st =>
    if searchKey = k then
      if st.presentSet.existsScalar v = false then
        navigateLeafNodeValues searchKey child { st with deletedSet := st.deletedSet.insertScalar v }
      else navigateLeafNodeValues searchKey child st
    else if k < searchKey then
      navigateLeafNodeValues searchKey child { st with startIndex := indexPair.1 }
    else navigateLeafNodeValues searchKey child { st with endIndex := some indexPair.1 }
  -- A remove node is asserted never to be seen here; the model follows the removed chain.
  | .leafRemoveNode _ child, st => navigateLeafNodeValues searchKey child st
  -- The merge branch is chosen by key; start_index and end_index are carried over as they are.
  | .leafMergeNode (mergeKey, _) rightMerge child, st =>
    if ¬ searchKey < mergeKey then navigateLeafNodeValues searchKey rightMerge st
    else navigateLeafNodeValues searchKey child st
  | .leafSplitNode _ _ child, st => navigateLeafNodeValues searchKey child st

def initialValueCollect (h : BwTreeHash K V) : ValueCollect V :=
  { startIndex := 0, endIndex := none,
    presentSet := BloomFilter.empty (fun a b => decide (a = b)) h.valueHashObj,
    deletedSet := BloomFilter.empty (fun a b => decide (a = b)) h.valueHashObj, valueList := [] }

def scanLeafExists (searchKey : K) (searchValue : V) :
    List (K × V) → Nat → Option (K × V) × (Nat × Bool)
  | [], i => (none, (i, false))
  | (k, v) :: rest, i =>
    if k = searchKey then
      if v = searchValue then (some (k, v), (i, true))
      else scanLeafExists searchKey searchValue rest (i + 1)
    else (none, (i, false))

-- NavigateLeafNode(context, search_value, index_pair_p): the item found and *index_pair_p.
def navigateLeafNodeExists (searchKey : K) (searchValue : V) :
    LeafChain K V → Option (K × V) × (Nat × Bool)
  | .leafNode items _ =>
    let start := lowerBound items 0 items.length searchKey
    scanLeafExists searchKey searchValue (items.drop start) start
  | .leafInsertNode (k, v) indexPair child =>
    if searchKey = k ∧ v = searchValue then (some (k, v), indexPair)
    else navigateLeafNodeExists searchKey searchValue child
  | .leafDeleteNode (k, v) indexPair child =>
    if searchKey = k ∧ v = searchValue then (none, indexPair)
    else navigateLeafNodeExists searchKey searchValue child
  | .leafRemoveNode _ child => navigateLeafNodeExists searchKey searchValue child
  | .leafMergeNode (mergeKey, _) rightMerge child =>
    if ¬ searchKey < mergeKey then navigateLeafNodeExists searchKey searchValue rightMerge
    else navigateLeafNodeExists searchKey searchValue child
  | .leafSplitNode _ _ child => navigateLeafNodeExists searchKey searchValue child

structure PredicateResult (K V : Type) where
  item : Option (K × V)
  predicateSatisfied : Bool
  -- none when *index_pair_p is left unwritten
  indexPair : Option (Nat × Bool)

def scanLeafPredicate (searchKey : K) (value : V) (predicate : V → Bool)
    (presentSet deletedSet : BloomFilter V) :
    List (K × V) → Nat → PredicateResult K V
  | [], i => ⟨none, false, some (i, false)⟩
  | (k, v) :: rest, i =>
    if searchKey = k then
      if deletedSet.existsScalar v = false ∧ presentSet.existsScalar v = false then
        if predicate v then ⟨none, true, none⟩
        else if value = v then ⟨some (k, v), false, none⟩
        else scanLeafPredicate searchKey value predicate presentSet deletedSet rest (i + 1)
      else scanLeafPredicate searchKey value predicate presentSet deletedSet rest (i + 1)
    else ⟨none, false, some (i, false)⟩

-- NavigateLeafNode(context, value, index_pair_p, predicate, predicate_satisfied).
def navigateLeafNodePredicate (searchKey : K) (value : V) (predicate : V → Bool) :
    LeafChain K V → BloomFilter V → BloomFilter V → PredicateResult K V
  | .leafNode items _, presentSet, deletedSet =>
    let start := lowerBound items 0 items.length searchKey
    scanLeafPredicate searchKey value predicate presentSet deletedSet (items.drop start) start
  | .leafInsertNode (k, v) _ child, presentSet, deletedSet =>
    if searchKey = k ∧ deletedSet.existsScalar v = false ∧ presentSet.existsScalar v = false then
      if predicate v then ⟨none, true, none⟩
      else if value = v then ⟨some (k, v), false, none⟩
      else navigateLeafNodePredicate searchKey value predicate child
        (presentSet.insertScalar v) deletedSet
    else navigateLeafNodePredicate searchKey value predicate child presentSet deletedSet
  | .leafDeleteNode (k, v) _ child, presentSet, deletedSet =>
    if searchKey = k ∧ presentSet.existsScalar v = false then
      navigateLeafNodePredicate searchKey value predicate child presentSet
        (deletedSet.insertScalar v)
    else navigateLeafNodePredicate searchKey value predicate child presentSet deletedSet
  | .leafRemoveNode _ child, presentSet, deletedSet =>
    navigateLeafNodePredicate searchKey value predicate child presentSet deletedSet
  | .leafMergeNode (mergeKey, _) rightMerge child, presentSet, deletedSet =>
    if ¬ searchKey < mergeKey then
      navigateLeafNodePredicate searchKey value predicate rightMerge presentSet deletedSet
    else navigateLeafNodePredicate searchKey value predicate child presentSet deletedSet
  | .leafSplitNode _ _ child, presentSet, deletedSet =>
    navigateLeafNodePredicate searchKey value predicate child presentSet deletedSet

end Navigate

end Peloton.Index.BwTree
