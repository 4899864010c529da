import Peloton.Index.BwTree.LeafChain

set_option autoImplicit false

namespace Peloton.Index.BwTree

variable {K V : Type} [LinearOrder K] [DecidableEq V]

-- What the sorted small set holds: a pointer to a LeafInsertNode or a LeafDeleteNode.
structure LeafDataNode (K V : Type) where
  type : NodeType
  item : K × V
  indexPair : Nat × Bool
  deriving DecidableEq, Repr

def leafDataNodeCmp (a b : LeafDataNode K V) : Bool :=
  decide (a.item.1 < b.item.1) || (decide (a.item.1 = b.item.1) && decide (a.indexPair.1 < b.indexPair.1))

structure ConsolidateState (K V : Type) where
  sss : SortedSmallSet (LeafDataNode K V)
  deltaSet : BloomFilter (K × V)
  newLeaf : List (K × V)

def sssEndCount (highKeyPair : K × NodeID) (live : List (LeafDataNode K V)) : Nat :=
  if highKeyPair.2 = INVALID_NODE_ID then live.length
  else live.length - (live.reverse.takeWhile (fun d => !decide (d.item.1 < highKeyPair.1))).length

def roundStart (items : List (K × V)) (d : LeafDataNode K V) (copyStart : Nat)
    (out : List (K × V)) : List (K × V) :=
  out ++ pushRange items copyStart d.indexPair.1 ++ (if d.type = .leafInsertType then [d.item] else [])

def mergeDeltas (items : List (K × V)) :
    List (LeafDataNode K V) → Option (Nat × Bool) → Nat → List (K × V) → Nat × List (K × V)
  | [], none, copyStart, out => (copyStart, out)
  | [], some (_, overwritten), copyStart, out =>
    (if overwritten then copyStart + 1 else copyStart, out)
  | d :: rest, some (current, overwritten), copyStart, out =>
    if d.indexPair.1 = current then
      mergeDeltas items rest (some (current, overwritten || d.indexPair.2)) copyStart
        (if d.type = .leafInsertType then out ++ [d.item] else out)
    else
      let copyStart' := if overwritten then copyStart + 1 else copyStart
      mergeDeltas items rest (some d.indexPair) d.indexPair.1 (roundStart items d copyStart' out)
  | d :: rest, none, copyStart, out =>
    mergeDeltas items rest (some d.indexPair) d.indexPair.1 (roundStart items d copyStart out)

def mergeBasePage (highKeyPair : K × NodeID) (items : List (K × V))
    (st : ConsolidateState K V) : ConsolidateState K V :=
  let copyEndIndex :=
    if highKeyPair.2 = INVALID_NODE_ID then items.length
    else lowerBound items 0 items.length highKeyPair.1
  let n := sssEndCount highKeyPair st.sss.live
  let merged := mergeDeltas items (st.sss.live.take n) none 0 st.newLeaf
  { st with
    sss := { st.sss with live := st.sss.live.drop n }
    newLeaf := merged.2 ++ pushRange items merged.1 copyEndIndex }

def recordDelta (type : NodeType) (item : K × V) (indexPair : Nat × Bool)
    (st : ConsolidateState K V) : ConsolidateState K V :=
  if st.deltaSet.existsScalar item = false then
    { st with
      deltaSet := st.deltaSet.insertScalar item
      sss := st.sss.insertNoDedup ⟨type, item, indexPair⟩ }
  else st

-- CollectAllValuesOnLeafRecursive; the high key is the one of the node the call started on.
def collectAllValuesOnLeafRecursive (highKeyPair : K × NodeID) :
    LeafChain K V → ConsolidateState K V → ConsolidateState K V
  | .leafNode items _, st => mergeBasePage highKeyPair items st
  | .leafInsertNode item indexPair child, st =>
    collectAllValuesOnLeafRecursive highKeyPair child
      (recordDelta .leafInsertType item indexPair st)
  | .leafDeleteNode item indexPair child, st =>
    collectAllValuesOnLeafRecursive highKeyPair child
      (recordDelta .leafDeleteType item indexPair st)
  -- A remove node falls through to the split case and follows its child.
  | .leafRemoveNode _ child, st => collectAllValuesOnLeafRecursive highKeyPair child st
  | .leafSplitNode _ _ child, st => collectAllValuesOnLeafRecursive highKeyPair child st
  | .leafMergeNode _ rightMerge child, st =>
    collectAllValuesOnLeafRecursive rightMerge.getHighKeyPair rightMerge
      (collectAllValuesOnLeafRecursive child.getHighKeyPair child st)

def initialConsolidateState (h : BwTreeHash K V) : ConsolidateState K V :=
  { sss := SortedSmallSet.empty leafDataNodeCmp (fun _ _ => false)
    deltaSet := BloomFilter.empty (fun a b => decide (a = b)) h.keyValuePairHashObj
    newLeaf := [] }

-- CollectAllValuesOnLeaf: the consolidated LeafNode keeps the chain's high key.
def collectAllValuesOnLeaf (h : BwTreeHash K V) (node : LeafChain K V) : LeafChain K V :=
  .leafNode
    (collectAllValuesOnLeafRecursive node.getHighKeyPair node (initialConsolidateState h)).newLeaf
    node.getHighKeyPair

end Peloton.Index.BwTree
