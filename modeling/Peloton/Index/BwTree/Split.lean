import Peloton.Index.BwTree.LeafChain

set_option autoImplicit false

/-!
# Splitting a leaf node

`LeafNode::FindSplitPoint` picks the index at which an oversized leaf is cut, and
`LeafNode::GetSplitSibling` copies the items from that index on into the new right sibling,
whose low key is the split key. The split never divides the values of one key between the two
leaves, which is what lets a lookup search one leaf for all the values of a key.
-/

namespace Peloton.Index.BwTree

/-- A consolidated leaf node: its low and high key pairs and its items, sorted by key. -/
structure LeafNode (K V : Type) where
  lowKeyPair : K × NodeID
  highKeyPair : K × NodeID
  items : List (K × V)

namespace LeafNode

variable {K V : Type} [LinearOrder K]

def scanBackward (items : List (K × V)) (key : K) : Nat → Nat
  | 0 => 0
  | it + 1 => if (items[it + 1]?.map Prod.fst) = some key then scanBackward items key it else it + 1

def scanForward (key : K) : List (K × V) → Nat → Nat
  | [], it => it
  | kv :: rest, it => if kv.1 = key then scanForward key rest (it + 1) else it

/-- LeafNode::FindSplitPoint: the size of the left half, or -1 when neither scan leaves both
halves above LEAF_NODE_SIZE_LOWER_THRESHOLD. -/
def FindSplitPoint (node : LeafNode K V) : Int :=
  let central_index := node.items.length / 2
  match node.items[central_index]? with
  -- PELOTON_ASSERT(central_index > 1) rules this out
  | none => -1
  | some central_kvp =>
    -- the backward scan ends on the last item of a different key; the split is one past it
    let left_sibling_size := scanBackward node.items central_kvp.1 (central_index - 1) + 1
    if left_sibling_size > LEAF_NODE_SIZE_LOWER_THRESHOLD then left_sibling_size
    else
      let it := scanForward central_kvp.1 (node.items.drop (central_index + 1)) (central_index + 1)
      let right_sibling_size := node.items.length - it
      if right_sibling_size > LEAF_NODE_SIZE_LOWER_THRESHOLD then it else -1

/-- LeafNode::GetSplitSibling: the right sibling, holding the items from the split point on, with
the split key as its low key and the node's own high key; none when there is no split point. -/
def GetSplitSibling (node : LeafNode K V) : Option (LeafNode K V) :=
  let split_item_index := FindSplitPoint node
  if split_item_index = -1 then none
  else
    match node.items[split_item_index.toNat]? with
    | none => none
    | some (split_key, _) =>
      -- ~INVALID_NODE_ID as the 64-bit NodeID
      some ⟨(split_key, 2 ^ 64 - 1), node.highKeyPair, node.items.drop split_item_index.toNat⟩

section Scans

variable (items : List (K × V)) (key : K)

/-- Where the backward scan from it stops: at j ≤ it, with the central key at every index above j
up to it, and j either the array's start or the index of a different key. -/
structure BackwardStop (it j : Nat) : Prop where
  le : j ≤ it
  same : ∀ m, j < m → m ≤ it → items[m]?.map Prod.fst = some key
  stop : j = 0 ∨ items[j]?.map Prod.fst ≠ some key

theorem scanBackward_stop : ∀ it, BackwardStop items key it (scanBackward items key it)
  | 0 => ⟨le_rfl, fun _ above below => absurd above (by omega), Or.inl rfl⟩
  | it + 1 => by
    by_cases same : items[it + 1]?.map Prod.fst = some key
    · obtain ⟨le, between, stop⟩ := scanBackward_stop it
      rw [scanBackward, if_pos same]
      refine ⟨by omega, fun m above below => ?_, stop⟩
      rcases Nat.lt_or_ge m (it + 1) with inside | top
      · exact between m above (by omega)
      · rw [show m = it + 1 by omega]
        exact same
    · rw [scanBackward, if_neg same]
      exact ⟨le_rfl, fun _ above below => absurd above (by omega), Or.inr same⟩

/-- Where the forward scan from it stops: at k between it and the array's end, with the central
key at every index from it below k, and a different key at k unless k is the end. -/
structure ForwardStop (it k : Nat) : Prop where
  le : it ≤ k
  bound : k ≤ items.length
  same : ∀ m, it ≤ m → m < k → items[m]?.map Prod.fst = some key
  stop : k < items.length → items[k]?.map Prod.fst ≠ some key

theorem scanForward_stop : ∀ (rest : List (K × V)) (it : Nat), it ≤ items.length →
    items.drop it = rest → ForwardStop items key it (scanForward key rest it)
  | [], it, inside, dropped => by
    have atEnd : items.length ≤ it := List.drop_eq_nil_iff.1 dropped
    show ForwardStop items key it it
    exact ⟨le_rfl, inside, fun _ above below => absurd above (by omega),
      fun past => absurd past (by omega)⟩
  | kv :: rest, it, inside, dropped => by
    have first : items[it]? = some kv := by
      rw [← Nat.add_zero it, ← List.getElem?_drop, dropped]
      rfl
    have firstKey : items[it]?.map Prod.fst = some kv.1 := by rw [first]; rfl
    by_cases same : kv.1 = key
    · have next : items.drop (it + 1) = rest := by rw [← List.tail_drop, dropped]; rfl
      have below : it + 1 ≤ items.length := by
        have := (List.getElem?_eq_some_iff.1 first).1
        omega
      obtain ⟨le, bound, between, stop⟩ := scanForward_stop rest (it + 1) below next
      rw [scanForward, if_pos same]
      refine ⟨by omega, bound, fun m above inside => ?_, stop⟩
      rcases Nat.lt_or_ge it m with later | here
      · exact between m later inside
      · rw [show m = it by omega, firstKey, same]
    · rw [scanForward, if_neg same]
      refine ⟨le_rfl, inside, fun _ above below => absurd above (by omega), fun _ => ?_⟩
      rw [firstKey]
      exact fun equal => same (Option.some.inj equal)

end Scans

section Sorted

variable {items : List (K × V)} (sorted : items.Pairwise (fun a b => a.1 ≤ b.1))
include sorted

theorem key_le_of_sorted {m n : Nat} {a b : K × V} (atM : items[m]? = some a)
    (atN : items[n]? = some b) (le : m ≤ n) : a.1 ≤ b.1 := by
  obtain ⟨mInside, rfl⟩ := List.getElem?_eq_some_iff.1 atM
  obtain ⟨nInside, rfl⟩ := List.getElem?_eq_some_iff.1 atN
  rcases Nat.lt_or_eq_of_le le with lt | rfl
  · exact List.pairwise_iff_getElem.1 sorted m n mInside nInside lt
  · exact le_rfl

theorem key_lt_of_mem_take {i : Nat} {b : K × V} (atI : items[i]? = some b)
    (differ : items[i - 1]?.map Prod.fst ≠ some b.1) {a : K × V} (mem : a ∈ items.take i) :
    a.1 < b.1 := by
  obtain ⟨m, atM⟩ := List.mem_iff_getElem?.1 mem
  rw [List.getElem?_take] at atM
  split at atM
  · next below =>
    have inside : i - 1 < items.length := by
      have := (List.getElem?_eq_some_iff.1 atI).1
      omega
    obtain ⟨c, atPrevious⟩ : ∃ c, items[i - 1]? = some c :=
      ⟨_, List.getElem?_eq_getElem inside⟩
    have differs : c.1 ≠ b.1 := fun same => differ (by rw [atPrevious, ← same]; rfl)
    calc a.1 ≤ c.1 := key_le_of_sorted sorted atM atPrevious (by omega)
      _ < b.1 := lt_of_le_of_ne (key_le_of_sorted sorted atPrevious atI (by omega)) differs
  · cases atM

theorem key_le_of_mem_drop {i : Nat} {b : K × V} (atI : items[i]? = some b) {c : K × V}
    (mem : c ∈ items.drop i) : b.1 ≤ c.1 := by
  obtain ⟨n, atN⟩ := List.mem_iff_getElem?.1 mem
  rw [List.getElem?_drop] at atN
  exact key_le_of_sorted sorted atI atN (Nat.le_add_right i n)

end Sorted

/-- A split point of the items: both halves above LEAF_NODE_SIZE_LOWER_THRESHOLD, and the items
on either side of it of different keys. -/
structure IsSplitPoint (items : List (K × V)) (i : Nat) : Prop where
  left : LEAF_NODE_SIZE_LOWER_THRESHOLD < i
  right : LEAF_NODE_SIZE_LOWER_THRESHOLD < items.length - i
  differ : items[i - 1]?.map Prod.fst ≠ items[i]?.map Prod.fst

theorem findSplitPoint_spec (node : LeafNode K V)
    (oversized : LEAF_NODE_SIZE_UPPER_THRESHOLD ≤ node.items.length) :
    FindSplitPoint node = -1 ∨ ∃ i : Nat, FindSplitPoint node = i ∧ IsSplitPoint node.items i := by
  have large : 128 ≤ node.items.length := oversized
  have centralInside : node.items.length / 2 < node.items.length := by omega
  obtain ⟨central, centralAt⟩ : ∃ central, node.items[node.items.length / 2]? = some central :=
    ⟨_, List.getElem?_eq_getElem centralInside⟩
  have centralKey : node.items[node.items.length / 2]?.map Prod.fst = some central.1 := by
    rw [centralAt]; rfl
  unfold FindSplitPoint
  simp only [centralAt]
  obtain ⟨jle, jsame, jstop⟩ :=
    scanBackward_stop node.items central.1 (node.items.length / 2 - 1)
  split
  · -- the backward scan stopped on a different key: the split is one past it
    next leftLarge =>
    have lower : LEAF_NODE_SIZE_LOWER_THRESHOLD = 32 := rfl
    rw [lower] at leftLarge
    set j := scanBackward node.items central.1 (node.items.length / 2 - 1)
    have differs : node.items[j]?.map Prod.fst ≠ some central.1 := by
      rcases jstop with zero | differs
      · omega
      · exact differs
    have nextKey : node.items[j + 1]?.map Prod.fst = some central.1 := by
      rcases Nat.lt_or_ge (j + 1) (node.items.length / 2) with inside | atCentral
      · exact jsame (j + 1) (by omega) (by omega)
      · rw [show j + 1 = node.items.length / 2 by omega]
        exact centralKey
    refine Or.inr ⟨j + 1, by push_cast; rfl, by rw [lower]; omega, by rw [lower]; omega, ?_⟩
    rw [Nat.add_sub_cancel, nextKey]
    exact differs
  · split
    · -- the forward scan stopped on a different key before the end
      next rightLarge =>
      have lower : LEAF_NODE_SIZE_LOWER_THRESHOLD = 32 := rfl
      rw [lower] at rightLarge
      obtain ⟨kle, kbound, ksame, kstop⟩ := scanForward_stop node.items central.1 _
        (node.items.length / 2 + 1) (by omega) rfl
      set k := scanForward central.1 (node.items.drop (node.items.length / 2 + 1))
        (node.items.length / 2 + 1)
      have previousKey : node.items[k - 1]?.map Prod.fst = some central.1 := by
        rcases Nat.lt_or_ge (node.items.length / 2) (k - 1) with later | atCentral
        · exact ksame (k - 1) (by omega) (by omega)
        · rw [show k - 1 = node.items.length / 2 by omega]
          exact centralKey
      refine Or.inr ⟨k, rfl, by rw [lower]; omega, by rw [lower]; omega, ?_⟩
      rw [previousKey]
      exact fun equal => kstop (by omega) equal.symm
    · exact Or.inl rfl

theorem getSplitSibling_of_no_split_point {node : LeafNode K V} (found : FindSplitPoint node = -1) :
    GetSplitSibling node = none := by
  unfold GetSplitSibling
  rw [found, if_pos rfl]

theorem getSplitSibling_of_split_point {node : LeafNode K V} {i : Nat}
    (found : FindSplitPoint node = i) {b : K × V} (atI : node.items[i]? = some b) :
    GetSplitSibling node = some ⟨(b.1, 2 ^ 64 - 1), node.highKeyPair, node.items.drop i⟩ := by
  unfold GetSplitSibling
  rw [found, if_neg (by omega), Int.toNat_natCast, atI]

theorem getSplitSibling_keeps_keys_together (node : LeafNode K V)
    (sorted : node.items.Pairwise (fun a b => a.1 ≤ b.1))
    (oversized : LEAF_NODE_SIZE_UPPER_THRESHOLD ≤ node.items.length) :
    (FindSplitPoint node = -1 ∧ GetSplitSibling node = none) ∨
      ∃ i : Nat, FindSplitPoint node = i ∧
        LEAF_NODE_SIZE_LOWER_THRESHOLD < i ∧ LEAF_NODE_SIZE_LOWER_THRESHOLD < node.items.length - i ∧
        node.items[i - 1]?.map Prod.fst ≠ node.items[i]?.map Prod.fst ∧
        ∃ sibling, GetSplitSibling node = some sibling ∧ sibling.items = node.items.drop i ∧
          (∀ a ∈ node.items.take i, a.1 < sibling.lowKeyPair.1) ∧
          ∀ a ∈ node.items.take i, ∀ c ∈ sibling.items, a.1 < c.1 := by
  rcases findSplitPoint_spec node oversized with noSplit | ⟨i, found, ⟨left, right, differ⟩⟩
  · exact Or.inl ⟨noSplit, getSplitSibling_of_no_split_point noSplit⟩
  · have inside : i < node.items.length := by
      have lower : LEAF_NODE_SIZE_LOWER_THRESHOLD = 32 := rfl
      omega
    obtain ⟨b, atI⟩ : ∃ b, node.items[i]? = some b := ⟨_, List.getElem?_eq_getElem inside⟩
    have differB : node.items[i - 1]?.map Prod.fst ≠ some b.1 := by
      rw [atI] at differ
      exact differ
    -- the split key is above every key left behind, and every key of the sibling is at least it
    have below : ∀ a ∈ node.items.take i, a.1 < b.1 :=
      fun a mem => key_lt_of_mem_take sorted atI differB mem
    refine Or.inr ⟨i, found, left, right, differ, _, getSplitSibling_of_split_point found atI, rfl,
      below, fun a mem c mem' => ?_⟩
    exact lt_of_lt_of_le (below a mem) (key_le_of_mem_drop sorted atI mem')

end LeafNode

def distinctKeys : LeafNode Nat Nat :=
  ⟨(0, 0), (128, INVALID_NODE_ID), (List.range 128).map fun n => (n, n)⟩

theorem getSplitSibling_keeps_keys_together_distinct_keys :
    LeafNode.FindSplitPoint distinctKeys = 64 ∧
      ∃ sibling, LeafNode.GetSplitSibling distinctKeys = some sibling ∧
        sibling.items = distinctKeys.items.drop 64 ∧
        ∀ a ∈ distinctKeys.items.take 64, ∀ c ∈ sibling.items, a.1 < c.1 := by
  have split : LeafNode.FindSplitPoint distinctKeys = 64 := by decide +kernel
  rcases LeafNode.getSplitSibling_keeps_keys_together distinctKeys
      (List.pairwise_map.2 (List.pairwise_lt_range.imp le_of_lt))
      (by simp [distinctKeys, LEAF_NODE_SIZE_UPPER_THRESHOLD]) with
    ⟨noSplit, -⟩ | ⟨i, found, -, -, -, sibling, got, items, -, apart⟩
  · rw [split] at noSplit
    cases noSplit
  · have sixtyFour : i = 64 := by
      rw [split] at found
      exact_mod_cast found.symm
    subst sixtyFour
    exact ⟨split, sibling, got, items, apart⟩

example : LeafNode.FindSplitPoint (⟨(0, 0), (1, 0), List.replicate 4 (0, 0)⟩ : LeafNode Nat Nat) = -1 := by
  decide

end Peloton.Index.BwTree
