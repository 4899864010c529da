import Mathlib.Data.List.Perm.Basic

set_option autoImplicit false

namespace Peloton.Optimizer

inductive Pattern (Op : Type) where
  | Leaf
  | node (type : Op) (children : List (Pattern Op))
  deriving Repr

structure GroupExpression (Op : Type) where
  op : Op
  child_groups : List Nat
  deriving DecidableEq, Repr

abbrev Memo (Op : Type) := List (List (GroupExpression Op))

inductive Operator (Op : Type) where
  | leaf (group : Nat)
  | logical (op : Op)
  deriving DecidableEq, Repr

-- An OperatorExpression object; children are shared_ptrs, the objects' places in the heap.
structure OperatorExpression (Op : Type) where
  op : Operator Op
  children : List Nat
  deriving DecidableEq, Repr

abbrev Heap (Op : Type) := List (OperatorExpression Op)

-- What a reader sees of an OperatorExpression: the tree below it.
inductive Tree (Op : Type) where
  | node (op : Operator Op) (children : List (Tree Op))
  deriving Repr

structure GroupExprBindingIterator where
  first_ : Bool
  has_next_ : Bool
  current_binding_ : Nat
  children_bindings_ : List (List Nat)
  children_bindings_pos_ : List Nat
  deriving DecidableEq, Repr

structure GroupBindingIterator (Op : Type) where
  group_id_ : Nat
  pattern_ : Pattern Op
  current_item_index_ : Nat
  current_iterator_ : Option GroupExprBindingIterator

variable {Op : Type} [DecidableEq Op]

def alloc (heap : Heap Op) (object : OperatorExpression Op) : Heap Op × Nat := (heap ++ [object], heap.length)

def modifyChildren (heap : Heap Op) (ptr : Nat) (f : List Nat → List Nat) : Heap Op :=
  heap.modify ptr fun object => { object with children := f object.children }

def PushChild (heap : Heap Op) (ptr child : Nat) : Heap Op := modifyChildren heap ptr (· ++ [child])

def PopChild (heap : Heap Op) (ptr : Nat) : Heap Op := modifyChildren heap ptr List.dropLast

def advance (sizes : List Nat) : List Nat → Nat → Option Nat × List Nat
  | pos, 0 => (none, pos)
  | pos, k + 1 =>
    if pos.getD k 0 + 1 < sizes.getD k 0 then (some k, pos.set k (pos.getD k 0 + 1))
    else advance sizes (pos.set k 0) k

def popChildren (heap : Heap Op) (ptr : Nat) : Nat → Heap Op
  | 0 => heap
  | count + 1 => popChildren (PopChild heap ptr) ptr count

def GroupExprBindingIterator.HasNext (heap : Heap Op) (it : GroupExprBindingIterator) :
    Heap Op × GroupExprBindingIterator × Bool :=
  if it.has_next_ && it.first_ then (heap, { it with first_ := false }, true)
  else if it.has_next_ then
    let n := it.children_bindings_pos_.length
    match advance (it.children_bindings_.map List.length) it.children_bindings_pos_ n with
    | (none, pos) => (heap, { it with has_next_ := false, children_bindings_pos_ := pos }, false)
    | (some first_modified_idx, pos) =>
      let heap := popChildren heap it.current_binding_ (n - first_modified_idx)
      let heap := ((List.range n).drop first_modified_idx).foldl (fun heap offset =>
        PushChild heap it.current_binding_ ((it.children_bindings_.getD offset []).getD (pos.getD offset 0) 0))
        heap
      (heap, { it with children_bindings_pos_ := pos }, true)
  else (heap, it, false)

def GroupExprBindingIterator.Next (it : GroupExprBindingIterator) : Nat := it.current_binding_

def patternType : Pattern Op → Option Op
  | .Leaf => none
  | .node type _ => some type

def patternChildren : Pattern Op → List (Pattern Op)
  | .Leaf => []
  | .node _ children => children

def GroupBindingIterator.Next (memo : Memo Op) (heap : Heap Op) (it : GroupBindingIterator Op) :
    Heap Op × GroupBindingIterator Op × Nat :=
  match it.pattern_ with
  | .Leaf =>
    let (heap, leaf) := alloc heap ⟨.leaf it.group_id_, []⟩
    (heap, { it with current_item_index_ := (memo.getD it.group_id_ []).length }, leaf)
  | .node _ _ => (heap, it, (it.current_iterator_.map (·.Next)).getD 0)

-- The constructors and HasNext calls that construct iterators, run on one fuel: the constructor
-- of GroupExprBindingIterator gathers every binding of each child group with a nested
-- GroupBindingIterator.
mutual

def newGroupExprBindingIterator (memo : Memo Op) :
    Nat → Heap Op → GroupExpression Op → Pattern Op → Option (Heap Op × GroupExprBindingIterator)
  | 0, _, _, _ => none
  | fuel + 1, heap, gexpr, pattern =>
    let (heap, binding) := alloc heap ⟨.logical gexpr.op, []⟩
    let empty : GroupExprBindingIterator := ⟨true, false, binding, [], []⟩
    if patternType pattern ≠ some gexpr.op then some (heap, empty)
    else if gexpr.child_groups.length ≠ (patternChildren pattern).length then some (heap, empty)
    else
      (bindChildren memo fuel heap binding (gexpr.child_groups.zip (patternChildren pattern))).map
        fun (heap, children_bindings, found) =>
          (heap, ⟨true, found, binding, children_bindings, List.replicate gexpr.child_groups.length 0⟩)

def bindChildren (memo : Memo Op) :
    Nat → Heap Op → Nat → List (Nat × Pattern Op) → Option (Heap Op × List (List Nat) × Bool)
  | 0, _, _, _ => none
  | _ + 1, heap, _, [] => some (heap, [], true)
  | fuel + 1, heap, binding, (group, pattern) :: rest =>
    (collect memo fuel heap ⟨group, pattern, 0, none⟩).bind fun (heap, child_bindings) =>
      match child_bindings with
      | [] => some (heap, [], false)
      | first :: _ =>
        (bindChildren memo fuel (PushChild heap binding first) binding rest).map
          fun (heap, others, found) => (heap, child_bindings :: others, found)

def collect (memo : Memo Op) : Nat → Heap Op → GroupBindingIterator Op → Option (Heap Op × List Nat)
  | 0, _, _ => none
  | fuel + 1, heap, it =>
    (groupHasNext memo fuel heap it).bind fun (heap, it, has) =>
      if has then
        let (heap, it, binding) := it.Next memo heap
        (collect memo fuel heap it).map fun (heap, bindings) => (heap, binding :: bindings)
      else some (heap, [])

def groupHasNext (memo : Memo Op) :
    Nat → Heap Op → GroupBindingIterator Op → Option (Heap Op × GroupBindingIterator Op × Bool)
  | 0, _, _ => none
  | fuel + 1, heap, it =>
    match it.pattern_ with
    | .Leaf => some (heap, it, it.current_item_index_ == 0)
    | .node _ _ =>
      let (heap, it) : Heap Op × GroupBindingIterator Op :=
        match it.current_iterator_ with
        | some current =>
          match current.HasNext heap with
          | (heap, current, true) => (heap, { it with current_iterator_ := some current })
          | (heap, _, false) =>
            (heap, { it with current_iterator_ := none, current_item_index_ := it.current_item_index_ + 1 })
        | none => (heap, it)
      match it.current_iterator_ with
      | some _ => some (heap, it, true)
      | none => findItem memo fuel heap it

def findItem (memo : Memo Op) :
    Nat → Heap Op → GroupBindingIterator Op → Option (Heap Op × GroupBindingIterator Op × Bool)
  | 0, _, _ => none
  | fuel + 1, heap, it =>
    match (memo.getD it.group_id_ [])[it.current_item_index_]? with
    | none => some (heap, it, false)
    | some gexpr =>
      (newGroupExprBindingIterator memo fuel heap gexpr it.pattern_).bind fun (heap, current) =>
        match current.HasNext heap with
        | (heap, current, true) => some (heap, { it with current_iterator_ := some current }, true)
        | (heap, _, false) =>
          findItem memo fuel heap { it with current_iterator_ := none, current_item_index_ := it.current_item_index_ + 1 }

end

def readTree (heap : Heap Op) : Nat → Nat → Tree Op
  | 0, _ => .node (.leaf 0) []
  | depth + 1, ptr =>
    let object := heap.getD ptr ⟨.leaf 0, []⟩
    .node object.op (object.children.map (readTree heap depth))

def applyRuleLoop (heap : Heap Op) (depth : Nat) : Nat → GroupExprBindingIterator → List (Tree Op)
  | 0, _ => []
  | fuel + 1, it =>
    match it.HasNext heap with
    | (heap, it, true) => readTree heap depth it.Next :: applyRuleLoop heap depth fuel it
    | (_, _, false) => []

def ApplyRuleBindings (memo : Memo Op) (fuel : Nat) (gexpr : GroupExpression Op) (pattern : Pattern Op) :
    Option (List (Tree Op)) :=
  (newGroupExprBindingIterator memo fuel [] gexpr pattern).map fun (heap, it) => applyRuleLoop heap fuel fuel it

/-! ## The bindings the claim describes -/

def product {α : Type} : List (List α) → List (List α)
  | [] => [[]]
  | choices :: rest => choices.flatMap fun choice => (product rest).map (choice :: ·)

mutual

def exprBindings (memo : Memo Op) : Nat → GroupExpression Op → Pattern Op → List (Tree Op)
  | 0, _, _ => []
  | depth + 1, gexpr, pattern =>
    if patternType pattern ≠ some gexpr.op ∨ gexpr.child_groups.length ≠ (patternChildren pattern).length then []
    else (product (childBindings memo depth (gexpr.child_groups.zip (patternChildren pattern)))).map
      (.node (.logical gexpr.op))

def childBindings (memo : Memo Op) : Nat → List (Nat × Pattern Op) → List (List (Tree Op))
  | 0, _ => []
  | _ + 1, [] => []
  | depth + 1, (group, pattern) :: rest => groupBindings memo depth group pattern :: childBindings memo depth rest

def groupBindings (memo : Memo Op) : Nat → Nat → Pattern Op → List (Tree Op)
  | 0, _, _ => []
  | _ + 1, group, .Leaf => [.node (.leaf group) []]
  | depth + 1, group, pattern => (memo.getD group []).flatMap fun gexpr => exprBindings memo depth gexpr pattern

end

/-! ## Aliasing -/

def aliasingMemo : Memo Nat := [[⟨0, [1]⟩], [⟨1, [2]⟩], [⟨2, [3]⟩, ⟨2, [4]⟩], [⟨3, []⟩], [⟨3, []⟩]]

def aliasingPattern : Pattern Nat := .node 0 [.node 1 [.node 2 [.Leaf]]]

def bindingThrough (group : Nat) : Tree Nat :=
  .node (.logical 0) [.node (.logical 1) [.node (.logical 2) [.node (.leaf group) []]]]

-- B's iterator yields B(C(3)) and then B(C(4)) as one object, which the constructor of A's
-- iterator gathers twice; both trees ApplyRule reads are A(B(C(4))), and A(B(C(3))) is never
-- produced.
theorem applyRule_reads_one_aliased_binding_twice :
    ApplyRuleBindings aliasingMemo 20 ⟨0, [1]⟩ aliasingPattern = some [bindingThrough 4, bindingThrough 4] ∧
      exprBindings aliasingMemo 20 ⟨0, [1]⟩ aliasingPattern = [bindingThrough 3, bindingThrough 4] ∧
      ¬ [bindingThrough 4, bindingThrough 4].Perm [bindingThrough 3, bindingThrough 4] := by
  refine ⟨rfl, rfl, fun perm => ?_⟩
  have missing := perm.symm.subset List.mem_cons_self
  simp [bindingThrough] at missing

end Peloton.Optimizer