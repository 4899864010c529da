import Mathlib.Logic.Relation
import Peloton.Lib.Relational

set_option autoImplicit false

/-!
# Predicate push-down and join reordering

The logical plans the rewrite rules of rule_impls.cpp see for a SELECT: Gets of a table, Filters
holding a conjunction of predicates, and inner joins. Every predicate is annotated with the table
aliases it reads. A plan means the rows it produces: a Get keeps the tuples of its table its
predicates hold of, a Filter the rows of its child, an inner join the nested-loop join of its
inputs.

A rule rewrites a plan into one that may stand in the same group of the memo: well formed, over
the same aliases and with the same rows up to their order. TopDownRewrite runs the predicate
push-down set over a plan whose Gets carry no predicates, as the transformer builds a SELECT's
Gets; it keeps the group of the plan and, given fuel for twice the plan's height, leaves no Filter.
The join-order rules keep the group wherever and however often they are applied.
-/

namespace Peloton.Optimizer

open Relational

variable {α E T V : Type}

/-- A predicate with the table aliases it reads. -/
structure AnnotatedExpression (α E : Type) where
  expr : E
  table_alias_set : List α

inductive LogicalPlan (α E T : Type) where
  | LogicalGet (table : T) (predicates : List (AnnotatedExpression α E)) (table_alias : α)
  | LogicalFilter (predicates : List (AnnotatedExpression α E)) (child : LogicalPlan α E T)
  | LogicalInnerJoin (join_predicates : List (AnnotatedExpression α E)) (left right : LogicalPlan α E T)

namespace LogicalPlan

/-- The aliases of a plan's group, gathered as Memo::AddNewGroup does. -/
def GetTableAliases : LogicalPlan α E T → List α
  | LogicalGet _ _ table_alias => [table_alias]
  | LogicalFilter _ child => child.GetTableAliases
  | LogicalInnerJoin _ left right => left.GetTableAliases ++ right.GetTableAliases

def height : LogicalPlan α E T → Nat
  | LogicalGet .. => 1
  | LogicalFilter _ child => child.height + 1
  | LogicalInnerJoin _ left right => max left.height right.height + 1

def isFresh : LogicalPlan α E T → Bool
  | LogicalGet _ predicates _ => predicates.isEmpty
  | LogicalFilter _ child => child.isFresh
  | LogicalInnerJoin _ left right => left.isFresh && right.isFresh

def filterFree : LogicalPlan α E T → Bool
  | LogicalGet .. => true
  | LogicalFilter .. => false
  | LogicalInnerJoin _ left right => left.filterFree && right.filterFree

def mapChildren (f : LogicalPlan α E T → LogicalPlan α E T) : LogicalPlan α E T → LogicalPlan α E T
  | LogicalGet table predicates table_alias => LogicalGet table predicates table_alias
  | LogicalFilter predicates child => LogicalFilter predicates (f child)
  | LogicalInnerJoin join_predicates left right => LogicalInnerJoin join_predicates (f left) (f right)

theorem one_le_height (plan : LogicalPlan α E T) : 1 ≤ plan.height := by
  cases plan <;> simp [height]

end LogicalPlan

open LogicalPlan

/-- util::IsSubset: every element of child_set is in super_set. -/
def IsSubset [DecidableEq α] (super_set child_set : List α) : Bool :=
  child_set.all fun element => decide (element ∈ super_set)

theorem IsSubset_iff [DecidableEq α] {super_set child_set : List α} :
    IsSubset super_set child_set = true ↔ child_set ⊆ super_set := by
  simp [IsSubset, List.subset_def]

def filterIfAny (predicates : List (AnnotatedExpression α E)) (child : LogicalPlan α E T) : LogicalPlan α E T :=
  if predicates.isEmpty then child else LogicalFilter predicates child

section Rules

variable [DecidableEq α]

/-- A join with its inputs swapped. -/
def InnerJoinCommutativity : LogicalPlan α E T → Option (LogicalPlan α E T)
  | LogicalInnerJoin join_predicates left right => some (LogicalInnerJoin join_predicates right left)
  | _ => none

/-- (left JOIN middle) JOIN right to left JOIN (middle JOIN right): the predicates of both joins
that read only the middle and right aliases go to the new child join, the others to the parent. -/
def InnerJoinAssociativity : LogicalPlan α E T → Option (LogicalPlan α E T)
  | LogicalInnerJoin parent_join_predicates (LogicalInnerJoin child_join_predicates left middle) right =>
    let right_join_aliases_set := middle.GetTableAliases ++ right.GetTableAliases
    let predicates := parent_join_predicates ++ child_join_predicates
    let inChild := fun (predicate : AnnotatedExpression α E) =>
      IsSubset right_join_aliases_set predicate.table_alias_set
    some (LogicalInnerJoin (predicates.filter fun predicate => !inChild predicate) left
      (LogicalInnerJoin (predicates.filter inChild) middle right))
  | _ => none

/-- A Filter over a join: a predicate that reads only left aliases goes to a Filter over the left
input, else one that reads only right aliases to one over the right input, else to the join. -/
def PushFilterThroughJoin : LogicalPlan α E T → Option (LogicalPlan α E T)
  | LogicalFilter predicates (LogicalInnerJoin pre_join_predicate left right) =>
    let toLeft := fun (predicate : AnnotatedExpression α E) =>
      IsSubset left.GetTableAliases predicate.table_alias_set
    let toRight := fun (predicate : AnnotatedExpression α E) =>
      IsSubset right.GetTableAliases predicate.table_alias_set
    let left_predicates := predicates.filter toLeft
    let right_predicates := predicates.filter fun predicate => !toLeft predicate && toRight predicate
    let join_predicates := predicates.filter fun predicate => !toLeft predicate && !toRight predicate
    some (LogicalInnerJoin (join_predicates ++ pre_join_predicate)
      (filterIfAny left_predicates left) (filterIfAny right_predicates right))
  | _ => none

def CombineConsecutiveFilter : LogicalPlan α E T → Option (LogicalPlan α E T)
  | LogicalFilter root_predicates (LogicalFilter child_predicates child) =>
    some (LogicalFilter (root_predicates ++ child_predicates) child)
  | _ => none

/-- The Get takes the Filter's predicates in place of its own. -/
def EmbedFilterIntoGet : LogicalPlan α E T → Option (LogicalPlan α E T)
  | LogicalFilter predicates (LogicalGet table _ table_alias) => some (LogicalGet table predicates table_alias)
  | _ => none

/-- The rules of RuleSet's PREDICATE_PUSH_DOWN set that match these operators. -/
def PREDICATE_PUSH_DOWN : List (LogicalPlan α E T → Option (LogicalPlan α E T)) :=
  [PushFilterThroughJoin, CombineConsecutiveFilter, EmbedFilterIntoGet]

def transformation_rules_ : List (LogicalPlan α E T → Option (LogicalPlan α E T)) :=
  [InnerJoinCommutativity, InnerJoinAssociativity]

end Rules

/-- TopDownRewrite (optimizer_task.cpp): the first rule that fires at the root replaces the
expression and the group is rewritten again; once none fires, the children are. -/
def TopDownRewrite (rules : List (LogicalPlan α E T → Option (LogicalPlan α E T))) :
    Nat → LogicalPlan α E T → LogicalPlan α E T
  | 0, plan => plan
  | fuel + 1, plan =>
    match rules.findSome? fun rule => rule plan with
    | some after => TopDownRewrite rules fuel after
    | none => plan.mapChildren (TopDownRewrite rules fuel)

/-- One of the rules applied at one node of the plan. -/
inductive Rewrite (rules : List (LogicalPlan α E T → Option (LogicalPlan α E T))) :
    LogicalPlan α E T → LogicalPlan α E T → Prop
  | root {rule plan after} : rule ∈ rules → rule plan = some after → Rewrite rules plan after
  | filter {predicates child child'} : Rewrite rules child child' →
      Rewrite rules (LogicalFilter predicates child) (LogicalFilter predicates child')
  | left {join_predicates left left' right} : Rewrite rules left left' →
      Rewrite rules (LogicalInnerJoin join_predicates left right) (LogicalInnerJoin join_predicates left' right)
  | right {join_predicates left right right'} : Rewrite rules right right' →
      Rewrite rules (LogicalInnerJoin join_predicates left right) (LogicalInnerJoin join_predicates left right')

section Semantics

variable (eval : E → Row α V → Bool) (contents : T → List V)

def holds (predicates : List (AnnotatedExpression α E)) (row : Row α V) : Bool :=
  predicates.all fun predicate => eval predicate.expr row

def rows [DecidableEq α] : LogicalPlan α E T → List (Row α V)
  | LogicalGet table predicates table_alias =>
    ((contents table).map (Row.single table_alias)).filter (holds eval predicates)
  | LogicalFilter predicates child => (rows child).filter (holds eval predicates)
  | LogicalInnerJoin join_predicates left right =>
    join (holds eval join_predicates) (rows left) (rows right)

/-- The predicate reads only the aliases it is annotated with, and those are among A. -/
def Reads (A : List α) (predicate : AnnotatedExpression α E) : Prop :=
  DependsOn predicate.table_alias_set (eval predicate.expr) ∧ predicate.table_alias_set ⊆ A

/-- Every predicate reads within the aliases of its operator's input, and the inputs of a join
have no alias in common. -/
inductive WellFormed : LogicalPlan α E T → Prop
  | get {table predicates table_alias} : (∀ p ∈ predicates, Reads eval [table_alias] p) →
      WellFormed (LogicalGet table predicates table_alias)
  | filter {predicates child} : WellFormed child → (∀ p ∈ predicates, Reads eval child.GetTableAliases p) →
      WellFormed (LogicalFilter predicates child)
  | join {join_predicates left right} : WellFormed left → WellFormed right →
      left.GetTableAliases.Disjoint right.GetTableAliases →
      (∀ p ∈ join_predicates, Reads eval (left.GetTableAliases ++ right.GetTableAliases) p) →
      WellFormed (LogicalInnerJoin join_predicates left right)

/-- The rewritten plan may stand in the plan's group: it is well formed when the plan is, over the
same aliases, with the same rows up to their order. -/
def SameGroup [DecidableEq α] (plan after : LogicalPlan α E T) : Prop :=
  WellFormed eval plan → WellFormed eval after ∧ List.Perm after.GetTableAliases plan.GetTableAliases ∧
    List.Perm (rows eval contents after) (rows eval contents plan)

end Semantics

section Lemmas

variable {eval : E → Row α V → Bool} {contents : T → List V}
variable {predicates : List (AnnotatedExpression α E)} {row row' l r : Row α V} {A B : List α}

@[simp] theorem GetTableAliases_filterIfAny (predicates : List (AnnotatedExpression α E)) (child : LogicalPlan α E T) :
    (filterIfAny predicates child).GetTableAliases = child.GetTableAliases := by
  unfold filterIfAny
  split <;> rfl

@[simp] theorem isFresh_filterIfAny (predicates : List (AnnotatedExpression α E)) (child : LogicalPlan α E T) :
    (filterIfAny predicates child).isFresh = child.isFresh := by
  unfold filterIfAny
  split <;> rfl

theorem height_filterIfAny_le (predicates : List (AnnotatedExpression α E)) (child : LogicalPlan α E T) :
    (filterIfAny predicates child).height ≤ child.height + 1 := by
  unfold filterIfAny
  split <;> simp [height]

theorem holds_iff : holds eval predicates row = true ↔ ∀ p ∈ predicates, eval p.expr row = true := by
  simp [holds]

theorem holds_nil : holds eval ([] : List (AnnotatedExpression α E)) = fun _ => true := rfl

theorem holds_append (predicates predicates' : List (AnnotatedExpression α E)) (row : Row α V) :
    holds eval (predicates ++ predicates') row = (holds eval predicates row && holds eval predicates' row) :=
  List.all_append

theorem holds_congr (same : ∀ p ∈ predicates, eval p.expr row = eval p.expr row') :
    holds eval predicates row = holds eval predicates row' := by
  apply Bool.eq_iff_iff.mpr
  simp only [holds_iff]
  exact forall₂_congr fun p mem => by rw [same p mem]

theorem holds_filter_split (c : AnnotatedExpression α E → Bool) (predicates : List (AnnotatedExpression α E))
    (row : Row α V) :
    (holds eval (predicates.filter c) row && holds eval (predicates.filter fun p => !c p) row) =
      holds eval predicates row := by
  apply Bool.eq_iff_iff.mpr
  simp only [Bool.and_eq_true, holds_iff, List.mem_filter]
  constructor
  · rintro ⟨kept, dropped⟩ p mem
    cases hc : c p
    · exact dropped p ⟨mem, by simp [hc]⟩
    · exact kept p ⟨mem, hc⟩
  · intro all
    exact ⟨fun p mem => all p mem.1, fun p mem => all p mem.1⟩

theorem holds_filter_split₃ (a b : AnnotatedExpression α E → Bool) (predicates : List (AnnotatedExpression α E))
    (row : Row α V) :
    holds eval predicates row = (holds eval (predicates.filter a) row &&
      (holds eval (predicates.filter fun p => !a p && b p) row &&
        holds eval (predicates.filter fun p => !a p && !b p) row)) := by
  apply Bool.eq_iff_iff.mpr
  simp only [Bool.and_eq_true, holds_iff, List.mem_filter]
  constructor
  · intro all
    exact ⟨fun p mem => all p mem.1, fun p mem => all p mem.1, fun p mem => all p mem.1⟩
  · rintro ⟨toLeft, toRight, toJoin⟩ p mem
    cases ha : a p
    · cases hb : b p
      · exact toJoin p ⟨mem, by simp [ha, hb]⟩
      · exact toRight p ⟨mem, by simp [ha, hb]⟩
    · exact toLeft p ⟨mem, ha⟩

theorem Reads.mono {p : AnnotatedExpression α E} (reads : Reads eval A p) (sub : A ⊆ B) : Reads eval B p :=
  ⟨reads.1, List.Subset.trans reads.2 sub⟩

theorem holds_merge_left (reads : ∀ p ∈ predicates, Reads eval A p) (hl : l.Covers A) :
    holds eval predicates (Row.merge l r) = holds eval predicates l :=
  holds_congr fun p mem => (reads p mem).1.merge_left hl (reads p mem).2

theorem holds_merge_right (reads : ∀ p ∈ predicates, Reads eval B p) (hl : l.Covers A) (disjoint : A.Disjoint B) :
    holds eval predicates (Row.merge l r) = holds eval predicates r :=
  holds_congr fun p mem => (reads p mem).1.merge_right hl fun _ ha hp => disjoint ha ((reads p mem).2 hp)

theorem wellFormed_filterIfAny {child : LogicalPlan α E T} (wf : WellFormed eval child)
    (reads : ∀ p ∈ predicates, Reads eval child.GetTableAliases p) : WellFormed eval (filterIfAny predicates child) := by
  unfold filterIfAny
  split
  · exact wf
  · exact .filter wf reads

variable [DecidableEq α]

theorem Reads.of_isSubset {p : AnnotatedExpression α E} (reads : Reads eval A p)
    (sub : IsSubset B p.table_alias_set = true) : Reads eval B p :=
  ⟨reads.1, IsSubset_iff.mp sub⟩

theorem reads_filter (reads : ∀ p ∈ predicates, Reads eval A p) {c : AnnotatedExpression α E → Bool}
    (checked : ∀ p, c p = true → IsSubset B p.table_alias_set = true) :
    ∀ p ∈ predicates.filter c, Reads eval B p := fun p mem =>
  let ⟨mem, kept⟩ := List.mem_filter.mp mem
  (reads p mem).of_isSubset (checked p kept)

@[simp] theorem rows_filterIfAny (child : LogicalPlan α E T) :
    rows eval contents (filterIfAny predicates child) = (rows eval contents child).filter (holds eval predicates) := by
  unfold filterIfAny
  split
  · next empty =>
    rw [List.isEmpty_iff.mp empty, holds_nil, List.filter_true]
  · rfl

theorem rows_covers (plan : LogicalPlan α E T) :
    ∀ row ∈ rows eval contents plan, row.Covers plan.GetTableAliases := by
  induction plan with
  | LogicalGet table predicates table_alias =>
    intro row mem
    obtain ⟨v, _, rfl⟩ := List.mem_map.mp (List.mem_filter.mp mem).1
    exact Row.covers_single table_alias v
  | LogicalFilter predicates child ih =>
    intro row mem
    exact ih row (List.mem_filter.mp mem).1
  | LogicalInnerJoin join_predicates left right ihl ihr =>
    intro row mem
    obtain ⟨l, hl, r, hr, rfl, _⟩ := mem_join.mp mem
    exact (ihl l hl).merge (ihr r hr)

namespace SameGroup

variable {plan after after' child child' left left' right right' : LogicalPlan α E T}

protected theorem refl (plan : LogicalPlan α E T) : SameGroup eval contents plan plan :=
  fun wf => ⟨wf, List.Perm.refl _, List.Perm.refl _⟩

protected theorem trans (first : SameGroup eval contents plan after) (second : SameGroup eval contents after after') :
    SameGroup eval contents plan after' := by
  intro wf
  obtain ⟨wf', aliases, same⟩ := first wf
  obtain ⟨wf'', aliases', same'⟩ := second wf'
  exact ⟨wf'', aliases'.trans aliases, same'.trans same⟩

theorem of_eq (wellFormed : WellFormed eval plan → WellFormed eval after)
    (aliases : after.GetTableAliases = plan.GetTableAliases) (same : rows eval contents after = rows eval contents plan) :
    SameGroup eval contents plan after :=
  fun wf => ⟨wellFormed wf, .of_eq aliases, .of_eq same⟩

theorem filter (h : SameGroup eval contents child child') :
    SameGroup eval contents (LogicalFilter predicates child) (LogicalFilter predicates child') := by
  intro wf
  cases wf with
  | filter wfc reads =>
    obtain ⟨wfc', aliases, same⟩ := h wfc
    exact ⟨.filter wfc' fun p mem => (reads p mem).mono aliases.symm.subset, aliases, same.filter _⟩

theorem join (hl : SameGroup eval contents left left') (hr : SameGroup eval contents right right') :
    SameGroup eval contents (LogicalInnerJoin predicates left right) (LogicalInnerJoin predicates left' right') := by
  intro wf
  cases wf with
  | join wfl wfr disjoint reads =>
    obtain ⟨wfl', al, rl⟩ := hl wfl
    obtain ⟨wfr', ar, rr⟩ := hr wfr
    have aliases := al.append ar
    have disjoint' := List.disjoint_of_subset_left al.subset (List.disjoint_of_subset_right ar.subset disjoint)
    exact ⟨.join wfl' wfr' disjoint' fun p mem => (reads p mem).mono aliases.symm.subset, aliases, Perm.join rl rr⟩

end SameGroup

end Lemmas

section RuleSoundness

variable [DecidableEq α] {eval : E → Row α V → Bool} {contents : T → List V}
variable {plan after : LogicalPlan α E T}

theorem InnerJoinCommutativity_sameGroup (fired : InnerJoinCommutativity plan = some after) :
    SameGroup eval contents plan after := by
  revert fired
  fun_cases InnerJoinCommutativity plan with
  | case2 => intro fired; cases fired
  | case1 join_predicates left right =>
    rintro ⟨⟩
    intro wf
    cases wf with
    | join wfl wfr disjoint reads =>
    have swapped : List.Perm (right.GetTableAliases ++ left.GetTableAliases) (left.GetTableAliases ++ right.GetTableAliases) :=
      List.perm_append_comm
    refine ⟨.join wfr wfl (fun _ hr hl => disjoint hl hr) (fun p mem => (reads p mem).mono swapped.symm.subset), swapped, ?_⟩
    -- a left and a right row merge alike either way, their aliases being disjoint
    apply join_comm_perm
    intro l hl r hr
    exact (Row.merge_comm (rows_covers left l hl) (rows_covers right r hr) disjoint).symm

theorem InnerJoinAssociativity_sameGroup (fired : InnerJoinAssociativity plan = some after) :
    SameGroup eval contents plan after := by
  revert fired
  fun_cases InnerJoinAssociativity plan with
  | case2 => intro fired; cases fired
  | case1 parent_join_predicates child_join_predicates left middle right right_join_aliases_set predicates inChild =>
    rintro ⟨⟩
    intro wf
    cases wf with
    | join wfc wfr disjoint parentReads =>
    cases wfc with
    | join wfl wfm disjoint' childReads =>
    simp only [GetTableAliases] at disjoint parentReads
    have regrouped : List.Perm ((left.GetTableAliases ++ middle.GetTableAliases) ++ right.GetTableAliases)
        (left.GetTableAliases ++ (middle.GetTableAliases ++ right.GetTableAliases)) :=
      .of_eq (List.append_assoc _ _ _)
    have disjointMR : middle.GetTableAliases.Disjoint right.GetTableAliases :=
      List.disjoint_of_subset_left (List.subset_append_right _ _) disjoint
    have disjointLMR : left.GetTableAliases.Disjoint (middle.GetTableAliases ++ right.GetTableAliases) :=
      List.disjoint_append_right.mpr ⟨disjoint', List.disjoint_of_subset_left (List.subset_append_left _ _) disjoint⟩
    have allReads : ∀ p ∈ predicates,
        Reads eval (left.GetTableAliases ++ (middle.GetTableAliases ++ right.GetTableAliases)) p := by
      intro p mem
      rcases List.mem_append.mp mem with mem | mem
      · exact (parentReads p mem).mono regrouped.subset
      · exact (childReads p mem).mono (List.Subset.trans (List.subset_append_left _ _) regrouped.subset)
    have newChildReads : ∀ p ∈ predicates.filter inChild,
        Reads eval (middle.GetTableAliases ++ right.GetTableAliases) p :=
      reads_filter allReads fun _ kept => kept
    refine ⟨.join wfl (.join wfm wfr disjointMR newChildReads) disjointLMR
      (fun p mem => allReads p (List.mem_filter.mp mem).1), regrouped.symm, .of_eq ?_⟩
    symm
    apply join_assoc
    intro l hl m hm r hr
    have covers_l := rows_covers left l hl
    -- every predicate is read on the row of all three inputs, those of the new child join on its two
    rw [← holds_merge_left childReads (covers_l.merge (rows_covers middle m hm)) (r := r), Row.merge_assoc,
      ← holds_merge_right newChildReads covers_l disjointLMR (r := Row.merge m r), Bool.and_comm,
      ← holds_append parent_join_predicates child_join_predicates]
    exact (holds_filter_split inChild predicates _).symm

theorem PushFilterThroughJoin_sameGroup (fired : PushFilterThroughJoin plan = some after) :
    SameGroup eval contents plan after := by
  revert fired
  fun_cases PushFilterThroughJoin plan with
  | case2 => intro fired; cases fired
  | case1 predicates pre_join_predicate left right toLeft toRight left_predicates right_predicates join_predicates =>
    rintro ⟨⟩
    intro wf
    cases wf with
    | filter wfj reads =>
    cases wfj with
    | join wfl wfr disjoint preads =>
    have leftReads : ∀ p ∈ left_predicates, Reads eval left.GetTableAliases p :=
      reads_filter reads fun _ kept => kept
    have rightReads : ∀ p ∈ right_predicates, Reads eval right.GetTableAliases p :=
      reads_filter reads fun _ kept => ((Bool.and_eq_true _ _).mp kept).2
    have joinReads : ∀ p ∈ join_predicates ++ pre_join_predicate,
        Reads eval (left.GetTableAliases ++ right.GetTableAliases) p := by
      intro p mem
      rcases List.mem_append.mp mem with mem | mem
      · exact reads p (List.mem_filter.mp mem).1
      · exact preads p mem
    refine ⟨.join (wellFormed_filterIfAny wfl leftReads) (wellFormed_filterIfAny wfr rightReads) ?_ ?_, ?_, ?_⟩
    · rw [GetTableAliases_filterIfAny, GetTableAliases_filterIfAny]
      exact disjoint
    · rw [GetTableAliases_filterIfAny, GetTableAliases_filterIfAny]
      exact joinReads
    · simp only [GetTableAliases, GetTableAliases_filterIfAny]
      exact List.Perm.refl _
    · apply List.Perm.of_eq
      simp only [rows, rows_filterIfAny]
      symm
      apply filter_join_eq
      intro l hl r hr
      have covers_l := rows_covers left l hl
      rw [← holds_merge_left leftReads covers_l (r := r), ← holds_merge_right rightReads covers_l disjoint (r := r),
        holds_append, holds_filter_split₃ toLeft toRight predicates (Row.merge l r)]
      -- the three parts of the Filter's predicates are the ones the rewritten plan holds
      rw [Bool.and_comm (holds eval pre_join_predicate _)]
      simp only [Bool.and_assoc]
      rfl

theorem CombineConsecutiveFilter_sameGroup (fired : CombineConsecutiveFilter plan = some after) :
    SameGroup eval contents plan after := by
  revert fired
  fun_cases CombineConsecutiveFilter plan with
  | case2 => intro fired; cases fired
  | case1 root_predicates child_predicates child =>
    rintro ⟨⟩
    apply SameGroup.of_eq
    · intro wf
      cases wf with
      | filter wfc rootReads =>
      cases wfc with
      | filter wfc childReads =>
      refine .filter wfc fun p mem => ?_
      rcases List.mem_append.mp mem with mem | mem
      · exact rootReads p mem
      · exact childReads p mem
    · rfl
    · simp only [rows, List.filter_filter]
      congr 1
      funext row
      exact holds_append root_predicates child_predicates row

theorem EmbedFilterIntoGet_sameGroup (fired : EmbedFilterIntoGet plan = some after) (fresh : plan.isFresh = true) :
    SameGroup eval contents plan after := by
  revert fired fresh
  fun_cases EmbedFilterIntoGet plan with
  | case2 => intro fired; cases fired
  | case1 predicates table get_predicates table_alias =>
    rintro ⟨⟩ fresh
    have none : get_predicates = [] := List.isEmpty_iff.mp fresh
    subst none
    apply SameGroup.of_eq
    · intro wf
      cases wf with
      | filter _ reads => exact .get reads
    · rfl
    · simp only [rows]
      rw [holds_nil, List.filter_true]

end RuleSoundness

section TopDown

variable {eval : E → Row α V → Bool} {contents : T → List V}
variable {predicates : List (AnnotatedExpression α E)} {plan after : LogicalPlan α E T}

theorem TopDownRewrite_of_findSome {rules : List (LogicalPlan α E T → Option (LogicalPlan α E T))} {fuel : Nat}
    (fired : rules.findSome? (fun rule => rule plan) = some after) :
    TopDownRewrite rules (fuel + 1) plan = TopDownRewrite rules fuel after := by
  rw [TopDownRewrite, fired]

variable [DecidableEq α]

theorem TopDownRewrite_get (fuel : Nat) (table : T) (table_alias : α) :
    TopDownRewrite PREDICATE_PUSH_DOWN fuel (LogicalGet table predicates table_alias) =
      LogicalGet table predicates table_alias := by
  cases fuel <;> rfl

theorem TopDownRewrite_join (fuel : Nat) (join_predicates : List (AnnotatedExpression α E)) (left right : LogicalPlan α E T) :
    TopDownRewrite PREDICATE_PUSH_DOWN (fuel + 1) (LogicalInnerJoin join_predicates left right) =
      LogicalInnerJoin join_predicates (TopDownRewrite PREDICATE_PUSH_DOWN fuel left)
        (TopDownRewrite PREDICATE_PUSH_DOWN fuel right) := rfl

theorem TopDownRewrite_filter_get (fuel : Nat) (table : T) (get_predicates : List (AnnotatedExpression α E))
    (table_alias : α) :
    TopDownRewrite PREDICATE_PUSH_DOWN (fuel + 1) (LogicalFilter predicates (LogicalGet table get_predicates table_alias)) =
      LogicalGet table predicates table_alias :=
  TopDownRewrite_get fuel table table_alias

theorem TopDownRewrite_filter_filter (fuel : Nat) (child_predicates : List (AnnotatedExpression α E))
    (child : LogicalPlan α E T) :
    TopDownRewrite PREDICATE_PUSH_DOWN (fuel + 1) (LogicalFilter predicates (LogicalFilter child_predicates child)) =
      TopDownRewrite PREDICATE_PUSH_DOWN fuel (LogicalFilter (predicates ++ child_predicates) child) := rfl

theorem TopDownRewrite_of_push {fuel : Nat} (fired : PushFilterThroughJoin plan = some after) :
    TopDownRewrite PREDICATE_PUSH_DOWN (fuel + 1) plan = TopDownRewrite PREDICATE_PUSH_DOWN fuel after :=
  TopDownRewrite_of_findSome (by simp [PREDICATE_PUSH_DOWN, fired])

theorem PushFilterThroughJoin_eq_some (predicates pre_join_predicate : List (AnnotatedExpression α E))
    (left right : LogicalPlan α E T) :
    ∃ join_predicates left_predicates right_predicates,
      PushFilterThroughJoin (LogicalFilter predicates (LogicalInnerJoin pre_join_predicate left right)) =
        some (LogicalInnerJoin join_predicates (filterIfAny left_predicates left) (filterIfAny right_predicates right)) :=
  ⟨_, _, _, rfl⟩

theorem isFresh_of_push (fired : PushFilterThroughJoin plan = some after) (fresh : plan.isFresh = true) :
    after.isFresh = true := by
  revert fired
  fun_cases PushFilterThroughJoin plan with
  | case2 => intro fired; cases fired
  | case1 =>
    rintro ⟨⟩
    simpa [isFresh] using fresh

/-- Predicate push-down keeps the plan's group. -/
theorem TopDownRewrite_keeps_group (fuel : Nat) (fresh : plan.isFresh = true) :
    SameGroup eval contents plan (TopDownRewrite PREDICATE_PUSH_DOWN fuel plan) := by
  -- on the fuel, for every plan: a rule fires at the root and the rest is a shorter run, or the
  -- children are rewritten with one less
  induction fuel generalizing plan with
  | zero => exact SameGroup.refl plan
  | succ fuel ih =>
    cases plan with
    | LogicalGet table predicates table_alias =>
      rw [TopDownRewrite_get]
      exact SameGroup.refl _
    | LogicalInnerJoin join_predicates left right =>
      simp only [isFresh, Bool.and_eq_true] at fresh
      rw [TopDownRewrite_join]
      exact (ih fresh.1).join (ih fresh.2)
    | LogicalFilter predicates child =>
      cases child with
      | LogicalGet table get_predicates table_alias =>
        rw [TopDownRewrite_filter_get]
        exact EmbedFilterIntoGet_sameGroup rfl fresh
      | LogicalFilter child_predicates child =>
        rw [TopDownRewrite_filter_filter]
        exact (CombineConsecutiveFilter_sameGroup rfl).trans (ih fresh)
      | LogicalInnerJoin pre_join_predicate left right =>
        obtain ⟨_, _, _, fired⟩ := PushFilterThroughJoin_eq_some predicates pre_join_predicate left right
        rw [TopDownRewrite_of_push fired]
        exact (PushFilterThroughJoin_sameGroup fired).trans (ih (isFresh_of_push fired fresh))

def aliasIs (expression : Nat × Nat) (row : Row Nat Nat) : Bool := row expression.1 == some expression.2

def selectPlan : LogicalPlan Nat (Nat × Nat) Nat :=
  LogicalFilter [⟨(0, 1), [0]⟩, ⟨(1, 2), [1]⟩] (LogicalInnerJoin [] (LogicalGet 0 [] 0) (LogicalGet 1 [] 1))

theorem TopDownRewrite_keeps_group_of_select :
    selectPlan.isFresh = true ∧
      SameGroup aliasIs (fun _ => [1, 2]) selectPlan (TopDownRewrite PREDICATE_PUSH_DOWN 4 selectPlan) :=
  ⟨rfl, TopDownRewrite_keeps_group 4 rfl⟩

example : TopDownRewrite PREDICATE_PUSH_DOWN 4 selectPlan =
    LogicalInnerJoin [] (LogicalGet 0 [⟨(0, 1), [0]⟩] 0) (LogicalGet 1 [⟨(1, 2), [1]⟩] 1) := rfl

/-- Given fuel for twice the plan's height, predicate push-down leaves no Filter. -/
theorem TopDownRewrite_leaves_no_filter (fuel : Nat) (plan : LogicalPlan α E T) (enough : 2 * plan.height ≤ fuel) :
    (TopDownRewrite PREDICATE_PUSH_DOWN fuel plan).filterFree = true := by
  -- a Filter pushed through a join takes two tasks to reach the join's inputs, one height lower
  induction fuel using Nat.strongRecOn generalizing plan with
  | _ fuel ih =>
  obtain _ | fuel := fuel
  · have := one_le_height plan
    omega
  cases plan with
  | LogicalGet table predicates table_alias =>
    rw [TopDownRewrite_get]
    rfl
  | LogicalInnerJoin join_predicates left right =>
    simp only [height] at enough
    rw [TopDownRewrite_join]
    simp only [filterFree, Bool.and_eq_true]
    exact ⟨ih fuel (by omega) left (by omega), ih fuel (by omega) right (by omega)⟩
  | LogicalFilter predicates child =>
    cases child with
    | LogicalGet table get_predicates table_alias =>
      rw [TopDownRewrite_filter_get]
      rfl
    | LogicalFilter child_predicates child =>
      simp only [height] at enough
      rw [TopDownRewrite_filter_filter]
      exact ih fuel (by omega) _ (by simp only [height]; omega)
    | LogicalInnerJoin pre_join_predicate left right =>
      obtain ⟨join_predicates, left_predicates, right_predicates, fired⟩ :=
        PushFilterThroughJoin_eq_some predicates pre_join_predicate left right
      simp only [height] at enough
      obtain _ | fuel := fuel
      · omega
      have lower_left := height_filterIfAny_le left_predicates left
      have lower_right := height_filterIfAny_le right_predicates right
      rw [TopDownRewrite_of_push fired, TopDownRewrite_join]
      simp only [filterFree, Bool.and_eq_true]
      exact ⟨ih fuel (by omega) _ (by omega), ih fuel (by omega) _ (by omega)⟩

theorem TopDownRewrite_leaves_no_filter_of_select :
    2 * selectPlan.height ≤ 6 ∧ (TopDownRewrite PREDICATE_PUSH_DOWN 6 selectPlan).filterFree = true :=
  ⟨by decide, TopDownRewrite_leaves_no_filter 6 selectPlan (by decide)⟩

end TopDown

section RuleOrder

theorem findSome?_eq_filter {β γ : Type} (l : List β) (f : β → Option γ) :
    l.findSome? f = (l.filter fun a => (f a).isSome).findSome? f := by
  induction l with
  | nil => rfl
  | cons a l ih =>
    cases fa : f a with
    | none => simp [fa, ih]
    | some b => simp [fa]

theorem findSome?_perm {β γ : Type} {l l' : List β} {f : β → Option γ} (hp : List.Perm l l')
    (one : (l.filter fun a => (f a).isSome).length ≤ 1) : l.findSome? f = l'.findSome? f := by
  have same := hp.filter fun a => (f a).isSome
  rw [findSome?_eq_filter l, findSome?_eq_filter l']
  match kept : l.filter fun a => (f a).isSome with
  | [] =>
    rw [kept] at same
    rw [same.nil_eq]
  | [a] =>
    rw [kept] at same
    rw [List.perm_singleton.mp same.symm]
  | _ :: _ :: _ =>
    rw [kept] at one
    simp at one

variable [DecidableEq α]

theorem PREDICATE_PUSH_DOWN_exclusive (plan : LogicalPlan α E T) :
    (PREDICATE_PUSH_DOWN.filter fun rule => (rule plan).isSome).length ≤ 1 := by
  rcases plan with _ | ⟨predicates, _ | _ | _⟩ | _ <;> exact Nat.le_of_ble_eq_true rfl

/-- TopDownRewrite sorts the rules by a promise that is the same for all of them, so it tries them
in no fixed order; the rewrite comes out the same in every order. -/
theorem TopDownRewrite_rule_order {rules : List (LogicalPlan α E T → Option (LogicalPlan α E T))}
    (order : List.Perm rules PREDICATE_PUSH_DOWN) (fuel : Nat) (plan : LogicalPlan α E T) :
    TopDownRewrite rules fuel plan = TopDownRewrite PREDICATE_PUSH_DOWN fuel plan := by
  induction fuel generalizing plan with
  | zero => rfl
  | succ fuel ih =>
    have same : rules.findSome? (fun rule => rule plan) = PREDICATE_PUSH_DOWN.findSome? (fun rule => rule plan) :=
      (findSome?_perm order.symm (PREDICATE_PUSH_DOWN_exclusive plan)).symm
    rw [TopDownRewrite, TopDownRewrite, same]
    cases PREDICATE_PUSH_DOWN.findSome? (fun rule => rule plan) with
    | some after => exact ih after
    | none =>
      show plan.mapChildren (TopDownRewrite rules fuel) = plan.mapChildren (TopDownRewrite PREDICATE_PUSH_DOWN fuel)
      rw [funext ih]

theorem TopDownRewrite_rule_order_of_reversed :
    List.Perm [EmbedFilterIntoGet, CombineConsecutiveFilter, PushFilterThroughJoin]
        (PREDICATE_PUSH_DOWN : List (LogicalPlan Nat (Nat × Nat) Nat → Option (LogicalPlan Nat (Nat × Nat) Nat))) ∧
      TopDownRewrite [EmbedFilterIntoGet, CombineConsecutiveFilter, PushFilterThroughJoin] 4 selectPlan =
        TopDownRewrite PREDICATE_PUSH_DOWN 4 selectPlan :=
  ⟨List.reverse_perm PREDICATE_PUSH_DOWN, TopDownRewrite_rule_order (List.reverse_perm PREDICATE_PUSH_DOWN) 4 selectPlan⟩

end RuleOrder

section Exploration

variable [DecidableEq α] {eval : E → Row α V → Bool} {contents : T → List V}
variable {plan after : LogicalPlan α E T}

theorem Rewrite.sameGroup {rules : List (LogicalPlan α E T → Option (LogicalPlan α E T))}
    (sound : ∀ rule ∈ rules, ∀ {plan after : LogicalPlan α E T}, rule plan = some after →
      SameGroup eval contents plan after)
    (step : Rewrite rules plan after) : SameGroup eval contents plan after := by
  induction step with
  | root mem fired => exact sound _ mem fired
  | filter _ ih => exact ih.filter
  | left _ ih => exact ih.join (SameGroup.refl _)
  | right _ ih => exact (SameGroup.refl _).join ih

theorem transformation_rules_sound :
    ∀ rule ∈ (transformation_rules_ : List (LogicalPlan α E T → Option (LogicalPlan α E T))),
      ∀ {plan after : LogicalPlan α E T}, rule plan = some after → SameGroup eval contents plan after := by
  intro rule mem
  simp only [transformation_rules_, List.mem_cons, List.not_mem_nil, or_false] at mem
  rcases mem with rfl | rfl
  · exact InnerJoinCommutativity_sameGroup
  · exact InnerJoinAssociativity_sameGroup

/-- Join reordering keeps the plan's group, wherever and however often its rules are applied. -/
theorem transformation_rules_keep_group (steps : Relation.ReflTransGen (Rewrite transformation_rules_) plan after) :
    SameGroup eval contents plan after := by
  induction steps with
  | refl => exact SameGroup.refl plan
  | tail _ step ih => exact ih.trans (step.sameGroup transformation_rules_sound)

def threeWayJoin : LogicalPlan Nat (Nat × Nat) Nat :=
  LogicalInnerJoin [⟨(2, 1), [2]⟩] (LogicalInnerJoin [] (LogicalGet 0 [] 0) (LogicalGet 1 [] 1)) (LogicalGet 2 [] 2)

theorem transformation_rules_keep_group_of_swapped_inner_join :
    Relation.ReflTransGen (Rewrite transformation_rules_) threeWayJoin
        (LogicalInnerJoin [⟨(2, 1), [2]⟩] (LogicalInnerJoin [] (LogicalGet 1 [] 1) (LogicalGet 0 [] 0)) (LogicalGet 2 [] 2)) ∧
      SameGroup aliasIs (fun _ => [1, 2]) threeWayJoin
        (LogicalInnerJoin [⟨(2, 1), [2]⟩] (LogicalInnerJoin [] (LogicalGet 1 [] 1) (LogicalGet 0 [] 0)) (LogicalGet 2 [] 2)) :=
  ⟨.single (.left (.root List.mem_cons_self rfl)),
    transformation_rules_keep_group (.single (.left (.root List.mem_cons_self rfl)))⟩

end Exploration

end Peloton.Optimizer
