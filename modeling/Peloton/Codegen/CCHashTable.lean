import Mathlib.Logic.Function.Iterate
import Peloton.Codegen.OAHashTable

set_option autoImplicit false

namespace Peloton.Codegen

-- An entry stands for its malloc'd HashEntry by its allocation index; its data segment is not
-- modelled.
structure CCHashTable.HashEntry where
  hash : Nat
  next : Option Nat
  deriving DecidableEq, Repr

-- The bucket array holds the chain heads, none for nullptr.
structure CCHashTable where
  num_buckets_ : Nat
  buckets_ : List (Option Nat)
  entries : List CCHashTable.HashEntry
  num_elements_ : Nat
  deriving DecidableEq, Repr

namespace CCHashTable

def kMaxHashChainSize : Nat := 128

def requiredBuckets (size : Nat) : Option Nat :=
  let guess := size / kMaxHashChainSize
  let required_buckets_in_bits := (64 - CountLeadingZeroes guess + (2 ^ 64 - 1)) % 2 ^ 64
  if required_buckets_in_bits < 31 then some (2 ^ required_buckets_in_bits) else none

def new (size : Nat) : Option CCHashTable :=
  (requiredBuckets size).map fun num_buckets => ⟨num_buckets, List.replicate num_buckets none, [], 0⟩

def bucket (table : CCHashTable) (index : Nat) : Option Nat := table.buckets_.getD index none

def next (table : CCHashTable) (entry : Nat) : Option Nat := (table.entries.getD entry ⟨0, none⟩).next

def StoreTuple (table : CCHashTable) (hash : Nat) : CCHashTable :=
  let bucket_num := hash % table.num_buckets_
  { table with
    entries := table.entries ++ [⟨hash, table.bucket bucket_num⟩]
    buckets_ := table.buckets_.set bucket_num (some table.entries.length)
    num_elements_ := table.num_elements_ + 1 }

def storeTuples (table : CCHashTable) (hashes : List Nat) : CCHashTable :=
  hashes.foldl StoreTuple table

structure iterator where
  curr_bucket_ : Nat
  curr_ : Option Nat
  deriving DecidableEq, Repr

def findEntry (table : CCHashTable) : Nat → iterator → iterator
  | 0, it => it
  | fuel + 1, it =>
    if it.curr_bucket_ < table.num_buckets_ then
      match table.bucket it.curr_bucket_ with
      | some head => ⟨it.curr_bucket_, some head⟩
      | none => findEntry table fuel ⟨it.curr_bucket_ + 1, it.curr_⟩
    else it

def begin (table : CCHashTable) : iterator :=
  table.findEntry table.num_buckets_ ⟨0, table.bucket 0⟩

def end_ : iterator := ⟨0, none⟩

def increment (table : CCHashTable) (it : iterator) : iterator :=
  match it.curr_.bind table.next with
  | some following => ⟨it.curr_bucket_, some following⟩
  | none => table.findEntry (table.num_buckets_ - it.curr_bucket_) it

@[simp] theorem storeTuple_num_buckets (table : CCHashTable) (hash : Nat) :
    (table.StoreTuple hash).num_buckets_ = table.num_buckets_ := rfl

@[simp] theorem storeTuples_num_buckets (table : CCHashTable) (hashes : List Nat) :
    (table.storeTuples hashes).num_buckets_ = table.num_buckets_ := by
  induction hashes generalizing table with
  | nil => rfl
  | cons hash rest ih => exact ih (table.StoreTuple hash)

theorem storeTuples_num_elements (table : CCHashTable) (hashes : List Nat) :
    (table.storeTuples hashes).num_elements_ = table.num_elements_ + hashes.length := by
  induction hashes generalizing table with
  | nil => rfl
  | cons hash rest ih =>
    rw [storeTuples, List.foldl_cons, ← storeTuples, ih]
    simp [StoreTuple]
    omega

theorem requiredBuckets_pos {size num_buckets : Nat} (required : requiredBuckets size = some num_buckets) :
    0 < num_buckets := by
  unfold requiredBuckets at required
  dsimp only at required
  split at required
  · rw [← Option.some.inj required]
    exact Nat.two_pow_pos _
  · exact absurd required (by simp)

theorem new_num_buckets_pos {size : Nat} {table : CCHashTable} (built : new size = some table) :
    0 < table.num_buckets_ := by
  simp only [new, Option.map_eq_some_iff] at built
  obtain ⟨num_buckets, required, rfl⟩ := built
  exact requiredBuckets_pos required

variable (table : CCHashTable)

def Occupied (it : iterator) : Prop :=
  it.curr_.isSome ∧ it.curr_bucket_ < table.num_buckets_ ∧ (table.bucket it.curr_bucket_).isSome

theorem findEntry_of_occupied_bucket (fuel : Nat) (it : iterator) {head : Nat}
    (inside : it.curr_bucket_ < table.num_buckets_) (found : table.bucket it.curr_bucket_ = some head) :
    table.findEntry (fuel + 1) it = ⟨it.curr_bucket_, some head⟩ := by
  simp [findEntry, inside, found]

theorem findEntry_found_or_exhausted (fuel : Nat) (it : iterator)
    (enough : table.num_buckets_ ≤ it.curr_bucket_ + fuel) :
    table.Occupied (table.findEntry fuel it) ∨
      ((table.findEntry fuel it).curr_ = it.curr_ ∧
        table.num_buckets_ ≤ (table.findEntry fuel it).curr_bucket_ ∧
        ∀ b, it.curr_bucket_ ≤ b → b < table.num_buckets_ → table.bucket b = none) := by
  induction fuel generalizing it with
  | zero => exact .inr ⟨rfl, by simpa [findEntry] using enough, fun b low high => by omega⟩
  | succ fuel ih =>
    by_cases inside : it.curr_bucket_ < table.num_buckets_
    · cases found : table.bucket it.curr_bucket_ with
      | some head =>
        rw [findEntry_of_occupied_bucket table fuel it inside found]
        exact .inl ⟨rfl, inside, by simp [found]⟩
      | none =>
        have step : table.findEntry (fuel + 1) it =
            table.findEntry fuel ⟨it.curr_bucket_ + 1, it.curr_⟩ := by
          simp [findEntry, inside, found]
        rw [step]
        rcases ih ⟨it.curr_bucket_ + 1, it.curr_⟩ (by simp; omega) with
          occupied | ⟨same, past, empty⟩
        · exact .inl occupied
        · refine .inr ⟨same, past, fun b low high => ?_⟩
          rcases Nat.eq_or_lt_of_le low with here | later
          · exact here ▸ found
          · exact empty b later high
    · have stop : table.findEntry (fuel + 1) it = it := by simp [findEntry, inside]
      rw [stop]
      exact .inr ⟨rfl, by omega, fun b low high => by omega⟩

-- The iterator either stands on a chain or has run past the last bucket with curr_ nullptr.
def Reachable (it : iterator) : Prop :=
  table.Occupied it ∨ (it.curr_ = none ∧ table.num_buckets_ ≤ it.curr_bucket_)

theorem begin_reachable (positive : 0 < table.num_buckets_) : table.Reachable table.begin := by
  rcases table.findEntry_found_or_exhausted table.num_buckets_ ⟨0, table.bucket 0⟩ (by simp) with
    occupied | ⟨same, past, empty⟩
  · exact .inl occupied
  · exact .inr ⟨same.trans (empty 0 (Nat.le_refl 0) positive), past⟩

theorem increment_at_chain_end {it : iterator} {entry head : Nat} (at_entry : it.curr_ = some entry)
    (last : table.next entry = none) (inside : it.curr_bucket_ < table.num_buckets_)
    (found : table.bucket it.curr_bucket_ = some head) :
    table.increment it = ⟨it.curr_bucket_, some head⟩ := by
  have fuel : table.num_buckets_ - it.curr_bucket_ = (table.num_buckets_ - it.curr_bucket_ - 1) + 1 := by
    omega
  simp only [increment, at_entry, Option.bind_some, last]
  rw [fuel, findEntry_of_occupied_bucket table _ it inside found]

theorem increment_reachable {it : iterator} (reachable : table.Reachable it) :
    table.Reachable (table.increment it) := by
  rcases reachable with ⟨current, inside, occupied⟩ | ⟨none_, past⟩
  · obtain ⟨entry, at_entry⟩ := Option.isSome_iff_exists.mp current
    obtain ⟨head, found⟩ := Option.isSome_iff_exists.mp occupied
    cases following : table.next entry with
    | some following' =>
      have step : table.increment it = ⟨it.curr_bucket_, some following'⟩ := by
        simp [increment, at_entry, following]
      rw [step]
      exact .inl ⟨rfl, inside, occupied⟩
    | none =>
      rw [table.increment_at_chain_end at_entry following inside found]
      exact .inl ⟨rfl, inside, by simp [found]⟩
  · have stop : table.increment it = it := by
      have : table.num_buckets_ - it.curr_bucket_ = 0 := by omega
      simp [increment, none_, this, findEntry]
    rw [stop]
    exact .inr ⟨none_, past⟩

theorem iterate_increment_reachable (positive : 0 < table.num_buckets_) (k : Nat) :
    table.Reachable ((table.increment)^[k] table.begin) := by
  induction k with
  | zero => exact table.begin_reachable positive
  | succ k ih =>
    rw [Function.iterate_succ_apply']
    exact table.increment_reachable ih

theorem ne_end_of_reachable (positive : 0 < table.num_buckets_) {it : iterator} (reachable : table.Reachable it) : it ≠ end_ := by
  rintro rfl
  rcases reachable with ⟨current, -, -⟩ | ⟨-, past⟩
  · simp [end_] at current
  · simp [end_] at past
    omega

-- For any table and any StoreTuple calls, the loop from begin() never meets end(): an empty
-- table's begin() is (num_buckets_, nullptr), and on a chain operator++ returns to its head.
theorem iteration_never_reaches_end (size : Nat) (initial : CCHashTable) (built : new size = some initial)
    (hashes : List Nat) (k : Nat) :
    ((initial.storeTuples hashes).increment)^[k] (initial.storeTuples hashes).begin ≠ end_ := by
  have positive : 0 < (initial.storeTuples hashes).num_buckets_ := by
    simpa using new_num_buckets_pos built
  exact (initial.storeTuples hashes).ne_end_of_reachable positive
    ((initial.storeTuples hashes).iterate_increment_reachable positive k)

theorem iteration_never_reaches_end_of_one_entry :
    new 256 = some ⟨2, [none, none], [], 0⟩ ∧
      (((⟨2, [none, none], [], 0⟩ : CCHashTable).storeTuples [5]).increment)^[2]
          ((⟨2, [none, none], [], 0⟩ : CCHashTable).storeTuples [5]).begin ≠ end_ :=
  ⟨by decide, iteration_never_reaches_end 256 _ (by decide) [5] 2⟩

end CCHashTable

end Peloton.Codegen
