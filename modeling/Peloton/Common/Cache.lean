import Mathlib.Data.List.AList

set_option autoImplicit false

/-!
# Cache

The LRU cache of common/cache.h. map_ takes a key to its value and to the node of list_ that
holds the key; list_ holds the keys, most recent first. The model keeps map_ as an AList, whose
keys are distinct as an unordered_map's are, and names a node of list_ by the key it holds. The
reference it is compared with is an LRU map: a list of entries, most recent first, cut to the
capacity.
-/

namespace Peloton

def DEFAULT_CACHE_SIZE : Nat := 100

def DEFAULT_CACHE_INSERT_THRESHOLD : Nat := 3

/-- Cache<Key, Value>, without counts_, which none of the modelled functions but clear reads. -/
structure Cache (Key : Type) [DecidableEq Key] (Value : Type) where
  map_ : AList (fun _ : Key => Value)
  list_ : List Key
  capacity_ : Nat
  insert_threshold_ : Nat

namespace Cache

variable {Key : Type} [DecidableEq Key] {Value : Type}

/-- The constructor: an empty cache. -/
def new (capacity insert_threshold : Nat) : Cache Key Value := ⟨∅, [], capacity, insert_threshold⟩

def moveToFront (list_ : List Key) (key : Key) : List Key := key :: list_.erase key

/-- find: the key's value, none standing for end(); a hit makes the key the most recent. -/
def find (cache : Cache Key Value) (key : Key) : Cache Key Value × Option Value :=
  match cache.map_.lookup key with
  | some value => ({ cache with list_ := moveToFront cache.list_ key }, some value)
  | none => (cache, none)

def evict : Nat → Cache Key Value → Cache Key Value
  | 0, cache => cache
  | fuel + 1, cache =>
    if cache.capacity_ < cache.map_.entries.length then
      match cache.list_.getLast? with
      | some deleted =>
        evict fuel { cache with map_ := cache.map_.erase deleted, list_ := cache.list_.dropLast }
      | none => cache
    else cache

/-- insert: a new key goes to the front of list_ and into map_, then the loop evicts; a key
already there moves to the front and takes the new value. -/
def insert (cache : Cache Key Value) (key : Key) (value : Value) : Cache Key Value :=
  match cache.map_.lookup key with
  | none =>
    let added := { cache with list_ := key :: cache.list_, map_ := cache.map_.insert key value }
    evict added.map_.entries.length added
  | some _ =>
    { cache with list_ := moveToFront cache.list_ key, map_ := cache.map_.insert key value }

def delete_key (cache : Cache Key Value) (key : Key) : Cache Key Value :=
  match cache.map_.lookup key with
  | some _ => { cache with list_ := cache.list_.erase key, map_ := cache.map_.erase key }
  | none => cache

def size (cache : Cache Key Value) : Nat := cache.map_.entries.length

/-- clear: empties list_ and map_, and sets capacity_ and insert_threshold_ to their defaults. -/
def clear (cache : Cache Key Value) : Cache Key Value :=
  { cache with list_ := [], map_ := ∅, capacity_ := DEFAULT_CACHE_SIZE,
               insert_threshold_ := DEFAULT_CACHE_INSERT_THRESHOLD }

def entryOf (map_ : AList (fun _ : Key => Value)) (key : Key) : Option (Key × Value) :=
  (map_.lookup key).map (key, ·)

def entries (cache : Cache Key Value) : List (Key × Value) :=
  cache.list_.filterMap (entryOf cache.map_)

/-- What every operation but clear keeps: list_ holds exactly map_'s keys, each once, and no more
of them than the capacity. -/
structure Consistent (cache : Cache Key Value) : Prop where
  same_keys : cache.list_.Perm cache.map_.keys
  within : cache.list_.length ≤ cache.capacity_

end Cache

/-! ## The reference LRU map -/

namespace LRU

variable {Key : Type} [DecidableEq Key] {Value : Type}

def insert (capacity : Nat) (entries : List (Key × Value)) (key : Key) (value : Value) :
    List (Key × Value) :=
  ((key, value) :: entries.filter (·.1 ≠ key)).take capacity

def find (entries : List (Key × Value)) (key : Key) : List (Key × Value) × Option Value :=
  match entries.lookup key with
  | some value => ((key, value) :: entries.filter (·.1 ≠ key), some value)
  | none => (entries, none)

def delete (entries : List (Key × Value)) (key : Key) : List (Key × Value) :=
  entries.filter (·.1 ≠ key)

end LRU

namespace Cache

variable {Key : Type} [DecidableEq Key] {Value : Type}

/-! ### What the operations leave alone -/

@[simp] theorem capacity_find (cache : Cache Key Value) (key : Key) :
    (cache.find key).1.capacity_ = cache.capacity_ := by
  unfold find
  split <;> rfl

theorem capacity_evict (fuel : Nat) (cache : Cache Key Value) :
    (evict fuel cache).capacity_ = cache.capacity_ := by
  induction fuel generalizing cache with
  | zero => rfl
  | succ fuel ih =>
    unfold evict
    split
    · split
      · rw [ih]
      · rfl
    · rfl

@[simp] theorem capacity_insert (cache : Cache Key Value) (key : Key) (value : Value) :
    (cache.insert key value).capacity_ = cache.capacity_ := by
  unfold insert
  split
  · rw [capacity_evict]
  · rfl

@[simp] theorem capacity_delete_key (cache : Cache Key Value) (key : Key) :
    (cache.delete_key key).capacity_ = cache.capacity_ := by
  unfold delete_key
  split <;> rfl

/-! ### Reading entries through list_ -/

theorem lookup_filterMap_entryOf (map_ : AList (fun _ : Key => Value)) (key : Key) :
    ∀ keys : List Key,
      (keys.filterMap (entryOf map_)).lookup key = if key ∈ keys then map_.lookup key else none
  | [] => by simp
  | k :: keys => by
    have rest := lookup_filterMap_entryOf map_ key keys
    by_cases same : key = k
    · subst same
      cases hit : map_.lookup key <;> simp [entryOf, hit, rest]
    · cases hit : map_.lookup k <;>
        simp [entryOf, hit, rest, same, List.lookup_cons, beq_false_of_ne same]

theorem filter_filterMap_entryOf (map_ : AList (fun _ : Key => Value)) (key : Key)
    (keys : List Key) :
    (keys.filterMap (entryOf map_)).filter (·.1 ≠ key) =
      (keys.filter (· ≠ key)).filterMap (entryOf map_) := by
  rw [List.filter_filterMap, List.filterMap_filter]
  refine List.filterMap_congr fun k _ => ?_
  cases hit : map_.lookup k <;> by_cases same : k = key <;> simp [entryOf, hit, same]

theorem filterMap_entryOf_congr {map_ map' : AList (fun _ : Key => Value)} (keys : List Key)
    (same : ∀ k ∈ keys, map_.lookup k = map'.lookup k) :
    keys.filterMap (entryOf map_) = keys.filterMap (entryOf map') :=
  List.filterMap_congr fun k mem => by simp [entryOf, same k mem]

omit [DecidableEq Key] in
theorem length_keys (map_ : AList (fun _ : Key => Value)) :
    map_.keys.length = map_.entries.length := by
  simp [AList.keys, List.keys]

namespace Consistent

variable {cache : Cache Key Value} (consistent : Consistent cache)
include consistent

theorem nodup : cache.list_.Nodup :=
  consistent.same_keys.nodup_iff.2 cache.map_.keys_nodup

theorem mem_iff {key : Key} : key ∈ cache.list_ ↔ key ∈ cache.map_ :=
  consistent.same_keys.mem_iff.trans AList.mem_keys.symm

theorem lookup_entries (key : Key) : cache.entries.lookup key = cache.map_.lookup key := by
  rw [entries, lookup_filterMap_entryOf]
  split
  · rfl
  · next absent =>
    exact (AList.lookup_eq_none.2 fun mem => absent (consistent.mem_iff.2 mem)).symm

theorem length_entries : cache.entries.length = cache.list_.length := by
  refine List.filterMap_length_eq_length.2 fun key mem => ?_
  simpa [entryOf] using AList.lookup_isSome.2 (consistent.mem_iff.1 mem)

end Consistent

/-! ### Lists cut at their last element -/

omit [DecidableEq Key] in
theorem filterMap_dropLast {β : Type} (f : Key → Option β) {keys : List Key} {last : Key}
    (isLast : keys.getLast? = some last) (kept : (f last).isSome) :
    keys.dropLast.filterMap f = (keys.filterMap f).dropLast := by
  obtain ⟨front, rfl⟩ := List.getLast?_eq_some_iff.1 isLast
  obtain ⟨b, hit⟩ := Option.isSome_iff_exists.1 kept
  simp [List.filterMap_append, hit]

theorem dropLast_eq_erase {keys : List Key} {last : Key} (nodup : keys.Nodup)
    (isLast : keys.getLast? = some last) : keys.dropLast = keys.erase last := by
  obtain ⟨front, rfl⟩ := List.getLast?_eq_some_iff.1 isLast
  have notInFront : last ∉ front := by
    simpa using (List.nodup_append.1 nodup).2.2 last
  simp [List.erase_append_right _ notInFront]

/-! ### The eviction loop -/

theorem evict_of_le {cache : Cache Key Value} (fuel : Nat)
    (fits : cache.map_.entries.length ≤ cache.capacity_) : evict fuel cache = cache := by
  cases fuel <;> simp [evict, Nat.not_lt.2 fits]

theorem evict_one_over (cache : Cache Key Value) (fuel : Nat)
    (same_keys : cache.list_.Perm cache.map_.keys)
    (overfull : cache.map_.entries.length = cache.capacity_ + 1) :
    ∃ deleted, cache.list_.getLast? = some deleted ∧
      evict (fuel + 1) cache =
        { cache with map_ := cache.map_.erase deleted, list_ := cache.list_.dropLast } := by
  have length := same_keys.length_eq
  rw [length_keys] at length
  obtain ⟨deleted, isLast⟩ : ∃ deleted, cache.list_.getLast? = some deleted :=
    Option.isSome_iff_exists.1 (List.getLast?_isSome.2 (List.ne_nil_of_length_pos (by omega)))
  have mem : deleted ∈ cache.map_.keys := same_keys.subset (List.mem_of_getLast? isLast)
  refine ⟨deleted, isLast, ?_⟩
  rw [evict, if_pos (by omega), isLast]
  apply evict_of_le
  show (cache.map_.erase deleted).entries.length ≤ cache.capacity_
  rw [← length_keys, AList.keys_erase, List.length_erase_of_mem mem, length_keys]
  omega

/-! ### Each operation against the reference -/

namespace Consistent

variable {cache : Cache Key Value} (consistent : Consistent cache)
include consistent

theorem mem_of_lookup {key : Key} {value : Value} (hit : cache.map_.lookup key = some value) :
    key ∈ cache.list_ :=
  consistent.mem_iff.2 (AList.lookup_isSome.1 (by simp [hit]))

theorem not_mem_of_lookup {key : Key} (miss : cache.map_.lookup key = none) :
    key ∉ cache.list_ :=
  fun mem => by simpa [miss] using AList.lookup_isSome.2 (consistent.mem_iff.1 mem)

theorem entries_erase_congr {key : Key} {map' : AList (fun _ : Key => Value)}
    (same : ∀ k, k ≠ key → map'.lookup k = cache.map_.lookup k) :
    (cache.list_.erase key).filterMap (entryOf map') =
      cache.entries.filter (·.1 ≠ key) := by
  have erased : cache.list_.erase key = cache.list_.filter (· ≠ key) := by
    rw [consistent.nodup.erase_eq_filter]
    exact List.filter_congr fun k _ => by by_cases equal : k = key <;> simp [equal]
  rw [entries, filter_filterMap_entryOf, ← erased]
  exact filterMap_entryOf_congr _ fun k mem =>
    same k fun equal => (consistent.nodup.mem_erase_iff.1 mem).1 equal

theorem entries_erase (key : Key) :
    (cache.list_.erase key).filterMap (entryOf cache.map_) = cache.entries.filter (·.1 ≠ key) :=
  consistent.entries_erase_congr fun _ _ => rfl

theorem find_refines (key : Key) :
    (cache.find key).1.Consistent ∧
      (cache.find key).1.entries = (LRU.find cache.entries key).1 ∧
      (cache.find key).2 = (LRU.find cache.entries key).2 := by
  unfold Cache.find LRU.find
  rw [consistent.lookup_entries]
  cases hit : cache.map_.lookup key with
  | none => exact ⟨consistent, rfl, rfl⟩
  | some value =>
    have mem := consistent.mem_of_lookup hit
    have shorter := List.length_erase_of_mem mem
    have nonempty := List.length_pos_of_mem mem
    refine ⟨⟨(List.perm_cons_erase mem).symm.trans consistent.same_keys, ?_⟩, ?_, rfl⟩
    · simp only [moveToFront, List.length_cons]
      have := consistent.within
      omega
    · simp [entries, moveToFront, entryOf, hit, consistent.entries_erase key]

theorem delete_key_refines (key : Key) :
    (cache.delete_key key).Consistent ∧
      (cache.delete_key key).entries = LRU.delete cache.entries key := by
  unfold delete_key LRU.delete
  cases hit : cache.map_.lookup key with
  | none =>
    have absent := consistent.not_mem_of_lookup hit
    refine ⟨consistent, ?_⟩
    rw [entries, filter_filterMap_entryOf, List.filter_eq_self.2]
    intro k mem
    have other : k ≠ key := fun equal => absent (equal ▸ mem)
    simpa using other
  | some value =>
    refine ⟨⟨?_, ?_⟩, ?_⟩
    · rw [AList.keys_erase]
      exact consistent.same_keys.erase key
    · exact Nat.le_trans List.length_erase_le consistent.within
    · exact consistent.entries_erase_congr fun k ne => AList.lookup_erase_ne ne

theorem insert_refines (key : Key) (value : Value) :
    (cache.insert key value).Consistent ∧
      (cache.insert key value).entries = LRU.insert cache.capacity_ cache.entries key value := by
  unfold Cache.insert LRU.insert
  have unchanged : ∀ k, k ≠ key → (cache.map_.insert key value).lookup k = cache.map_.lookup k :=
    fun _ ne => AList.lookup_insert_ne ne
  cases hit : cache.map_.lookup key with
  | some old =>
    -- the key moves to the front and takes the new value; the size stays
    have mem := consistent.mem_of_lookup hit
    have shorter := List.length_erase_of_mem mem
    have nonempty := List.length_pos_of_mem mem
    have within := consistent.within
    have moved : entries ⟨cache.map_.insert key value, moveToFront cache.list_ key,
        cache.capacity_, cache.insert_threshold_⟩ =
        (key, value) :: cache.entries.filter (·.1 ≠ key) := by
      simp [entries, moveToFront, entryOf, consistent.entries_erase_congr unchanged]
    refine ⟨⟨?_, ?_⟩, ?_⟩
    · simp only [moveToFront, AList.keys_insert]
      exact (consistent.same_keys.erase key).cons key
    · simp only [moveToFront, List.length_cons]
      omega
    · rw [moved, List.take_of_length_le]
      have filtered := consistent.entries_erase key
      have atMost := List.length_filterMap_le (entryOf cache.map_) (cache.list_.erase key)
      rw [filtered] at atMost
      simp only [List.length_cons]
      omega
  | none =>
    -- a new key: it joins both at the front, and the loop evicts when that overfills the cache
    have absent := consistent.not_mem_of_lookup hit
    have within := consistent.within
    have keys_added : (cache.map_.insert key value).keys = key :: cache.map_.keys := by
      rw [AList.keys_insert,
        List.erase_of_not_mem fun mem => absent (consistent.same_keys.mem_iff.2 mem)]
    have same_keys_added : (key :: cache.list_).Perm (cache.map_.insert key value).keys := by
      rw [keys_added]
      exact consistent.same_keys.cons key
    have size_added : (cache.map_.insert key value).entries.length = cache.list_.length + 1 := by
      rw [← length_keys, keys_added, List.length_cons, consistent.same_keys.length_eq]
    have entries_added : (key :: cache.list_).filterMap (entryOf (cache.map_.insert key value)) =
        (key, value) :: cache.entries := by
      rw [List.filterMap_cons, entryOf, AList.lookup_insert, Option.map_some]
      exact congrArg _ (filterMap_entryOf_congr _ fun k mem =>
        unchanged k fun equal => absent (equal ▸ mem))
    have filtered : cache.entries.filter (·.1 ≠ key) = cache.entries := by
      rw [entries, filter_filterMap_entryOf, List.filter_eq_self.2]
      intro k mem
      have other : k ≠ key := fun equal => absent (equal ▸ mem)
      simpa using other
    have length_added : ((key, value) :: cache.entries).length = cache.list_.length + 1 := by
      simp [consistent.length_entries]
    dsimp only
    rw [filtered, size_added]
    by_cases room : cache.list_.length + 1 ≤ cache.capacity_
    · rw [evict_of_le _ (by rw [size_added]; exact room)]
      refine ⟨⟨same_keys_added, by simpa using room⟩, ?_⟩
      rw [List.take_of_length_le (by omega)]
      exact entries_added
    · obtain ⟨deleted, isLast, evicted⟩ := evict_one_over ⟨cache.map_.insert key value,
        key :: cache.list_, cache.capacity_, cache.insert_threshold_⟩ cache.list_.length
        same_keys_added (by simp only; omega)
      rw [evicted]
      have nodup_added : (key :: cache.list_).Nodup := List.nodup_cons.2 ⟨absent, consistent.nodup⟩
      have dropped := dropLast_eq_erase nodup_added isLast
      have kept : (entryOf (cache.map_.insert key value) deleted).isSome := by
        have mem := same_keys_added.subset (List.mem_of_getLast? isLast)
        simpa [entryOf] using AList.lookup_isSome.2 (AList.mem_keys.2 mem)
      refine ⟨⟨?_, ?_⟩, ?_⟩
      · simp only
        rw [dropped, AList.keys_erase]
        exact same_keys_added.erase deleted
      · simp only [List.length_dropLast, List.length_cons]
        omega
      · show (key :: cache.list_).dropLast.filterMap
            (entryOf ((cache.map_.insert key value).erase deleted)) = _
        rw [filterMap_entryOf_congr (key :: cache.list_).dropLast fun k mem =>
            AList.lookup_erase_ne ((nodup_added.mem_erase_iff.1 (dropped ▸ mem)).1),
          filterMap_dropLast _ isLast kept, entries_added, List.dropLast_eq_take, length_added]
        congr 1
        omega

end Consistent

end Cache

/-! ## Runs of calls -/

/-- The calls a caller makes on a cache. -/
inductive CacheCall (Key Value : Type) where
  | insert (key : Key) (value : Value)
  | find (key : Key)
  | delete_key (key : Key)
  | clear

namespace Cache

variable {Key : Type} [DecidableEq Key] {Value : Type}

def apply (cache : Cache Key Value) : CacheCall Key Value → Cache Key Value
  | .insert key value => cache.insert key value
  | .find key => (cache.find key).1
  | .delete_key key => cache.delete_key key
  | .clear => cache.clear

def run (cache : Cache Key Value) (calls : List (CacheCall Key Value)) : Cache Key Value :=
  calls.foldl apply cache

end Cache

namespace LRU

variable {Key : Type} [DecidableEq Key] {Value : Type}

def apply (capacity : Nat) (entries : List (Key × Value)) :
    CacheCall Key Value → List (Key × Value)
  | .insert key value => insert capacity entries key value
  | .find key => (find entries key).1
  | .delete_key key => delete entries key
  | .clear => []

def run (capacity : Nat) (entries : List (Key × Value)) (calls : List (CacheCall Key Value)) :
    List (Key × Value) :=
  calls.foldl (apply capacity) entries

end LRU

namespace Cache

variable {Key : Type} [DecidableEq Key] {Value : Type}

theorem Consistent.apply {cache : Cache Key Value} (consistent : Consistent cache)
    {call : CacheCall Key Value} (notClear : call ≠ .clear) :
    (cache.apply call).Consistent ∧ (cache.apply call).capacity_ = cache.capacity_ ∧
      (cache.apply call).entries = LRU.apply cache.capacity_ cache.entries call := by
  cases call with
  | insert key value =>
    obtain ⟨kept, refines⟩ := consistent.insert_refines key value
    exact ⟨kept, capacity_insert cache key value, refines⟩
  | find key =>
    obtain ⟨kept, refines, -⟩ := consistent.find_refines key
    exact ⟨kept, capacity_find cache key, refines⟩
  | delete_key key =>
    obtain ⟨kept, refines⟩ := consistent.delete_key_refines key
    exact ⟨kept, capacity_delete_key cache key, refines⟩
  | clear => exact absurd rfl notClear

/-- Over every run of inserts, finds and deletes from a consistent cache, the cache holds the
entries the reference LRU map of its capacity holds. -/
theorem run_refines (cache : Cache Key Value) (consistent : Consistent cache)
    (calls : List (CacheCall Key Value)) (noClear : ∀ call ∈ calls, call ≠ .clear) :
    (cache.run calls).entries = LRU.run cache.capacity_ cache.entries calls := by
  induction calls generalizing cache with
  | nil => rfl
  | cons call calls ih =>
    obtain ⟨kept, capacity, refines⟩ := consistent.apply (noClear call (by simp))
    have rest := ih (cache.apply call) kept fun call mem => noClear call (by simp [mem])
    rw [capacity, refines] at rest
    exact rest

theorem run_refines_of_three_inserts :
    ((Cache.new 2 DEFAULT_CACHE_INSERT_THRESHOLD : Cache Nat Nat).run
        [.insert 1 10, .insert 2 20, .find 1, .insert 3 30]).entries =
      LRU.run 2 [] [.insert 1 10, .insert 2 20, .find 1, .insert 3 30] :=
  have fresh : Consistent (Cache.new 2 DEFAULT_CACHE_INSERT_THRESHOLD : Cache Nat Nat) :=
    ⟨List.Perm.nil, Nat.zero_le _⟩
  run_refines _ fresh _ (by simp)

end Cache

end Peloton
