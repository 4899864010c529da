import Mathlib.Data.List.Perm.Basic

set_option autoImplicit false

namespace Peloton.Codegen

-- A node of query_list_: its address (allocation order), the plan and the compiled query.
structure QueryCache.Node (P Q : Type) where
  id : Nat
  key : P
  query : Q
  deriving DecidableEq, Repr

-- cache_map_ is the unordered_map from plan to list iterator, keyed by planner::Equal (the BEq
-- of P); its iteration order is the list's.
structure QueryCache (P Q : Type) where
  query_list_ : List (QueryCache.Node P Q)
  cache_map_ : List (P × Nat)
  capacity_ : Nat
  allocated : Nat
  deriving DecidableEq, Repr

namespace QueryCache

variable {P Q : Type} [BEq P]

def empty : QueryCache P Q := ⟨[], [], 0, 0⟩

def lookup (cache : QueryCache P Q) (key : P) : Option (P × Nat) :=
  cache.cache_map_.find? fun entry => entry.1 == key

def queryOf (list : List (Node P Q)) (id : Nat) : Option Q :=
  (list.find? fun node => node.id == id).map (·.query)

def spliceToFront (list : List (Node P Q)) (id : Nat) : List (Node P Q) :=
  match list.find? fun node => node.id == id with
  | some node => node :: list.filter fun other => other.id != id
  | none => list

def Find (cache : QueryCache P Q) (key : P) : QueryCache P Q × Option Q :=
  match cache.lookup key with
  | none => (cache, none)
  | some (_, id) =>
    ({ cache with query_list_ := spliceToFront cache.query_list_ id }, queryOf cache.query_list_ id)

-- push_front, then an insert that does nothing where an equal key is present.
def Add (cache : QueryCache P Q) (key : P) (val : Q) : QueryCache P Q :=
  { cache with
    query_list_ := ⟨cache.allocated, key, val⟩ :: cache.query_list_
    cache_map_ := if (cache.lookup key).isSome then cache.cache_map_
      else cache.cache_map_ ++ [(key, cache.allocated)]
    allocated := cache.allocated + 1 }

def Clear (cache : QueryCache P Q) : QueryCache P Q :=
  { cache with query_list_ := [], cache_map_ := [] }

-- Each map entry whose plan has the oid erases its node and itself.
def Remove (GetOidFromPlan : P → Nat) (cache : QueryCache P Q) (table_oid : Nat) : QueryCache P Q :=
  let removed := cache.cache_map_.filter fun entry => GetOidFromPlan entry.1 == table_oid
  { cache with
    query_list_ := cache.query_list_.filter fun node => !removed.any (·.2 == node.id)
    cache_map_ := cache.cache_map_.filter fun entry => GetOidFromPlan entry.1 != table_oid }

def resizeLoop (target_size : Nat) :
    Nat → List (Node P Q) → List (P × Nat) → List (Node P Q) × List (P × Nat)
  | 0, list, map => (list, map)
  | fuel + 1, list, map =>
    if map.length > target_size then
      match list.getLast? with
      | some last => resizeLoop target_size fuel list.dropLast (map.eraseP fun entry => entry.1 == last.key)
      | none => (list, map)
    else (list, map)

def Resize (cache : QueryCache P Q) (target_size : Nat) : QueryCache P Q :=
  let (list, map) := resizeLoop target_size cache.query_list_.length cache.query_list_ cache.cache_map_
  { cache with query_list_ := list, cache_map_ := map, capacity_ := target_size }

inductive Call (P Q : Type)
  | find (key : P)
  | add (key : P) (val : Q)
  | clear
  | remove (table_oid : Nat)
  | resize (target_size : Nat)

def run (GetOidFromPlan : P → Nat) : QueryCache P Q → List (Call P Q) → QueryCache P Q
  | cache, [] => cache
  | cache, .find key :: rest => run GetOidFromPlan (cache.Find key).1 rest
  | cache, .add key val :: rest => run GetOidFromPlan (cache.Add key val) rest
  | cache, .clear :: rest => run GetOidFromPlan cache.Clear rest
  | cache, .remove table_oid :: rest => run GetOidFromPlan (cache.Remove GetOidFromPlan table_oid) rest
  | cache, .resize target_size :: rest => run GetOidFromPlan (cache.Resize target_size) rest

-- query_list_ and cache_map_ in bijection: the map's iterators are the list's nodes, each once,
-- and each points to a node with an equal plan; node addresses are fresh below allocated.
structure Bijective (cache : QueryCache P Q) : Prop where
  perm : (cache.cache_map_.map (·.2)).Perm (cache.query_list_.map (·.id))
  nodup : (cache.query_list_.map (·.id)).Nodup
  keys : ∀ entry ∈ cache.cache_map_, ∀ node ∈ cache.query_list_, node.id = entry.2 → (node.key == entry.1) = true
  fresh : ∀ node ∈ cache.query_list_, node.id < cache.allocated

theorem empty_bijective : (empty : QueryCache P Q).Bijective :=
  ⟨by simp [empty], by simp [empty], by simp [empty], by simp [empty]⟩

theorem Bijective.length_eq {cache : QueryCache P Q} (bijective : cache.Bijective) :
    cache.query_list_.length = cache.cache_map_.length := by
  simpa using bijective.perm.length_eq.symm

theorem Bijective.lookup_none_of_find_none {cache : QueryCache P Q} (bijective : cache.Bijective) {key : P}
    (miss : (cache.Find key).2 = none) : cache.lookup key = none := by
  cases found : cache.lookup key with
  | none => rfl
  | some entry =>
    obtain ⟨key', id⟩ := entry
    have listed : id ∈ cache.query_list_.map (·.id) :=
      bijective.perm.subset (List.mem_map_of_mem (List.mem_of_find?_eq_some found))
    obtain ⟨node, member, rfl⟩ := List.mem_map.mp listed
    simp only [Find, found, queryOf, Option.map_eq_none_iff, List.find?_eq_none] at miss
    simpa using miss node member

theorem find_of_lookup_none {cache : QueryCache P Q} {key : P} (miss : cache.lookup key = none) :
    cache.Find key = (cache, none) := by
  simp [Find, miss]

@[simp] theorem add_query_list (cache : QueryCache P Q) (key : P) (val : Q) :
    (cache.Add key val).query_list_ = ⟨cache.allocated, key, val⟩ :: cache.query_list_ := rfl

theorem add_cache_map_of_absent {cache : QueryCache P Q} {key : P} (val : Q) (absent : cache.lookup key = none) :
    (cache.Add key val).cache_map_ = cache.cache_map_ ++ [(key, cache.allocated)] := by
  simp [Add, absent]

theorem add_cache_map_of_present {cache : QueryCache P Q} {key : P} (val : Q)
    (present : (cache.lookup key).isSome) : (cache.Add key val).cache_map_ = cache.cache_map_ := by
  simp [Add, present]

theorem lookup_add_of_absent [ReflBEq P] {cache : QueryCache P Q} {key : P} (val : Q)
    (absent : cache.lookup key = none) : ((cache.Add key val).lookup key).isSome := by
  have none_before : cache.cache_map_.find? (fun entry => entry.1 == key) = none := absent
  rw [lookup, add_cache_map_of_absent val absent, List.find?_append, none_before]
  simp

theorem add_of_absent_bijective {cache : QueryCache P Q} (bijective : cache.Bijective) {key : P} (val : Q)
    (absent : cache.lookup key = none) [ReflBEq P] : (cache.Add key val).Bijective := by
  have stale : cache.allocated ∉ cache.query_list_.map (·.id) := by
    simp only [List.mem_map, not_exists, not_and]
    intro node member same
    exact absurd (bijective.fresh node member) (by omega)
  refine ⟨?_, ?_, ?_, ?_⟩
  · rw [add_cache_map_of_absent val absent, add_query_list, List.map_append, List.map_cons]
    exact (bijective.perm.append_right _).trans (List.perm_append_singleton _ _)
  · rw [add_query_list, List.map_cons]
    exact List.nodup_cons.mpr ⟨stale, bijective.nodup⟩
  · rw [add_cache_map_of_absent val absent, add_query_list]
    intro entry in_map node in_list same
    rcases List.mem_append.mp in_map with old | new
    · rcases List.mem_cons.mp in_list with rfl | old_node
      · exact absurd (bijective.perm.subset (List.mem_map.mpr ⟨entry, old, same.symm⟩)) stale
      · exact bijective.keys entry old node old_node same
    · obtain rfl := List.mem_singleton.mp new
      rcases List.mem_cons.mp in_list with rfl | old_node
      · exact BEq.rfl
      · exact absurd (List.mem_map.mpr ⟨node, old_node, same⟩) stale
  · intro node member
    rcases List.mem_cons.mp member with rfl | old
    · simp [Add]
    · exact Nat.lt_succ_of_lt (bijective.fresh node old)

-- Two executors miss on equal plans, compile, and both Add: the second push_front leaves a node
-- that no map entry points to.
theorem add_after_concurrent_miss_orphans_node [ReflBEq P] (GetOidFromPlan : P → Nat)
    (cache : QueryCache P Q) (bijective : cache.Bijective) (key : P) (miss : (cache.Find key).2 = none)
    (first second : Q) :
    (cache.run GetOidFromPlan [.find key, .find key, .add key first, .add key second]).query_list_.length =
        (cache.run GetOidFromPlan [.find key, .find key, .add key first, .add key second]).cache_map_.length + 1 ∧
      ¬ (cache.run GetOidFromPlan [.find key, .find key, .add key first, .add key second]).Bijective := by
  have absent := bijective.lookup_none_of_find_none miss
  have present := lookup_add_of_absent first absent
  have final : cache.run GetOidFromPlan [.find key, .find key, .add key first, .add key second] =
      (cache.Add key first).Add key second := by
    simp [run, find_of_lookup_none absent]
  have lengths : ((cache.Add key first).Add key second).query_list_.length =
      ((cache.Add key first).Add key second).cache_map_.length + 1 := by
    rw [add_cache_map_of_present second present, add_cache_map_of_absent first absent]
    simp [bijective.length_eq]
  rw [final]
  exact ⟨lengths, fun broken => by have := broken.length_eq; omega⟩

theorem add_after_concurrent_miss_orphans_node_of_empty :
    (empty : QueryCache Nat Nat).Bijective ∧ ((empty : QueryCache Nat Nat).Find 7).2 = none ∧
      (((empty : QueryCache Nat Nat).run id [.find 7, .find 7, .add 7 1, .add 7 2]).query_list_.length =
          ((empty : QueryCache Nat Nat).run id [.find 7, .find 7, .add 7 1, .add 7 2]).cache_map_.length + 1 ∧
        ¬ ((empty : QueryCache Nat Nat).run id [.find 7, .find 7, .add 7 1, .add 7 2]).Bijective) ∧
        ((empty : QueryCache Nat Nat).run id [.find 7, .find 7, .add 7 1, .add 7 2, .resize 0]).query_list_.length = 1 ∧
        ((empty : QueryCache Nat Nat).run id [.find 7, .find 7, .add 7 1, .add 7 2, .resize 0]).cache_map_ = [] :=
  ⟨empty_bijective, by decide, add_after_concurrent_miss_orphans_node id empty empty_bijective 7 (by decide) 1 2,
    by decide, by decide⟩

end QueryCache

end Peloton.Codegen
