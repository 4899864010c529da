import Mathlib

set_option autoImplicit false

namespace Peloton.Codegen

def CountLeadingZeroes (i : Nat) : Nat := 64 - (if i = 0 then 0 else Nat.log2 i + 1)

def NextPowerOf2 (n : Nat) : Nat := 2 ^ (64 - CountLeadingZeroes (n - 1))

-- An occupied bucket: the hash, the key, and the values of the key, the inline one first (once a
-- KeyValueList exists the inline value is copied into it, so it holds them all).
structure HashEntry (K Val : Type) where
  hash : Nat
  key : K
  values : List Val

-- The bucket array, none standing for StatusCode::FREE, and the counters of the table.
structure OAHashTable (K Val : Type) where
  buckets : List (Option (HashEntry K Val))
  num_buckets : Nat
  bucket_mask : Nat
  num_valid_buckets : Nat
  num_entries : Nat
  resize_threshold : Nat

namespace OAHashTable

variable {K Val : Type}

def Init (estimated_num_entries : Nat) : OAHashTable K Val :=
  let num_buckets := NextPowerOf2 estimated_num_entries
  { buckets := List.replicate num_buckets none
    num_buckets := num_buckets
    bucket_mask := num_buckets - 1
    num_valid_buckets := 0
    num_entries := 0
    resize_threshold := num_buckets >>> 1 }

def NeedsResize (t : OAHashTable K Val) : Bool := t.num_valid_buckets == t.resize_threshold

def IsFree (buckets : List (Option (HashEntry K Val))) (index : Nat) : Bool :=
  match buckets[index]? with
  | some none => true
  | _ => false

def findFree (buckets : List (Option (HashEntry K Val))) (num_buckets : Nat) :
    Nat → Nat → Option Nat
  | 0, _ => none
  | fuel + 1, index =>
    if IsFree buckets index then some index
    else findFree buckets num_buckets fuel (if index + 1 = num_buckets then 0 else index + 1)

def FindNextFreeEntry (t : OAHashTable K Val) (hash : Nat) : Option Nat :=
  findFree t.buckets t.num_buckets t.num_buckets (hash &&& t.bucket_mask)

def rehash (num_buckets bucket_mask num_valid tracked : Nat) :
    Nat → List (Option (HashEntry K Val)) → Nat → List (Option (HashEntry K Val)) →
      Option Nat → Option (List (Option (HashEntry K Val)) × Option Nat)
  | _, [], _, newBuckets, moved => some (newBuckets, moved)
  | oldIndex, bucket :: rest, processed, newBuckets, moved =>
    if processed < num_valid then
      match bucket with
      | none => rehash num_buckets bucket_mask num_valid tracked (oldIndex + 1) rest processed
        newBuckets moved
      | some entry =>
        match findFree newBuckets num_buckets num_buckets (entry.hash &&& bucket_mask) with
        | none => none
        | some newIndex =>
          rehash num_buckets bucket_mask num_valid tracked (oldIndex + 1) rest (processed + 1)
            (newBuckets.set newIndex (some entry))
            (if oldIndex = tracked then some newIndex else moved)
    else some (newBuckets, moved)

def Resize (t : OAHashTable K Val) (entry : Nat) : Option (OAHashTable K Val × Option Nat) :=
  let num_buckets := t.num_buckets <<< 1
  let bucket_mask := num_buckets - 1
  let resize_threshold := t.resize_threshold <<< 1
  match rehash num_buckets bucket_mask t.num_valid_buckets entry 0 t.buckets 0
      (List.replicate num_buckets none) none with
  | none => none
  | some (buckets, moved) =>
    some ({ t with buckets, num_buckets, bucket_mask, resize_threshold }, moved)

def storeTarget (t : OAHashTable K Val) (entry hash : Nat) (entry_is_free : Bool) :
    Option (OAHashTable K Val × Nat) :=
  if NeedsResize t then
    match Resize t entry with
    | none => none
    | some (resized, moved) =>
      if entry_is_free then (FindNextFreeEntry resized hash).map fun free => (resized, free)
      else moved.map fun moved => (resized, moved)
  else some (t, entry)

-- StoreTuple followed by Insert's writes: a free entry takes the hash, the key and the value;
-- an occupied one (of the same key) gets the value appended to its KeyValueList.
def StoreTuple (t : OAHashTable K Val) (entry hash : Nat) (k : K) (v : Val) :
    Option (OAHashTable K Val) :=
  let entry_is_free := IsFree t.buckets entry
  match storeTarget t entry hash entry_is_free with
  | none => none
  | some (t, entry) =>
    let t := { t with num_entries := t.num_entries + 1 }
    if entry_is_free then
      some { t with
        buckets := t.buckets.set entry (some ⟨hash, k, [v]⟩)
        num_valid_buckets := t.num_valid_buckets + 1 }
    else
      match t.buckets[entry]? with
      | some (some e) => some { t with buckets := t.buckets.set entry (some { e with values := e.values ++ [v] }) }
      | _ => none

variable [DecidableEq K]

def insertProbe (t : OAHashTable K Val) (hash : Nat) (k : K) : Nat → Nat → Nat → Option Nat
  | 0, _, _ => none
  | fuel + 1, bucket, address =>
    match t.buckets[address]? with
    | none => none
    | some none => some address
    | some (some e) =>
      if e.hash = hash ∧ e.key = k then some address
      else
        let bucket := if bucket = t.num_buckets then 0 else bucket + 1
        let address := if bucket = t.num_buckets then 0 else address + 1
        insertProbe t hash k fuel bucket address

def Insert (fuel : Nat) (t : OAHashTable K Val) (hash : Nat) (k : K) (v : Val) :
    Option (OAHashTable K Val) :=
  match insertProbe t hash k fuel (hash &&& t.bucket_mask) (hash &&& t.bucket_mask) with
  | none => none
  | some entry => StoreTuple t entry hash k v

def insertAll (fuel : Nat) : OAHashTable K Val → List (Nat × K × Val) → Option (OAHashTable K Val)
  | t, [] => some t
  | t, (hash, k, v) :: rest =>
    match Insert fuel t hash k v with
    | none => none
    | some t => insertAll fuel t rest

section Counters

variable {t t' : OAHashTable K Val}

omit [DecidableEq K] in
theorem rehash_length (num_buckets bucket_mask num_valid tracked : Nat) :
    ∀ (old : List (Option (HashEntry K Val))) (oldIndex processed : Nat)
      (newBuckets : List (Option (HashEntry K Val))) (moved : Option Nat)
      (result : List (Option (HashEntry K Val)) × Option Nat),
      rehash num_buckets bucket_mask num_valid tracked oldIndex old processed newBuckets moved =
          some result →
        result.1.length = newBuckets.length
  | [], _, _, _, _, result, done => by
    simp only [rehash, Option.some.injEq] at done
    rw [← done]
  | bucket :: rest, oldIndex, processed, newBuckets, moved, result, done => by
    unfold rehash at done
    split at done
    · split at done
      · exact rehash_length num_buckets bucket_mask num_valid tracked rest _ _ _ _ result done
      · split at done
        · cases done
        · rw [rehash_length num_buckets bucket_mask num_valid tracked rest _ _ _ _ result done,
            List.length_set]
    · simp only [Option.some.injEq] at done
      rw [← done]

omit [DecidableEq K] in
theorem resize_spec {entry : Nat} {moved : Option Nat} (resized : Resize t entry = some (t', moved)) :
    t'.num_buckets = 2 * t.num_buckets ∧ t'.resize_threshold = 2 * t.resize_threshold ∧
      t'.bucket_mask = t'.num_buckets - 1 ∧ t'.buckets.length = t'.num_buckets ∧
      t'.num_valid_buckets = t.num_valid_buckets ∧ t'.num_entries = t.num_entries := by
  dsimp only [Resize] at resized
  split at resized
  · cases resized
  · next buckets newMoved rehashed =>
    simp only [Option.some.injEq, Prod.mk.injEq] at resized
    obtain ⟨rfl, -⟩ := resized
    have length := rehash_length _ _ _ _ _ _ _ _ _ _ rehashed
    rw [List.length_replicate] at length
    refine ⟨?_, ?_, rfl, length, rfl, rfl⟩ <;> simp only [Nat.shiftLeft_eq, Nat.pow_one] <;> omega

-- The counting invariant of the table: the array has num_buckets entries, a power of two that is
-- twice the resize threshold, and at most half of the buckets are taken.
structure Inv (t : OAHashTable K Val) : Prop where
  length : t.buckets.length = t.num_buckets
  powerOfTwo : ∃ m, t.num_buckets = 2 ^ m
  doubled : t.num_buckets = 2 * t.resize_threshold
  positive : 0 < t.resize_threshold
  load : t.num_valid_buckets ≤ t.resize_threshold
  mask : t.bucket_mask = t.num_buckets - 1

omit [DecidableEq K] in
theorem storeTarget_inv {entry hash : Nat} {free : Bool} {target : Nat} (inv : Inv t)
    (found : storeTarget t entry hash free = some (t', target)) :
    Inv t' ∧ t'.num_valid_buckets < t'.resize_threshold ∧ t'.num_entries = t.num_entries := by
  unfold storeTarget at found
  split at found
  · next needed =>
    have full : t.num_valid_buckets = t.resize_threshold := by simpa [NeedsResize] using needed
    split at found
    · cases found
    · next resizedTable moved resized =>
      obtain ⟨buckets, threshold, mask, length, valid, entries⟩ := resize_spec resized
      have same : resizedTable = t' := by
        split at found
        · obtain ⟨_, -, found⟩ := Option.map_eq_some_iff.1 found
          exact (Prod.mk.inj found).1
        · obtain ⟨_, -, found⟩ := Option.map_eq_some_iff.1 found
          exact (Prod.mk.inj found).1
      subst same
      obtain ⟨m, power⟩ := inv.powerOfTwo
      have positive := inv.positive
      refine ⟨⟨length, ⟨m + 1, by rw [buckets, power, Nat.pow_succ, Nat.mul_comm]⟩,
        by rw [buckets, threshold, inv.doubled], by omega, by omega, mask⟩, by omega, entries⟩
  · next notNeeded =>
    have notFull : t.num_valid_buckets ≠ t.resize_threshold := by simpa [NeedsResize] using notNeeded
    simp only [Option.some.injEq, Prod.mk.injEq] at found
    obtain ⟨rfl, -⟩ := found
    exact ⟨inv, by have := inv.load; omega, rfl⟩

omit [DecidableEq K] in
theorem storeTuple_inv {entry hash : Nat} {k : K} {v : Val} (inv : Inv t)
    (stored : StoreTuple t entry hash k v = some t') : Inv t' := by
  dsimp only [StoreTuple] at stored
  split at stored
  · cases stored
  · next target targetIndex found =>
    obtain ⟨targetInv, room, -⟩ := storeTarget_inv inv found
    split at stored
    · simp only [Option.some.injEq] at stored
      subst stored
      exact ⟨by simpa using targetInv.length, targetInv.powerOfTwo, targetInv.doubled,
        targetInv.positive, by simp only; omega, targetInv.mask⟩
    · split at stored
      · simp only [Option.some.injEq] at stored
        subst stored
        exact ⟨by simpa using targetInv.length, targetInv.powerOfTwo, targetInv.doubled,
          targetInv.positive, targetInv.load, targetInv.mask⟩
      · cases stored

theorem insert_inv {fuel hash : Nat} {k : K} {v : Val} (inv : Inv t)
    (inserted : Insert fuel t hash k v = some t') : Inv t' := by
  unfold Insert at inserted
  split at inserted
  · cases inserted
  · exact storeTuple_inv inv inserted

theorem insertAll_inv (fuel : Nat) :
    ∀ (inserts : List (Nat × K × Val)) (t t' : OAHashTable K Val), Inv t →
      insertAll fuel t inserts = some t' → Inv t'
  | [], t, t', inv, done => by
    simp only [insertAll, Option.some.injEq] at done
    exact done ▸ inv
  | (hash, k, v) :: rest, t, t', inv, done => by
    unfold insertAll at done
    split at done
    · cases done
    · next next inserted => exact insertAll_inv fuel rest next t' (insert_inv inv inserted) done

omit [DecidableEq K] in
theorem init_inv {estimated_num_entries : Nat} (two : 2 ≤ estimated_num_entries) :
    Inv (Init estimated_num_entries : OAHashTable K Val) := by
  have notZero : estimated_num_entries - 1 ≠ 0 := by omega
  have exponent : 0 < 64 - CountLeadingZeroes (estimated_num_entries - 1) := by
    unfold CountLeadingZeroes
    rw [if_neg notZero]
    omega
  obtain ⟨m, exponentEq⟩ : ∃ m, 64 - CountLeadingZeroes (estimated_num_entries - 1) = m + 1 :=
    ⟨_, (Nat.succ_pred_eq_of_pos exponent).symm⟩
  have power : NextPowerOf2 estimated_num_entries = 2 * 2 ^ m := by
    rw [NextPowerOf2, exponentEq, Nat.pow_succ, Nat.mul_comm]
  have half : NextPowerOf2 estimated_num_entries >>> 1 = 2 ^ m := by
    rw [power, Nat.shiftRight_eq_div_pow, Nat.pow_one, Nat.mul_div_cancel_left _ (by decide)]
  refine ⟨by simp [Init], ⟨m + 1, ?_⟩, ?_, ?_, by simp [Init], rfl⟩
  · simp only [Init, power, Nat.pow_succ, Nat.mul_comm]
  · simp only [Init]
    rw [half, power]
  · simp only [Init, half]
    exact Nat.two_pow_pos m

omit [DecidableEq K] in
theorem storeTuple_of_not_needsResize {entry hash : Nat} {k : K} {v : Val}
    (notNeeded : NeedsResize t = false) (stored : StoreTuple t entry hash k v = some t') :
    t'.num_buckets = t.num_buckets ∧ t'.resize_threshold = t.resize_threshold ∧
      t.num_valid_buckets ≤ t'.num_valid_buckets := by
  have sameTarget : storeTarget t entry hash (IsFree t.buckets entry) = some (t, entry) := by
    rw [storeTarget, if_neg (by simp [notNeeded])]
  dsimp only [StoreTuple] at stored
  rw [sameTarget] at stored
  dsimp only at stored
  split at stored
  · obtain rfl := Option.some.inj stored
    exact ⟨rfl, rfl, Nat.le_succ _⟩
  · split at stored
    · obtain rfl := Option.some.inj stored
      exact ⟨rfl, rfl, Nat.le_refl _⟩
    · cases stored

theorem insert_keeps_size_of_past_threshold {fuel hash : Nat} {k : K} {v : Val}
    (past : t.resize_threshold < t.num_valid_buckets) (inserted : Insert fuel t hash k v = some t') :
    t'.num_buckets = t.num_buckets ∧ t'.resize_threshold = t.resize_threshold ∧
      t.resize_threshold < t'.num_valid_buckets := by
  have notNeeded : NeedsResize t = false := by
    simp only [NeedsResize, beq_eq_false_iff_ne]
    omega
  unfold Insert at inserted
  split at inserted
  · cases inserted
  · obtain ⟨buckets, threshold, grows⟩ := storeTuple_of_not_needsResize notNeeded inserted
    exact ⟨buckets, threshold, by omega⟩

theorem insertAll_keeps_size_of_past_threshold (fuel : Nat) :
    ∀ (inserts : List (Nat × K × Val)) (t t' : OAHashTable K Val),
      t.resize_threshold < t.num_valid_buckets → insertAll fuel t inserts = some t' →
        t'.num_buckets = t.num_buckets ∧ t'.resize_threshold = t.resize_threshold
  | [], t, t', _, done => by
    simp only [insertAll, Option.some.injEq] at done
    exact ⟨done ▸ rfl, done ▸ rfl⟩
  | (hash, k, v) :: rest, t, t', past, done => by
    unfold insertAll at done
    split at done
    · cases done
    · next next inserted =>
      obtain ⟨buckets, threshold, stillPast⟩ := insert_keeps_size_of_past_threshold past inserted
      obtain ⟨restBuckets, restThreshold⟩ :=
        insertAll_keeps_size_of_past_threshold fuel rest next t' (threshold ▸ stillPast) done
      exact ⟨restBuckets.trans buckets, restThreshold.trans threshold⟩

-- From an estimate of at least 2, after any run of Insert calls at most half of the buckets are
-- taken, and the bucket count is a power of two.
theorem insertAll_load_of_init (fuel : Nat) {estimated_num_entries : Nat}
    (two : 2 ≤ estimated_num_entries) (inserts : List (Nat × K × Val)) (t : OAHashTable K Val)
    (done : insertAll fuel (Init estimated_num_entries) inserts = some t) :
    2 * t.num_valid_buckets ≤ t.num_buckets ∧ ∃ m, t.num_buckets = 2 ^ m := by
  have inv := insertAll_inv fuel inserts _ t (init_inv two) done
  exact ⟨by rw [inv.doubled]; exact Nat.mul_le_mul_left 2 inv.load, inv.powerOfTwo⟩

theorem insertAll_load_of_init_of_three_keys :
    ∃ t, insertAll 8 (Init 4 : OAHashTable Nat Nat) [(0, 0, 7), (1, 1, 8), (5, 2, 9)] = some t ∧
      2 * t.num_valid_buckets ≤ t.num_buckets ∧ ∃ m, t.num_buckets = 2 ^ m := by
  obtain ⟨t, done⟩ := Option.isSome_iff_exists.mp
    (by decide : (insertAll 8 (Init 4 : OAHashTable Nat Nat) [(0, 0, 7), (1, 1, 8), (5, 2, 9)]).isSome)
  exact ⟨t, done, insertAll_load_of_init 8 (by decide) _ t done⟩

end Counters

section InitOne

theorem insert_init_one (fuel hash : Nat) (k : K) (v : Val) :
    (Insert (fuel + 1) (Init 1 : OAHashTable K Val) hash k v).map
      (fun t => (t.num_buckets, t.resize_threshold, t.num_valid_buckets)) = some (2, 0, 1) := by
  have mask : (Init 1 : OAHashTable K Val).bucket_mask = 0 := rfl
  have probe : insertProbe (Init 1 : OAHashTable K Val) hash k (fuel + 1) 0 0 = some 0 := rfl
  have resized : Resize (Init 1 : OAHashTable K Val) 0 =
      some (⟨List.replicate 2 none, 2, 1, 0, 0, 0⟩, none) := rfl
  -- the probe after the resize finds the bucket of the hash free
  have found : FindNextFreeEntry (⟨List.replicate 2 none, 2, 1, 0, 0, 0⟩ : OAHashTable K Val) hash =
      some (hash &&& 1) := by
    have slot : hash &&& 1 < 2 := Nat.lt_of_le_of_lt Nat.and_le_right (by decide)
    have free : IsFree (List.replicate 2 none : List (Option (HashEntry K Val))) (hash &&& 1) := by
      rw [IsFree, List.getElem?_replicate, if_pos slot]
    show findFree _ 2 (1 + 1) (hash &&& 1) = _
    rw [findFree, if_pos free]
  have target : storeTarget (Init 1 : OAHashTable K Val) 0 hash true =
      some (⟨List.replicate 2 none, 2, 1, 0, 0, 0⟩, hash &&& 1) := by
    rw [storeTarget, if_pos (show NeedsResize (Init 1 : OAHashTable K Val) = true from rfl), resized]
    simp only [if_true, found, Option.map_some]
  unfold Insert
  rw [mask, Nat.and_zero, probe]
  dsimp only [StoreTuple]
  rw [show IsFree (Init 1 : OAHashTable K Val).buckets 0 = true from rfl, target]
  rfl

theorem insertAll_init_one_keeps_two_buckets (fuel : Nat) (first : Nat × K × Val)
    (rest : List (Nat × K × Val)) (t : OAHashTable K Val)
    (done : insertAll (fuel + 1) (Init 1) (first :: rest) = some t) :
    t.num_buckets = 2 ∧ t.resize_threshold = 0 := by
  obtain ⟨hash, k, v⟩ := first
  unfold insertAll at done
  split at done
  · cases done
  · next afterFirst inserted =>
    have counters := insert_init_one fuel hash k v
    rw [inserted] at counters
    simp only [Option.map_some, Option.some.injEq, Prod.mk.injEq] at counters
    obtain ⟨buckets, threshold, valid⟩ := counters
    have kept := insertAll_keeps_size_of_past_threshold (fuel + 1) rest afterFirst t
      (by omega) done
    exact ⟨kept.1.trans buckets, kept.2.trans threshold⟩

end InitOne

end OAHashTable

-- From Init(1), two keys fill both buckets, past the 50% load the table relies on, and a third
-- key's probe walks past the end of the array instead of finding a bucket.
theorem oaHashTable_init_one_overfills :
    (OAHashTable.insertAll 4 (OAHashTable.Init 1 : OAHashTable Nat Nat) [(0, 0, 7), (1, 1, 8)]).map
        (fun t => (t.num_buckets, t.num_valid_buckets)) = some (2, 2) ∧
      ∀ fuel, (OAHashTable.insertAll 4 (OAHashTable.Init 1 : OAHashTable Nat Nat)
        [(0, 0, 7), (1, 1, 8)]).bind (fun t => OAHashTable.Insert fuel t 2 2 9) = none := by
  refine ⟨by decide, ?_⟩
  intro fuel
  rcases fuel with _ | _ | _ | _ | _ | fuel <;> rfl

end Peloton.Codegen
