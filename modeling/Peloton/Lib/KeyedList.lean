import Mathlib

set_option autoImplicit false

namespace KeyedList

variable {α β : Type} [DecidableEq α]

-- A finite map kept as a list of entries in insertion order, looked up with List.lookup. A new
-- key goes to the end; an existing key is updated where it stands.

def insertNew (m : List (α × β)) (a : α) (b : β) : List (α × β) := m ++ [(a, b)]

def updateKey (m : List (α × β)) (a : α) (b : β) : List (α × β) :=
  m.map fun e => if e.1 = a then (a, b) else e

def setKey (m : List (α × β)) (a : α) (b : β) : List (α × β) :=
  if (m.lookup a).isSome then updateKey m a b else insertNew m a b

theorem lookup_cons_eq (a : α) (b : β) (m : List (α × β)) (k : α) :
    ((a, b) :: m).lookup k = if k = a then some b else m.lookup k := by
  by_cases h : k = a
  · subst h; simp
  · have different : (k == a) = false := beq_false_of_ne h
    simp [List.lookup_cons, different, h]

theorem lookup_insertNew (m : List (α × β)) (a k : α) (b : β) :
    (insertNew m a b).lookup k = (m.lookup k).or (if k = a then some b else none) := by
  simp only [insertNew, List.lookup_append, lookup_cons_eq, List.lookup_nil]

@[simp] theorem lookup_insertNew_of_ne (m : List (α × β)) {a k : α} (b : β) (h : k ≠ a) :
    (insertNew m a b).lookup k = m.lookup k := by
  simp [lookup_insertNew, h]

@[simp] theorem lookup_insertNew_self (m : List (α × β)) (a : α) (b : β) (h : m.lookup a = none) :
    (insertNew m a b).lookup a = some b := by
  simp [lookup_insertNew, h]

theorem lookup_updateKey (m : List (α × β)) (a k : α) (b : β) :
    (updateKey m a b).lookup k = if k = a then (m.lookup a).map (fun _ => b) else m.lookup k := by
  induction m with
  | nil => simp [updateKey]
  | cons e rest ih =>
    obtain ⟨c, v⟩ := e
    have step : updateKey ((c, v) :: rest) a b =
        (if c = a then (a, b) else (c, v)) :: updateKey rest a b := rfl
    rw [step]
    by_cases hk : k = a
    · subst hk
      by_cases hc : c = k
      · subst hc; simp
      · simp [lookup_cons_eq, hc, Ne.symm hc, ih]
    · by_cases hc : c = a
      · subst hc; simp [lookup_cons_eq, hk, ih]
      · simp [lookup_cons_eq, hk, hc, ih]

@[simp] theorem lookup_updateKey_of_ne (m : List (α × β)) {a k : α} (b : β) (h : k ≠ a) :
    (updateKey m a b).lookup k = m.lookup k := by
  simp [lookup_updateKey, h]

@[simp] theorem lookup_updateKey_self (m : List (α × β)) (a : α) (b : β) :
    (updateKey m a b).lookup a = (m.lookup a).map (fun _ => b) := by
  simp [lookup_updateKey]

theorem lookup_setKey (m : List (α × β)) (a k : α) (b : β) :
    (setKey m a b).lookup k = if k = a then some b else m.lookup k := by
  unfold setKey
  by_cases present : (m.lookup a).isSome
  · rw [if_pos present, lookup_updateKey]
    obtain ⟨v, hv⟩ := Option.isSome_iff_exists.mp present
    by_cases hk : k = a <;> simp [hk, hv]
  · have absent : m.lookup a = none := Option.not_isSome_iff_eq_none.mp present
    rw [if_neg present, lookup_insertNew]
    by_cases hk : k = a
    · subst hk; simp [absent]
    · simp [hk]

theorem keys_updateKey (m : List (α × β)) (a : α) (b : β) :
    (updateKey m a b).map Prod.fst = m.map Prod.fst := by
  induction m with
  | nil => rfl
  | cons e rest ih =>
    by_cases h : e.1 = a
    · simp [updateKey, h] at ih ⊢; exact ih
    · simp [updateKey, h] at ih ⊢; exact ih

theorem nodup_insertNew (m : List (α × β)) (a : α) (b : β) (nodup : (m.map Prod.fst).Nodup)
    (absent : m.lookup a = none) : ((insertNew m a b).map Prod.fst).Nodup := by
  have notMem : a ∉ m.map Prod.fst := by
    intro mem
    obtain ⟨p, hm, hp⟩ := List.mem_map.mp mem
    have := List.lookup_eq_none_iff.mp absent p hm
    simp [hp] at this
  simp only [insertNew, List.map_append, List.map_cons, List.map_nil]
  rw [List.nodup_append]
  refine ⟨nodup, List.nodup_singleton _, fun x hx y hy => ?_⟩
  rw [List.mem_singleton] at hy
  subst hy
  rintro rfl
  exact notMem hx


theorem lookup_of_mem {m : List (α × β)} {a : α} {b : β} (nodup : (m.map Prod.fst).Nodup)
    (mem : (a, b) ∈ m) : m.lookup a = some b := by
  induction m with
  | nil => cases mem
  | cons e rest ih =>
    obtain ⟨c, v⟩ := e
    rw [List.map_cons, List.nodup_cons] at nodup
    rw [lookup_cons_eq]
    rcases List.mem_cons.mp mem with same | later
    · cases same; simp
    · have different : a ≠ c := by
        rintro rfl
        exact nodup.1 (List.mem_map.mpr ⟨(a, b), later, rfl⟩)
      rw [if_neg different]
      exact ih nodup.2 later

end KeyedList
