import Mathlib.Data.List.Basic

set_option autoImplicit false

/-! A history is the list of events a system has logged, oldest first. -/

namespace History

variable {α : Type}

def Before (log : List α) (a b : α) : Prop := List.Sublist [a, b] log

instance [DecidableEq α] (log : List α) (a b : α) : Decidable (Before log a b) :=
  inferInstanceAs (Decidable (List.Sublist [a, b] log))

theorem Before.mem_left {log : List α} {a b : α} (h : Before log a b) : a ∈ log :=
  h.subset (by simp)

theorem Before.mem_right {log : List α} {a b : α} (h : Before log a b) : b ∈ log :=
  h.subset (by simp)

theorem Before.append {log : List α} {a b : α} (h : Before log a b) (later : List α) :
    Before (log ++ later) a b :=
  h.trans (List.sublist_append_left log later)

theorem before_append_singleton {log : List α} {a b : α} (h : a ∈ log) :
    Before (log ++ [b]) a b :=
  List.Sublist.append (List.singleton_sublist.mpr h) (List.Sublist.refl [b])

theorem before_append_singleton_iff {log : List α} {a b e : α} :
    Before (log ++ [e]) a b ↔ Before log a b ∨ (a ∈ log ∧ b = e) := by
  constructor
  · intro h
    obtain ⟨l₁, l₂, split, older, newer⟩ := List.sublist_append_iff.mp h
    match l₂, newer with
    | [], _ =>
      left
      simpa [Before, split] using older
    | [x], newer =>
      have hx : x = e := List.singleton_sublist.mp newer |> List.mem_singleton.mp
      have hl : l₁ = [a] ∧ [x] = [b] := List.append_inj' split.symm rfl
      obtain ⟨rfl, hxb⟩ := hl
      right
      exact ⟨List.singleton_sublist.mp older, (List.singleton_inj.mp hxb) ▸ hx⟩
    | _ :: _ :: _, newer =>
      have := newer.length_le
      simp at this
  · rintro (h | ⟨h, rfl⟩)
    · exact h.append [e]
    · exact before_append_singleton h

theorem before_append_of_mem {log later : List α} {a b : α} (ha : a ∈ log) (hb : b ∈ later) :
    Before (log ++ later) a b :=
  List.Sublist.append (List.singleton_sublist.mpr ha) (List.singleton_sublist.mpr hb)

theorem before_append_iff_of_not_mem {log later : List α} {a b : α} (hb : b ∉ later) :
    Before (log ++ later) a b ↔ Before log a b := by
  constructor
  · intro h
    obtain ⟨l₁, l₂, split, older, newer⟩ := List.sublist_append_iff.mp h
    match l₂, newer with
    | [], _ => simpa [Before, split] using older
    | [x], newer =>
      have hl : l₁ = [a] ∧ [x] = [b] := List.append_inj' split.symm rfl
      exact absurd (List.singleton_inj.mp hl.2 ▸ List.singleton_sublist.mp newer) hb
    | [x, y], newer =>
      have hl : l₁ = [] ∧ [x, y] = [a, b] :=
        List.append_inj' (split.symm : l₁ ++ [x, y] = [] ++ [a, b]) rfl
      exact absurd (newer.subset (by simp [hl.2])) hb
    | _ :: _ :: _ :: _, newer =>
      have := congrArg List.length split
      simp at this
      omega
  · exact fun h => h.append later

end History
