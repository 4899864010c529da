import Mathlib.Data.Option.Basic

set_option autoImplicit false

/-! A system given by its initial state and a partial step function on actions: the states it can
reach, the runs that compute them, and the induction rule for invariants. -/

namespace TransitionSystem

variable {σ α : Type} (init : σ) (step : σ → α → Option σ)

inductive Reachable : σ → Prop where
  | init : Reachable init
  | step {s s' : σ} (a : α) : Reachable s → step s a = some s' → Reachable s'

def run (s : σ) : List α → Option σ
  | [] => some s
  | a :: rest => (step s a).bind fun s' => run s' rest

variable {init step}

theorem reachable_run {s s' : σ} (hs : Reachable init step s) :
    (acts : List α) → run step s acts = some s' → Reachable init step s'
  | [], h => by
    simp only [run, Option.some.injEq] at h
    exact h ▸ hs
  | a :: rest, h => by
    simp only [run] at h
    cases hstep : step s a with
    | none => simp [hstep] at h
    | some s₁ =>
      rw [hstep, Option.bind_some] at h
      exact reachable_run (hs.step a hstep) rest h

theorem reachable_of_run {s : σ} (acts : List α) (h : run step init acts = some s) :
    Reachable init step s :=
  reachable_run .init acts h

theorem run_append (s : σ) (acts acts' : List α) :
    run step s (acts ++ acts') = (run step s acts).bind fun s' => run step s' acts' := by
  induction acts generalizing s with
  | nil => rfl
  | cons a rest ih =>
    simp only [List.cons_append, run, ih, Option.bind_assoc]

theorem run_singleton (s : σ) (a : α) : run step s [a] = step s a := by
  simp [run]

theorem Reachable.invariant {inv : σ → Prop} (h₀ : inv init)
    (hstep : ∀ s s' a, inv s → step s a = some s' → inv s') {s : σ}
    (hs : Reachable init step s) : inv s := by
  induction hs with
  | init => exact h₀
  | step a _ hstep' ih => exact hstep _ _ a ih hstep'

end TransitionSystem
