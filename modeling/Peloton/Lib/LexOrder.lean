import Mathlib

set_option autoImplicit false

namespace LexOrder

variable {α : Type} (less greater : α → α → Bool)

def lexLess : List α → List α → Bool
  | x :: xs, y :: ys => if less x y then true else if greater x y then false else lexLess xs ys
  | _, _ => false

variable {less greater}

theorem lexLess_incomparable_iff (flip : ∀ x y, greater x y = less y x) :
    ∀ xs ys : List α, xs.length = ys.length →
      (lexLess less greater xs ys = false ∧ lexLess less greater ys xs = false ↔
        List.Forall₂ (fun x y => less x y = false ∧ less y x = false) xs ys)
  | [], [], _ => by simp [lexLess]
  | x :: xs, y :: ys, len => by
    have rest := lexLess_incomparable_iff flip xs ys (by simpa using len)
    cases hxy : less x y <;> cases hyx : less y x <;> simp [lexLess, flip, hxy, hyx, rest]

theorem lexLess_congr {less' greater' : α → α → Bool} (P : α → Prop)
    (agree : ∀ x y, P x → P y → less x y = less' x y ∧ greater x y = greater' x y) :
    ∀ xs ys : List α, (∀ x ∈ xs, P x) → (∀ y ∈ ys, P y) →
      lexLess less greater xs ys = lexLess less' greater' xs ys
  | x :: xs, y :: ys, inXs, inYs => by
    have column := agree x y (inXs x (by simp)) (inYs y (by simp))
    have rest := lexLess_congr P agree xs ys (fun x mem => inXs x (by simp [mem]))
      (fun y mem => inYs y (by simp [mem]))
    simp [lexLess, column.1, column.2, rest]
  | [], _, _, _ => rfl
  | _ :: _, [], _, _ => rfl

theorem le_of_forall₂_le {β : Type} [LinearOrder β] {xs ys : List β}
    (pointwise : List.Forall₂ (· ≤ ·) xs ys) : xs ≤ ys := by
  induction pointwise with
  | nil => exact le_refl []
  | cons head _ rest =>
    rcases head.lt_or_eq with lt | same
    · exact le_of_lt (List.Lex.rel lt)
    · rw [same]
      rcases rest.lt_or_eq with shorter | equal
      · exact le_of_lt (List.Lex.cons shorter)
      · rw [equal]

end LexOrder
