import Flowline.Number.Text
import Mathlib.Data.List.Basic

set_option autoImplicit false

namespace Flowline

namespace Binary64

def Figure (c : Char) : Prop := c.isDigit = true ∨ c ∈ ['.', 'e', '-']

theorem figure_digit (digit : Nat) (small : digit < 10) : Figure (Char.ofNat (48 + digit)) := by
  refine Or.inl ?_
  decide +revert

theorem digit_chars_figures (digits : List Nat) (small : ∀ digit ∈ digits, digit < 10) :
    ∀ c ∈ digitChars digits, Figure c := by
  intro c member
  obtain ⟨digit, inside, rfl⟩ := List.mem_map.mp member
  exact figure_digit digit (small digit inside)

theorem natural_figures (n : Nat) : ∀ c ∈ n.repr.toList, Figure c := by
  intro c member
  rw [Nat.toList_repr] at member
  exact Or.inl (Nat.isDigit_of_mem_toDigits (by decide) (by decide) member)

theorem integer_figures (n : Int) : ∀ c ∈ (toString n).toList, Figure c := by
  cases n with
  | ofNat n => exact natural_figures n
  | negSucc n =>
      change ∀ c ∈ ("-" ++ n.succ.repr).toList, Figure c
      rw [String.toList_append, List.forall_mem_append]
      exact ⟨by simp [Figure], natural_figures n.succ⟩

theorem shortest_digits (tie : Tie) (bits : UInt64) : ∀ digit ∈ (shortest tie bits).digits, digit < 10 := by
  intro digit member
  simp only [shortest, List.mem_reverse] at member
  have inside := List.mem_reverse.mp ((List.dropWhile_sublist _).subset member)
  obtain ⟨c, written, rfl⟩ := List.mem_map.mp inside
  have figure := Nat.isDigit_of_mem_toDigits (by decide) (by decide) written
  simp only [Char.isDigit, Bool.and_eq_true, decide_eq_true_eq] at figure
  have most : c.toNat ≤ 57 := figure.2
  omega

theorem zeros_figures (count : Nat) : ∀ c ∈ List.replicate count '0', Figure c := by
  intro c member
  rw [List.eq_of_mem_replicate member]
  exact Or.inl rfl

theorem decimal_figures (layout : Layout) (decimal : Decimal) (small : ∀ digit ∈ decimal.digits, digit < 10) :
    ∀ c ∈ decimal.write layout, Figure c := by
  have point : Figure '.' := Or.inr (by decide)
  have exponent : ∀ c ∈ 'e' :: (toString (decimal.point - 1)).toList, Figure c :=
    List.forall_mem_cons.mpr ⟨Or.inr (by decide), integer_figures _⟩
  simp only [Decimal.write]
  split
  · split
    · rw [List.forall_mem_cons, List.forall_mem_cons, List.forall_mem_append]
      exact ⟨Or.inl rfl, point, zeros_figures _, digit_chars_figures _ small⟩
    · have before : ∀ c ∈ digitChars (decimal.digits.take decimal.point.toNat) ++
          List.replicate (decimal.point.toNat - decimal.digits.length) '0', Figure c :=
        List.forall_mem_append.mpr ⟨digit_chars_figures _ fun digit member => small digit (List.mem_of_mem_take member),
          zeros_figures _⟩
      split
      · exact before
      · rw [List.forall_mem_append, List.forall_mem_cons]
        exact ⟨before, point, digit_chars_figures _ fun digit member => small digit (List.mem_of_mem_drop member)⟩
  · cases shape : decimal.digits with
    | nil => exact exponent
    | cons first after =>
        rw [shape, List.forall_mem_cons] at small
        have leading : ∀ c ∈ digitChars [first], Figure c :=
          digit_chars_figures [first] (List.forall_mem_singleton.mpr small.1)
        cases after with
        | nil => exact List.forall_mem_append.mpr ⟨leading, exponent⟩
        | cons second rest =>
            rw [List.forall_mem_append, List.forall_mem_append, List.forall_mem_cons]
            exact ⟨⟨leading, point, digit_chars_figures _ small.2⟩, exponent⟩

theorem write_figures (layout : Layout) (bits : UInt64) : ∀ c ∈ (write layout bits).toList, Figure c := by
  have figures := decimal_figures layout _ (shortest_digits layout.tie (magnitude bits))
  unfold write
  split
  · exact List.forall_mem_singleton.mpr (Or.inl rfl)
  · split
    · rw [String.toList_ofList, List.forall_mem_cons]
      exact ⟨Or.inr (by decide), figures⟩
    · rw [String.toList_ofList]
      exact figures

end Binary64

end Flowline
