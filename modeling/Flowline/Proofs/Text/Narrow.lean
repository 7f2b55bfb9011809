import Flowline.Text.Case

set_option autoImplicit false

namespace Flowline.Text

def Narrow (text : List Char) : Prop := ∀ c ∈ text, c.toNat < 256

theorem narrow_nil : Narrow [] := fun _ member => nomatch member

theorem narrow_sublist (part text : List Char) (within : part.Sublist text) (narrow : Narrow text) : Narrow part :=
  fun c member => narrow c (within.subset member)

theorem lower_point_settled :
    ∀ point < 256, lowerPoint caseRuns point < 256 ∧
      lowerPoint caseRuns (lowerPoint caseRuns point) = lowerPoint caseRuns point := by
  decide +kernel

theorem to_nat_of_narrow (point : Nat) (small : point < 256) : (Char.ofNat point).toNat = point := by
  have valid : point.isValidChar := Or.inl (by omega)
  rw [Char.ofNat, dif_pos valid]
  rfl

theorem lower_char_narrow (c : Char) (small : c.toNat < 256) :
    lowerChar c = [Char.ofNat (lowerPoint caseRuns c.toNat)] := by
  have plain : c ≠ 'İ' := by
    intro same
    subst same
    exact absurd small (by decide)
  rw [lowerChar, if_neg plain]

theorem lower_each_cons (c : Char) (rest : List Char) : lowerEach (c :: rest) = lowerChar c ++ lowerEach rest :=
  List.flatMap_cons

theorem lower_each_narrow (text : List Char) (narrow : Narrow text) :
    Narrow (lowerEach text) ∧ lowerEach (lowerEach text) = lowerEach text := by
  induction text with
  | nil => exact ⟨narrow_nil, rfl⟩
  | cons c rest ih =>
      have small := narrow c List.mem_cons_self
      obtain ⟨others, settled⟩ := ih fun other member => narrow other (List.mem_cons_of_mem c member)
      obtain ⟨bound, still⟩ := lower_point_settled c.toNat small
      have point := to_nat_of_narrow _ bound
      have again := lower_char_narrow (Char.ofNat (lowerPoint caseRuns c.toNat)) (by rw [point]; exact bound)
      rw [point, still] at again
      rw [lower_each_cons, lower_char_narrow c small, List.singleton_append]
      constructor
      · intro other member
        rcases List.mem_cons.mp member with same | later
        · rw [same, point]
          exact bound
        · exact others other later
      · rw [lower_each_cons, again, settled]
        rfl

theorem lower_words_plain (passed text : List Char) (plain : 'Σ' ∉ text) : lowerWords passed text = lowerEach text := by
  induction text generalizing passed with
  | nil => rfl
  | cons c rest ih =>
      have other : c ≠ 'Σ' := fun same => plain (same ▸ List.mem_cons_self)
      rw [lowerWords, if_neg other, ih _ fun member => plain (List.mem_cons_of_mem c member), lower_each_cons]

theorem fold_name_narrow (name : String) (narrow : Narrow name.toList) :
    foldName name = String.ofList (lowerEach name.toList) := by
  have plain : 'Σ' ∉ name.toList := fun member => absurd (narrow 'Σ' member) (by decide)
  rw [foldName, lower_words_plain [] name.toList plain]

theorem fold_name_eq_iff (name : String) (word : List Char) (first : Narrow name.toList) (second : Narrow word) :
    foldName name = foldName (String.ofList (lowerEach word)) ↔ lowerEach name.toList = lowerEach word := by
  obtain ⟨lowered, settled⟩ := lower_each_narrow word second
  have folded := fold_name_narrow (String.ofList (lowerEach word)) (by rwa [String.toList_ofList])
  rw [String.toList_ofList, settled] at folded
  rw [fold_name_narrow name first, folded]
  exact String.ofList_inj

end Flowline.Text
