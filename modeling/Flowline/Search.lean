set_option autoImplicit false

namespace Flowline

def unmet {α : Type} (candidates : List α) (met : α → Bool) : Nat := candidates.countP fun item => !met item

theorem unmet_le {α : Type} (candidates : List α) (before after : α → Bool)
    (grows : ∀ item, before item = true → after item = true) : unmet candidates after ≤ unmet candidates before := by
  refine List.countP_mono_left fun item _ left => ?_
  cases known : before item
  · rfl
  · rw [grows item known] at left
    cases left

theorem unmet_lt {α : Type} (candidates : List α) (before after : α → Bool) (fresh : α)
    (grows : ∀ item, before item = true → after item = true) (member : fresh ∈ candidates)
    (absent : before fresh = false) (present : after fresh = true) :
    unmet candidates after < unmet candidates before := by
  induction candidates with
  | nil => cases member
  | cons head tail ih =>
      have below := unmet_le tail before after grows
      simp only [unmet] at below ih ⊢
      rw [List.countP_cons, List.countP_cons]
      rcases List.mem_cons.mp member with same | inside
      · subst same
        simp only [absent, present, Bool.not_true, Bool.not_false, Bool.false_eq_true, if_true, if_false]
        omega
      · have smaller := ih inside
        cases known : before head
        · cases after head <;> simp <;> omega
        · simp only [grows head known, Bool.not_true, Bool.false_eq_true, if_false]
          omega

end Flowline
