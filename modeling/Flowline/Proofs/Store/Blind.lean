import Flowline.Proofs.Store.Walk

set_option autoImplicit false

namespace Flowline

def Registry.DrawsBy (registry : Registry) (word : String) : Prop :=
  ∀ name, registry.function? name = some .random → name = word

def Blind {α : Type} (action : Action α) : Prop :=
  ∀ (store : Store) (draws : Generator),
    action { store with draws } = ((action store).1, { (action store).2 with draws })

theorem blind_bind {α β : Type} (first : Action α) (next : α → Action β) (before : Blind first)
    (after : ∀ value, Blind (next value)) : Blind (first >>= next) := by
  intro store draws
  rw [run_bind, run_bind, before store draws]
  rcases first store with ⟨outcome, reached⟩
  cases outcome with
  | ok value => exact after value reached draws
  | error fault => rfl

theorem blind_apply (function : Function) (args : List Value) (other : function ≠ .random) :
    Blind (Action.apply function args) := by
  intro store draws
  cases function with
  | random => exact absurd rfl other
  | _ => rfl

theorem blind_stored : Stored Blind where
  set := fun _ _ _ _ => rfl
  write := fun _ _ _ _ _ => rfl

theorem blind_sequential : Sequential Blind where
  observe := fun _ _ _ _ => rfl
  allocate := fun _ _ _ => rfl
  sequence := blind_bind

-- A function that is named otherwise than the word for random numbers does not draw.
theorem blind_walked {registry : Registry} {word : String} (only : registry.DrawsBy word) :
    Walked registry (Label.Expr.Avoids word) Blind where
  toSequential := blind_sequential
  parts := Label.avoids_parts word
  named := fun name function avoids found => blind_apply function [] fun same => avoids (only name (same ▸ found))
  called := fun name _ function values avoids found =>
    blind_apply function values fun same => avoids.1 (only name (same ▸ found))
  assigns := fun _ _ _ => blind_stored

end Flowline
