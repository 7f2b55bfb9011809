set_option autoImplicit false

namespace Flowline

section Sequence

variable {ε σ α β : Type}

theorem run_pure (value : α) (state : σ) : (pure value : ExceptT ε (StateM σ) α) state = (.ok value, state) := rfl

theorem run_bind (first : ExceptT ε (StateM σ) α) (next : α → ExceptT ε (StateM σ) β) (state : σ) :
    (first >>= next) state =
      match first state with
      | (.ok value, reached) => next value reached
      | (.error fault, reached) => (.error fault, reached) := by
  change (ExceptT.bindCont next (first state).1) (first state).2 = _
  rcases first state with ⟨outcome, reached⟩
  cases outcome with
  | ok value => rfl
  | error fault => rfl

theorem bind_done (first : ExceptT ε (StateM σ) α) (next : α → ExceptT ε (StateM σ) β) (state after : σ) (value : β)
    (done : (first >>= next) state = (.ok value, after)) :
    ∃ found reached, first state = (.ok found, reached) ∧ next found reached = (.ok value, after) := by
  rw [run_bind] at done
  rcases outcome : first state with ⟨(fault | found), reached⟩
  · rw [outcome] at done
    cases done
  · rw [outcome] at done
    exact ⟨found, reached, rfl, done⟩

theorem bind_failed (first : ExceptT ε (StateM σ) α) (next : α → ExceptT ε (StateM σ) β) (state after : σ) (fault : ε)
    (failed : (first >>= next) state = (.error fault, after)) :
    first state = (.error fault, after) ∨
      ∃ found reached, first state = (.ok found, reached) ∧ next found reached = (.error fault, after) := by
  rw [run_bind] at failed
  rcases outcome : first state with ⟨(early | found), reached⟩
  · rw [outcome] at failed
    cases failed
    exact Or.inl rfl
  · rw [outcome] at failed
    exact Or.inr ⟨found, reached, rfl, failed⟩

theorem both_ok (first : Except ε α) (next : α → Except ε β) (value : β) :
    first >>= next = .ok value ↔ ∃ found, first = .ok found ∧ next found = .ok value := by
  cases first with
  | error fault => exact ⟨nofun, nofun⟩
  | ok found =>
      constructor
      · intro done
        exact ⟨found, rfl, done⟩
      · rintro ⟨_, ⟨⟩, done⟩
        exact done

end Sequence

def Gives {α σ ε : Type} (computation : ExceptT ε (StateM σ) α) (good : α → Prop) : Prop :=
  ∀ state value after, computation state = (.ok value, after) → good value

section Gives

variable {ε σ α β : Type} {good : β → Prop}

theorem gives_bind_of {middle : α → Prop} (first : ExceptT ε (StateM σ) α) (next : α → ExceptT ε (StateM σ) β)
    (start : Gives first middle) (each : ∀ value, middle value → Gives (next value) good) :
    Gives (first >>= next) good := by
  intro state value after done
  obtain ⟨found, reached, outcome, rest⟩ := bind_done first next state after value done
  exact each found (start state found reached outcome) reached value after rest

theorem gives_bind (first : ExceptT ε (StateM σ) α) (next : α → ExceptT ε (StateM σ) β)
    (each : ∀ value, Gives (next value) good) : Gives (first >>= next) good :=
  gives_bind_of first next (fun _ _ _ _ => (trivial : True)) fun value _ => each value

theorem gives_pure (value : β) (each : good value) : Gives (pure value : ExceptT ε (StateM σ) β) good := by
  intro state other after done
  cases done
  exact each

end Gives

def Respects {α σ ε : Type} (relation : σ → σ → Prop) (computation : ExceptT ε (StateM σ) α) : Prop :=
  ∀ state, relation state (computation state).2

theorem respects_bind {α β σ ε : Type} (relation : σ → σ → Prop)
    (trans : ∀ a b c, relation a b → relation b c → relation a c)
    (first : ExceptT ε (StateM σ) α) (next : α → ExceptT ε (StateM σ) β)
    (before : Respects relation first) (after : ∀ value, Respects relation (next value)) :
    Respects relation (first >>= next) := by
  intro state
  have step := before state
  rw [run_bind]
  rcases result : first state with ⟨outcome, reached⟩
  rw [result] at step
  cases outcome with
  | ok value => exact trans _ _ _ step (after value reached)
  | error fault => exact step

end Flowline
