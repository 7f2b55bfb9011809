import Flowline.Proofs.Execution.Cells

set_option autoImplicit false

namespace Flowline

open Chart (ComponentId Component)

namespace Execution

-- A component that is visited and raises a prompt.
structure Prompting (program : Program) (settings : Settings) (execution : Execution) (id : ComponentId)
    (next : Option ComponentId) (asked : Execution) (question : Question) (prompt : String) : Prop where
  running : execution.state = .running
  here : execution.position = some id
  visited : visit program settings id execution = (.ok next, asked)
  state : asked.state = .input prompt
  question : asked.question = some question

-- An answer that does what an assignment would have done where the prompt was raised.
def Binds (program : Program) (waiting asked : Execution) (question : Question) (closed : Nat) (text : String) :
    Prop :=
  ∀ answered, answer program text waiting = (.ok (), answered) →
    ∃ bound, assign program.registry question.target (answerValue text) asked.store = (.ok (), bound) ∧
      answered.store = bound.close closed

-- A value is stored in a place and scopes are closed, in either order.
def Swaps (registry : Registry) (target : Label.Expr) (value : Value) (closed : Nat) (store : Store) : Prop :=
  ∀ after, assign registry target value (store.close closed) = (.ok (), after) →
    ∃ bound, assign registry target value store = (.ok (), bound) ∧ after = bound.close closed

section Prompts

variable {program : Program} {settings : Settings} {execution asked : Execution} {id : ComponentId}
  {next : Option ComponentId} {question : Question} {prompt : String}

theorem prompting_step (prompting : Prompting program settings execution id next asked question prompt) :
    step program settings execution = (.ok (.input prompt), asked.unwind next asked.frames) := by
  have kept := (unwind_state asked next asked.frames).1
  have settled : asked.advance next = asked.unwind next asked.frames := by
    unfold advance settle
    rw [kept, prompting.state]
    exact if_neg fun idle => nomatch idle.1
  unfold step
  rw [prompting.running, prompting.here]
  dsimp only
  rw [prompting.visited]
  dsimp only
  rw [settled, kept, prompting.state]

theorem prompting_answer (prompting : Prompting program settings execution id next asked question prompt)
    (text : String) :
    answer program text (step program settings execution).2 =
      storeAnswer program question text (asked.unwind next asked.frames) := by
  have kept := unwind_state asked next asked.frames
  rw [prompting.state, prompting.question] at kept
  rw [prompting_step prompting]
  simp only [answer]
  rw [kept.1, kept.2]

theorem assign_variable (registry : Registry) (name : String) (value : Value) (store : Store) :
    assign registry (.var name) value store = (.ok (), { store with env := store.env.set name value }) := by
  rw [assign]
  rfl

theorem answer_after_closing (prompting : Prompting program settings execution id next asked question prompt)
    (text : String) (answered : Execution)
    (done : answer program text (step program settings execution).2 = (.ok (), answered)) :
    assign program.registry question.target (answerValue text) (asked.store.close (closings next asked.frames)) =
      (.ok (), answered.store) := by
  rw [prompting_answer prompting, storeAnswer, unwind_store] at done
  rcases result : assign program.registry question.target (answerValue text)
    (asked.store.close (closings next asked.frames)) with ⟨outcome, store⟩
  rw [result] at done
  cases outcome with
  | error fault => cases done
  | ok value =>
      cases done
      rfl

theorem binds_swaps (prompting : Prompting program settings execution id next asked question prompt) (text : String) :
    Binds program (step program settings execution).2 asked question (closings next asked.frames) text ↔
      Swaps program.registry question.target (answerValue text) (closings next asked.frames) asked.store := by
  constructor
  · intro binds after stored
    refine binds { asked.unwind next asked.frames with
      store := after, question := some { question with isAnswered := true } } ?_
    rw [prompting_answer prompting, storeAnswer, unwind_store, stored]
  · intro swaps answered done
    exact swaps answered.store (answer_after_closing prompting text answered done)

theorem binds_unclosed (prompting : Prompting program settings execution id next asked question prompt)
    (none_closed : closings next asked.frames = 0) (text : String) :
    Binds program (step program settings execution).2 asked question (closings next asked.frames) text := by
  rw [binds_swaps prompting, none_closed]
  exact fun after stored => ⟨after, stored, rfl⟩

theorem binds_variable (prompting : Prompting program settings execution id next asked question prompt)
    (name : String) (target : question.target = .var name) (text : String) :
    Binds program (step program settings execution).2 asked question (closings next asked.frames) text ↔
      (asked.store.env.set name (answerValue text)).close (closings next asked.frames) =
        (asked.store.env.close (closings next asked.frames)).set name (answerValue text) := by
  rw [binds_swaps prompting, target]
  simp only [Swaps]
  simp only [assign_variable]
  constructor
  · intro swaps
    obtain ⟨bound, assigned, same⟩ := swaps _ rfl
    cases assigned
    exact (congrArg Store.env same).symm
  · intro same after stored
    cases stored
    refine ⟨_, rfl, ?_⟩
    simp only [Store.close, same]

theorem binds_variable_iff (prompting : Prompting program settings execution id next asked question prompt)
    (name : String) (target : question.target = .var name)
    (inner : closings next asked.frames < asked.store.env.depth) (rooted : asked.store.env.Rooted) :
    (∀ text, Binds program (step program settings execution).2 asked question (closings next asked.frames) text) ↔
      closings next asked.frames = 0 ∨
        ∃ place, asked.store.env.place? name = some place ∧
          (asked.store.env.close (closings next asked.frames)).place? name = some place := by
  constructor
  · intro binds
    by_cases some_closed : 0 < closings next asked.frames
    · right
      have one := (binds_variable prompting name target "a").mp (binds "a")
      have other := (binds_variable prompting name target "b").mp (binds "b")
      have different : answerValue "a" ≠ answerValue "b" := by decide +kernel
      exact asked.store.env.place_of_set_close name _ _ different _ some_closed inner rooted one other
    · exact Or.inl (Nat.eq_zero_of_not_pos some_closed)
  · intro seen text
    rcases seen with none_closed | ⟨place, before, after⟩
    · exact binds_unclosed prompting none_closed text
    · rw [binds_variable prompting name target text]
      exact asked.store.env.set_close name _ _ place inner before after

end Prompts

-- An answer is stored in what is left once scopes have been closed on the way from the prompt. It is bound where
-- an assignment would have bound it exactly if storing and closing can be swapped: always if no scope is closed,
-- and for a variable if its name stands for the same place in the scopes that are left.
theorem answer_place (bytes : List UInt8) (program : Program) (settings : Settings) (requests : List Request)
    (loaded : Program.load bytes = .ok program) (id : ComponentId) (next : Option ComponentId) (asked : Execution)
    (question : Question) (prompt : String)
    (prompting : Prompting program settings (serveAll program settings requests (initial program settings)) id next
      asked question prompt) :
    let waiting := (step program settings (serveAll program settings requests (initial program settings))).2
    let closed := closings next asked.frames
    (∀ text answered, answer program text waiting = (.ok (), answered) →
        assign program.registry question.target (answerValue text) (asked.store.close closed) =
          (.ok (), answered.store)) ∧
      (∀ text, Binds program waiting asked question closed text ↔
        Swaps program.registry question.target (answerValue text) closed asked.store) ∧
      (closed = 0 → ∀ text, Binds program waiting asked question closed text) ∧
      ∀ name, question.target = .var name →
        ((∀ text, Binds program waiting asked question closed text) ↔
          closed = 0 ∨
            ∃ place, asked.store.env.place? name = some place ∧
              (asked.store.env.close closed).place? name = some place) := by
  intro waiting closed
  have whole := Program.load_whole bytes program loaded
  have sound : Sound program settings (serveAll program settings requests (initial program settings)) :=
    serve_all_sound whole requests (initial_sound whole)
  have inside := visit_inside whole sound id next asked prompting.here prompting.visited
  have rooted : asked.store.env.Rooted := by
    have kept : (visit program settings id
        (serveAll program settings requests (initial program settings))).2.store.env.Rooted := visit_rooted id _
      (serve_all_rooted requests (initial program settings) Environment.empty_env_rooted)
    rw [prompting.visited] at kept
    exact kept
  have inner : closed < asked.store.env.depth := by
    have fewer := closings_le next asked.frames
    rw [inside.scopes]
    omega
  exact ⟨answer_after_closing prompting, binds_swaps prompting, binds_unclosed prompting,
    fun name target => binds_variable_iff prompting name target inner rooted⟩

def Question.variable? (question : Question) : Option String :=
  match question.target with
  | .var name => some name
  | _ => none

theorem variable_target (question : Question) (name : String) (found : question.variable? = some name) :
    question.target = .var name := by
  unfold Question.variable? at found
  split at found
  · rename_i other same
    cases found
    exact same
  · cases found

def asker : Program := Sample.loaded Sample.asking Sample.asking_loads

def beforeInput : Execution := serveAll asker .standard [.step, .step, .step] (initial asker .standard)

def inquiry : Except Fault (Option ComponentId) × Execution := visit asker .standard 2 beforeInput

def replied : Except Failure Unit × Execution := answer asker "7" (step asker .standard beforeInput).2

theorem asker_runs :
    (beforeInput.state = .running ∧ beforeInput.position = some 2 ∧ inquiry.1 = .ok none) ∧
      (inquiry.2.state = .input "" ∧ inquiry.2.question.bind Question.variable? = some "r") ∧
      replied.1 = .ok () ∧
      replied.2.store.env.get? "x" = some .undefined ∧
      ((inquiry.2.store.env.set "r" (answerValue "7")).close (closings none inquiry.2.frames)).get? "x" ≠
        some .undefined := by
  decide +kernel

theorem asker_prompting : ∃ question, question.target = .var "r" ∧
    Prompting asker .standard beforeInput 2 none inquiry.2 question "" := by
  obtain ⟨⟨running, here, moves⟩, ⟨state, aimed⟩, _⟩ := asker_runs
  obtain ⟨question, asked, same⟩ := Option.bind_eq_some_iff.mp aimed
  exact ⟨question, variable_target question "r" same, running, here, Prod.fst_eq_iff.mp moves, state, asked⟩

theorem answer_place_asking :
    let waiting := (step asker .standard beforeInput).2
    let closed := closings none inquiry.2.frames
    ∃ question, Prompting asker .standard beforeInput 2 none inquiry.2 question "" ∧
      (∀ text answered, answer asker text waiting = (.ok (), answered) →
        assign asker.registry question.target (answerValue text) (inquiry.2.store.close closed) =
          (.ok (), answered.store)) ∧
      (∀ text, Binds asker waiting inquiry.2 question closed text ↔
        Swaps asker.registry question.target (answerValue text) closed inquiry.2.store) ∧
      (closed = 0 → ∀ text, Binds asker waiting inquiry.2 question closed text) ∧
      ∀ name, question.target = .var name →
        ((∀ text, Binds asker waiting inquiry.2 question closed text) ↔
          closed = 0 ∨
            ∃ place, inquiry.2.store.env.place? name = some place ∧
              (inquiry.2.store.env.close closed).place? name = some place) := by
  obtain ⟨question, _, prompting⟩ := asker_prompting
  exact ⟨question, prompting, answer_place Sample.asking asker .standard [.step, .step, .step] (Sample.load_loaded _ _)
    2 none inquiry.2 question _ prompting⟩

-- The answer goes to a variable of the caller that has the name of the parameter, and not to the one that
-- the parameter stands for.
theorem answer_misplaced : ¬ ∀ (bytes : List UInt8) (program : Program) (settings : Settings)
    (requests : List Request)
    (id : ComponentId) (next : Option ComponentId) (asked : Execution) (question : Question) (prompt : String),
    Program.load bytes = .ok program →
      Prompting program settings (serveAll program settings requests (initial program settings)) id next asked question
        prompt →
        ∀ text, Binds program (step program settings (serveAll program settings requests (initial program settings))).2
          asked question (closings next asked.frames) text := by
  intro always
  obtain ⟨question, target, prompting⟩ := asker_prompting
  have binds := always Sample.asking asker .standard [.step, .step, .step] 2 none inquiry.2 question ""
    (Sample.load_loaded _ _) prompting "7"
  obtain ⟨_, _, done, late, early⟩ := asker_runs
  obtain ⟨bound, assigned, same⟩ := binds replied.2 (Prod.fst_eq_iff.mp done)
  rw [target, assign_variable] at assigned
  cases assigned
  have seen := congrArg (fun store => store.env.get? "x") same
  exact early (seen.symm.trans late)

end Execution

end Flowline
