import Flowline.Console
import Flowline.Proofs.Execution.Prompted

set_option autoImplicit false

namespace Flowline.Execution

def Request.call (program : Program) (settings : Settings) (execution : Execution) :
    Request → Except Failure (Option State) × Execution
  | .step =>
      let (result, reached) := Execution.step program settings execution
      (result.map some, reached)
  | .answer text =>
      let (result, reached) := Execution.answer program text execution
      (result.map fun _ => none, reached)
  | .resume =>
      let (result, reached) := execution.resume
      (result.map fun _ => none, reached)
  | .reset => (.ok none, initial program settings)

def Request.isAnswer : Request → Bool
  | .answer _ => true
  | _ => false

structure Dialogue where
  execution : Execution
  accepted : Bool

structure Call where
  request : Request
  isIdle : Bool
  result : Except Failure (Option State)

-- A call that cannot apply: a step of a program that waits or is done, an answer that is not asked for, and going on
-- without an answer that has been accepted or with nothing to wait for.
def Request.isIdle (dialogue : Dialogue) : Request → Bool
  | .step => dialogue.execution.state ≠ .running
  | .answer _ => !dialogue.execution.awaits
  | .resume =>
      match dialogue.execution.state with
      | .running | .done => true
      | .input _ => !dialogue.accepted
      | .output _ => false
  | .reset => false

def Request.idleResult (execution : Execution) : Request → Except Failure (Option State)
  | .step => .ok (some execution.state)
  | .answer _ => .error ⟨.notAwaitingInput, none⟩
  | .resume => if execution.awaits then .error ⟨.inputNotProvided, none⟩ else .ok none
  | .reset => .ok none

namespace Dialogue

variable (program : Program) (settings : Settings)

def start : Dialogue := ⟨initial program settings, false⟩

def next (dialogue : Dialogue) (request : Request) : Dialogue :=
  let (result, reached) := request.call program settings dialogue.execution
  { execution := reached
    accepted :=
      if !dialogue.execution.awaits && reached.awaits then false
      else dialogue.accepted || (request.isAnswer && result.toBool) }

def run (dialogue : Dialogue) (requests : List Request) : Dialogue := requests.foldl (next program settings) dialogue

def calls (dialogue : Dialogue) : List Request → List Call
  | [] => []
  | request :: rest =>
      ⟨request, request.isIdle dialogue, (request.call program settings dialogue.execution).1⟩ ::
        calls (next program settings dialogue request) rest

def needed (dialogue : Dialogue) : List Request → List Request
  | [] => []
  | request :: rest =>
      let others := needed (next program settings dialogue request) rest
      if request.isIdle dialogue then others else request :: others

end Dialogue

section Steps

variable (program : Program) (settings : Settings) {dialogue : Dialogue}

theorem answer_refused (execution : Execution) (text : String) (idle : execution.awaits = false) :
    answer program text execution = (.error ⟨.notAwaitingInput, none⟩, execution) := by
  unfold answer
  split
  · rename_i prompt question state asked
    have waiting := execution.awaits_iff.mpr ⟨prompt, state⟩
    rw [idle] at waiting
    cases waiting
  · rfl

theorem resume_refused (execution : Execution) (prompt : String) (waiting : execution.state = .input prompt)
    (prompted : Prompted execution false) : resume execution = (.error ⟨.inputNotProvided, none⟩, execution) := by
  have unanswered : execution.question.any Question.isAnswered = false := by
    cases asked : execution.question with
    | none => rfl
    | some question => exact prompted.answered question asked
  unfold resume
  rw [waiting]
  simp only [unanswered]
  rfl

theorem idle_call (prompted : Prompted dialogue.execution dialogue.accepted) (request : Request)
    (idle : request.isIdle dialogue = true) :
    request.call program settings dialogue.execution = (request.idleResult dialogue.execution, dialogue.execution) := by
  cases request with
  | step =>
      have waiting : dialogue.execution.state ≠ .running := by simpa [Request.isIdle] using idle
      simp only [Request.call, step_waiting program settings _ waiting]
      rfl
  | answer text =>
      have unasked : dialogue.execution.awaits = false := by simpa [Request.isIdle] using idle
      simp only [Request.call, answer_refused program dialogue.execution text unasked]
      rfl
  | resume =>
      cases state : dialogue.execution.state with
      | input prompt =>
          have unaccepted : dialogue.accepted = false := by simpa [Request.isIdle, state] using idle
          rw [unaccepted] at prompted
          have waiting := dialogue.execution.awaits_iff.mpr ⟨prompt, state⟩
          simp only [Request.call, resume_refused dialogue.execution prompt state prompted, Request.idleResult, waiting]
          rfl
      | running | done => simp [Request.call, resume, Request.idleResult, awaits, state, Except.map]
      | output text => simp [Request.isIdle, state] at idle
  | reset => cases idle

theorem idle_next (prompted : Prompted dialogue.execution dialogue.accepted) (request : Request)
    (idle : request.isIdle dialogue = true) : dialogue.next program settings request = dialogue := by
  have told := idle_call program settings prompted request idle
  have refused : (request.isAnswer && (request.idleResult dialogue.execution).toBool) = false := by
    cases request <;> rfl
  simp only [Dialogue.next, told, refused, Bool.not_and_self, Bool.or_false]
  rfl

theorem answer_prompted (prompted : Prompted dialogue.execution dialogue.accepted) (text : String) :
    let next := dialogue.next program settings (.answer text)
    Prompted next.execution next.accepted := by
  cases asking : dialogue.execution.awaits with
  | false =>
      have idle : Request.isIdle dialogue (.answer text) = true := by simp [Request.isIdle, asking]
      rw [idle_next program settings prompted _ idle]
      exact prompted
  | true =>
      obtain ⟨prompt, state⟩ := dialogue.execution.awaits_iff.mp asking
      obtain ⟨question, asked, _⟩ := prompted_question prompted asking
      simp only [Dialogue.next, Request.call, Request.isAnswer, answer_awaited program text prompt question state asked,
        asking]
      rcases done : storeAnswer program question text dialogue.execution with ⟨outcome, reached⟩
      obtain ⟨rfl, same, known⟩ | ⟨⟨failure, rfl⟩, same, known⟩ :=
        store_answer_prompted program question text outcome reached done
      · refine ⟨?_, fun other found => ?_⟩
        · rw [known, reached.awaits_iff.mpr ⟨prompt, same.trans state⟩]
          rfl
        · rw [known] at found
          cases found
          simp [Except.map, Except.toBool]
      · exact prompted_plain known (awaits_not _ fun shown other => by simp [same] at other)

theorem resume_prompted (prompted : Prompted dialogue.execution dialogue.accepted) :
    let next := dialogue.next program settings .resume
    Prompted next.execution next.accepted := by
  have going (idle : Request.isIdle dialogue .resume = true) :
      let next := dialogue.next program settings .resume
      Prompted next.execution next.accepted := by
    rw [idle_next program settings prompted _ idle]
    exact prompted
  cases state : dialogue.execution.state with
  | running | done => exact going (by simp [Request.isIdle, state])
  | output text =>
      have unasked : dialogue.execution.question = none :=
        prompted_unasked prompted (awaits_not _ fun prompt same => by simp [state] at same)
      simp only [Dialogue.next, Request.call, resume, state]
      exact prompted_plain unasked rfl
  | input prompt =>
      cases accepted : dialogue.accepted with
      | false => exact going (by simp [Request.isIdle, state, accepted])
      | true =>
          have waiting := dialogue.execution.awaits_iff.mpr ⟨prompt, state⟩
          obtain ⟨question, asked, answered⟩ := prompted_question prompted waiting
          simp only [Dialogue.next, Request.call, resume, state, asked, Option.any_some, answered, accepted, if_true]
          exact prompted_plain rfl rfl

theorem next_prompted (prompted : Prompted dialogue.execution dialogue.accepted) (request : Request) :
    let next := dialogue.next program settings request
    Prompted next.execution next.accepted := by
  cases request with
  | step =>
      by_cases running : dialogue.execution.state = .running
      · have unasked := prompted_running prompted running
        have raised := step_prompted program settings running unasked
        have silent : dialogue.execution.awaits = false := awaits_not _ fun prompt same => by simp [running] at same
        intro next
        have reached : next.execution = (step program settings dialogue.execution).2 := rfl
        cases asks : next.execution.awaits with
        | false => exact prompted_plain (prompted_unasked (reached ▸ raised) asks) asks
        | true =>
            have fresh : next.accepted = false := by
              have asked : (step program settings dialogue.execution).2.awaits = true := asks
              simp only [next, Dialogue.next, Request.call, silent, asked]
              rfl
            rw [fresh, reached]
            exact raised
      · have idle : Request.isIdle dialogue .step = true := by simp [Request.isIdle, running]
        rw [idle_next program settings prompted _ idle]
        exact prompted
  | answer text => exact answer_prompted program settings prompted text
  | resume => exact resume_prompted program settings prompted
  | reset => exact prompted_initial program settings

theorem run_prompted (prompted : Prompted dialogue.execution dialogue.accepted) (requests : List Request) :
    Prompted (dialogue.run program settings requests).execution (dialogue.run program settings requests).accepted := by
  induction requests generalizing dialogue with
  | nil => exact prompted
  | cons request rest ih => exact ih (next_prompted program settings prompted request)

theorem needed_same (prompted : Prompted dialogue.execution dialogue.accepted) (requests : List Request) :
    dialogue.calls program settings (dialogue.needed program settings requests) =
        (dialogue.calls program settings requests).filter (!·.isIdle) ∧
      dialogue.run program settings (dialogue.needed program settings requests) =
        dialogue.run program settings requests := by
  induction requests generalizing dialogue with
  | nil => exact ⟨rfl, rfl⟩
  | cons request rest ih =>
      have after := ih (next_prompted program settings prompted request)
      by_cases idle : request.isIdle dialogue = true
      · have still := idle_next program settings prompted request idle
        rw [still] at after
        simp only [Dialogue.needed, Dialogue.calls, Dialogue.run, List.foldl_cons, still, idle, if_true]
        exact after
      · simp only [Dialogue.needed, if_neg idle, Dialogue.calls, Dialogue.run, List.foldl_cons]
        refine ⟨?_, after.2⟩
        rw [List.filter_cons_of_pos (by simpa using idle), after.1]

theorem step_tells (execution reached : Execution) (state : State)
    (told : Request.step.call program settings execution = (.ok (some state), reached)) : reached.state = state := by
  unfold Request.call at told
  dsimp only at told
  rcases step_outcome program settings execution with ⟨after, done⟩ | ⟨id, cause, after, _, done⟩
  · rw [done] at told
    cases told
    rfl
  · rw [done] at told
    cases told

end Steps

section Terminal

open Console

variable (program : Program) (settings : Settings)

-- Where a program can be between two turns on a terminal, whatever lines are read.
inductive Played : Execution → Prop where
  | start : Played (initial program settings)
  | go {execution next : Execution} (played : Played execution) (turned : turn program settings execution = .go next) :
      Played next
  | write {execution next : Execution} {text : String} (played : Played execution)
      (turned : turn program settings execution = .write text next) : Played next
  | answered {execution next later : Execution} {prompt : String} (played : Played execution)
      (turned : turn program settings execution = .ask prompt next) (line : List UInt8)
      (replied : reply program line next = .ok later) : Played later

def Ready (execution : Execution) : Prop := execution.state = .running ∧ execution.question = none

inductive Turned (execution : Execution) : Console.Turn → Prop where
  | go (next : Execution) (ready : Ready next) : Turned execution (.go next)
  | write (text : String) (next : Execution) (ready : Ready next) : Turned execution (.write text next)
  | ask (prompt : String) (next : Execution) (question : Question) (state : ∃ shown, next.state = .input shown)
      (asked : next.question = some question) : Turned execution (.ask prompt next)
  | finished : Turned execution (.finish .finished)
  | failed (failure : Failure) (inner : failure.cause.Inner) : Turned execution (.finish (.failed failure))

theorem turned_ready (execution : Execution) (ready : Ready execution) :
    Turned execution (turn program settings execution) := by
  have prompted := step_prompted program settings ready.1 ready.2
  have tells : ∀ state reached, step program settings execution = (.ok state, reached) → reached.state = state := by
    intro state reached told
    refine step_tells program settings execution reached state ?_
    simp only [Request.call, told]
    rfl
  unfold turn
  rcases stepped : step program settings execution with ⟨(failure | state), reached⟩
  · exact .failed failure (step_inner program settings execution reached failure stepped)
  · rw [stepped] at prompted
    have state_reached := tells state reached stepped
    cases state with
    | running => exact .go reached ⟨state_reached, prompted_running prompted state_reached⟩
    | done => exact .finished
    | output text =>
        have unasked : reached.question = none :=
          prompted_unasked prompted (awaits_not _ fun prompt same => by simp [state_reached] at same)
        simp only [goOn, resume, state_reached]
        exact .write _ _ ⟨rfl, unasked⟩
    | input prompt =>
        obtain ⟨question, asked, _⟩ := prompted_question prompted (reached.awaits_iff.mpr ⟨prompt, state_reached⟩)
        exact .ask _ reached question ⟨prompt, state_reached⟩ asked

theorem replied_ready (line : List UInt8) (execution : Execution) (question : Question)
    (waiting : ∃ shown, execution.state = .input shown) (asked : execution.question = some question) :
    match reply program line execution with
    | .ok later => Ready later
    | .error ending => ∀ failure, ending = .failed failure → failure.cause.Inner := by
  obtain ⟨shown, state⟩ := waiting
  unfold reply
  cases read : answerOf line with
  | error ending =>
      intro failure same
      rw [same] at read
      unfold answerOf at read
      split at read
      · cases read
      · split at read <;> cases read
  | ok text =>
      simp only [bind, Except.bind, answer_awaited program text shown question state asked]
      rcases done : storeAnswer program question text execution with ⟨outcome, reached⟩
      obtain ⟨rfl, same, known⟩ | ⟨⟨failure, rfl⟩, _, _⟩ :=
        store_answer_prompted program question text outcome reached done
      · simp only [goOn, resume, same, state, known, Option.any_some, if_true]
        exact ⟨rfl, rfl⟩
      · rintro _ ⟨⟩
        exact store_answer_inner program question text execution reached failure done

theorem played_ready (execution : Execution) (played : Played program settings execution) : Ready execution := by
  induction played with
  | start => exact ⟨rfl, rfl⟩
  | go played turned ready =>
      have can := turned_ready program settings _ ready
      rw [turned] at can
      cases can with
      | go next ready => exact ready
  | write played turned ready =>
      have can := turned_ready program settings _ ready
      rw [turned] at can
      cases can with
      | write text next ready => exact ready
  | answered played turned line replied ready =>
      have can := turned_ready program settings _ ready
      rw [turned] at can
      cases can with
      | ask prompt next question waiting asked =>
          have after := replied_ready program line _ question waiting asked
          rw [replied] at after
          exact after

end Terminal

/-- Calls that cannot apply change nothing and say so, and leaving them all out changes neither what the others are
told nor where the program is in the end. A question is there exactly while an answer is awaited. No terminal, whatever
is typed, makes a call that is refused. -/
theorem idle_calls_needless (program : Program) (settings : Settings) (requests : List Request) :
    let start := Dialogue.start program settings
    let dialogue := start.run program settings requests
    (∀ request : Request, request.isIdle dialogue = true →
        request.call program settings dialogue.execution =
          (request.idleResult dialogue.execution, dialogue.execution)) ∧
      (∀ state reached, Request.step.call program settings dialogue.execution = (.ok (some state), reached) →
        reached.state = state) ∧
      (start.calls program settings (start.needed program settings requests) =
          (start.calls program settings requests).filter (!·.isIdle) ∧
        start.run program settings (start.needed program settings requests) = dialogue) ∧
      ((dialogue.execution.question.isSome = true ↔ ∃ prompt, dialogue.execution.state = .input prompt) ∧
        ∀ question, dialogue.execution.question = some question → question.isAnswered = dialogue.accepted) ∧
      ∀ execution, Played program settings execution →
        (∀ failure, Console.turn program settings execution = .finish (.failed failure) → failure.cause.Inner) ∧
          ∀ prompt next, Console.turn program settings execution = .ask prompt next →
            ∀ line failure, Console.reply program line next = .error (.failed failure) → failure.cause.Inner := by
  intro start dialogue
  have initially : Prompted start.execution start.accepted := prompted_initial program settings
  have prompted := run_prompted program settings initially requests
  refine ⟨idle_call program settings prompted, fun state reached => step_tells program settings _ reached state,
    needed_same program settings initially requests, ⟨?_, prompted.answered⟩, ?_⟩
  · rw [prompted.pending]
    exact dialogue.execution.awaits_iff
  · intro execution played
    have can := turned_ready program settings execution (played_ready program settings execution played)
    constructor
    · intro failure turned
      rw [turned] at can
      cases can with
      | failed failure inner => exact inner
    · intro prompt next turned line failure replied
      rw [turned] at can
      cases can with
      | ask prompt next question waiting asked =>
          have after := replied_ready program line next question waiting asked
          rw [replied] at after
          exact after failure rfl

end Flowline.Execution
