import Flowline.Proofs.Execution.Calling

set_option autoImplicit false

namespace Flowline.Execution

open Chart (ComponentId)

section Runs

variable {program : Program} {settings : Settings} {holds : Environment → Prop} {fits : Environment → Binding → Prop}

theorem serve_all_keeps (lasting : Lasting holds fits) (lower : Nat) (positive : 0 < lower)
    (closes : ∀ (env : Environment) count, holds env → lower < (env.close count).depth → holds (env.close count))
    (later : List Request) (execution : Execution) (held : holds execution.store.env)
    (deep : ∀ count ≤ later.length,
      lower < (serveAll program settings (later.take count) execution).store.env.depth) :
    holds (serveAll program settings later execution).store.env := by
  induction later generalizing execution with
  | nil => exact held
  | cons request rest ih =>
      refine ih (request.serve program settings execution).2 ?_ fun count below => ?_
      · have first : lower < (request.serve program settings execution).2.store.env.depth :=
          deep 1 (Nat.succ_le_succ (Nat.zero_le _))
        rcases serve_keeps program settings lasting request execution held with
          anew | ⟨env, count, kept, reached⟩
        · rw [anew] at first
          exact absurd first (Nat.not_lt_of_le positive)
        · rw [reached] at first ⊢
          exact closes env count kept first
      · exact deep (count + 1) (Nat.succ_le_succ below)

end Runs

namespace ProcedureCall

variable {program : Program} {settings : Settings} {before : Execution}

-- What the callers of a procedure keep while its call lasts.
structure Isolates (call : ProcedureCall program settings before) (reached : Execution) : Prop where
  deeper : before.store.env.depth < reached.store.env.depth
  names : ∀ height < before.store.env.depth, ∀ name,
    reached.store.env.Defines height name ↔ call.entered.store.env.Defines height name
  values : ∀ param ∈ call.header.params, ∀ height < before.store.env.depth, ∀ value,
    call.entered.store.env.valueAt height param.name = some value →
    call.entered.store.env.Unaliased height param.name → reached.store.env.valueAt height param.name = some value

-- What they find when it has returned.
structure Returns (call : ProcedureCall program settings before) (returned : Execution) : Prop where
  shallow : returned.store.env.depth ≤ before.store.env.depth
  names : ∀ height < returned.store.env.depth, ∀ name,
    returned.store.env.Defines height name ↔
      before.store.env.Defines height name ∨ height + 1 = before.store.env.depth ∧ name ∈ call.created
  values : ∀ param ∈ call.header.params, ∀ height < returned.store.env.depth, ∀ value,
    call.entered.store.env.valueAt height param.name = some value →
    call.entered.store.env.Unaliased height param.name → returned.store.env.valueAt height param.name = some value

theorem entered_sound (call : ProcedureCall program settings before) (whole : program.Whole)
    (sound : Sound program settings before) : Sound program settings call.entered := by
  have served := (serve_served whole sound .step).sound
  rw [Request.serve, noted_reached] at served
  exact served

-- As long as the call is open, there are scopes further inside.
theorem deeper (call : ProcedureCall program settings before) (sound : Sound program settings before)
    (reached : Execution) (within : Sound program settings reached) (inside : call.frames <:+ reached.frames) :
    before.store.env.depth < reached.store.env.depth := by
  have more := scopes_suffix call.frames reached.frames inside
  have one : scopesIn call.frames = scopesIn before.frames + 1 := scopes_in_cons _ before.frames
  rw [sound.inside.scopes, within.inside.scopes]
  omega

section Lasts

variable (call : ProcedureCall program settings before) (whole : program.Whole) (sound : Sound program settings before)
  (rooted : before.store.env.Rooted) (later : List Request)
  (inside : ∀ count ≤ later.length, call.frames <:+ (serveAll program settings (later.take count) call.entered).frames)

include whole sound inside

theorem lasts {holds : Environment → Prop} {fits : Environment → Binding → Prop} (lasting : Lasting holds fits)
    (closes : ∀ (env : Environment) count, holds env → before.store.env.depth < (env.close count).depth →
      holds (env.close count))
    (held : holds call.entered.store.env) : holds (serveAll program settings later call.entered).store.env := by
  refine serve_all_keeps lasting before.store.env.depth (Nat.succ_pos _) closes later call.entered held ?_
  intro count below
  have within := serve_all_sound whole (later.take count) (call.entered_sound whole sound)
  exact call.deeper sound _ within (inside count below)

theorem returned_shallow
    (closed : ¬ call.frames <:+ (step program settings (serveAll program settings later call.entered)).2.frames) :
    (step program settings (serveAll program settings later call.entered)).2.store.env.depth ≤
      before.store.env.depth := by
  have within := serve_all_sound whole later (call.entered_sound whole sound)
  have after := (serve_served whole within .step).sound
  rw [Request.serve, noted_reached] at after
  have last : call.frames <:+ (serveAll program settings later call.entered).frames := by
    have all := inside later.length (Nat.le_refl _)
    rw [List.take_length] at all
    exact all
  rcases step_suffix rfl _ within.position last with still | outer
  · exact absurd still closed
  · have fewer := scopes_suffix _ _ outer
    rw [after.inside.scopes, sound.inside.scopes]
    omega

include rooted

theorem names_last : Fixed before.store.env.depth call.entered.store.env.Defines
    (serveAll program settings later call.entered).store.env := by
  have deep : before.store.env.depth < call.entered.store.env.depth := by
    rw [call.entered_depth rooted]
    exact Nat.lt_succ_self _
  exact call.lasts whole sound later inside fixed_lasting (fun env count => fixed_close env count)
    ⟨deep, fun _ _ _ => Iff.rfl⟩

theorem value_lasts (param : Label.Param) (member : param ∈ call.header.params) (height : Nat)
    (low : height < before.store.env.depth) (value : Value)
    (valued : call.entered.store.env.valueAt height param.name = some value)
    (alone : call.entered.store.env.Unaliased height param.name) :
    ∃ binding, Guarded before.store.env.depth height param.name binding value
      (serveAll program settings later call.entered).store.env := by
  obtain ⟨binding, held, same⟩ := Option.map_eq_some_iff.mp valued
  refine ⟨binding, ?_⟩
  exact call.lasts whole sound later inside (guarded_lasting low) (fun env count => guarded_close low count)
    ⟨call.entered_rooted rooted, call.parameters_known rooted param member, held, same, alone⟩

theorem isolates : call.Isolates (serveAll program settings later call.entered) := by
  have fixed := call.names_last whole sound rooted later inside
  refine ⟨fixed.deeper, fixed.names, fun param member height low value valued alone => ?_⟩
  obtain ⟨binding, guarded⟩ :=
    call.value_lasts whole sound rooted later inside param member height low value valued alone
  exact guarded.valued

theorem returns
    (closed : ¬ call.frames <:+ (step program settings (serveAll program settings later call.entered)).2.frames) :
    call.Returns (step program settings (serveAll program settings later call.entered)).2 := by
  have shallow := call.returned_shallow whole sound later inside closed
  refine ⟨shallow, fun height low name => ?_, fun param member height low value valued alone => ?_⟩
  · obtain ⟨env, count, kept, reached⟩ := step_keeps program settings fixed_lasting _
      (call.names_last whole sound rooted later inside)
    rw [reached] at low shallow ⊢
    have under := Nat.lt_of_lt_of_le low shallow
    rw [env.defines_close count height low, kept.names height under]
    exact call.entered_defines rooted height under name
  · have under := Nat.lt_of_lt_of_le low shallow
    obtain ⟨binding, guarded⟩ :=
      call.value_lasts whole sound rooted later inside param member height under value valued alone
    obtain ⟨env, count, kept, reached⟩ := step_keeps program settings (guarded_lasting under) _ guarded
    rw [reached] at low ⊢
    rw [env.value_close count height low]
    exact kept.valued

end Lasts

end ProcedureCall

/-- From the step that enters a procedure until its call returns, the scopes of the callers know what they knew, and
variables of theirs with the name of a parameter keep their values unless they have aliases. When it has returned, the
variables that were missing for references are all that is new. -/
theorem procedure_isolates (bytes : List UInt8) (program : Program) (settings : Settings)
    (requests later : List Request) (before entered : Execution) (next : Option ComponentId) (caller : Nat)
    (loaded : Program.load bytes = .ok program)
    (called : before = serveAll program settings requests (initial program settings))
    (stepped : entered = (step program settings before).2)
    (enters : entered.frames = .call next caller true :: before.frames)
    (inside : ∀ count ≤ later.length,
      .call next caller true :: before.frames <:+ (serveAll program settings (later.take count) entered).frames) :
    let reached := serveAll program settings later entered
    let returned := (step program settings reached).2
    ∃ call : ProcedureCall program settings before,
      entered.store.env.depth = before.store.env.depth + 1 ∧
      (∀ height < before.store.env.depth, ∀ name, entered.store.env.valueAt height name =
        if height + 1 = before.store.env.depth ∧ name ∈ call.created then some .undefined
        else before.store.env.valueAt height name) ∧
      call.Isolates reached ∧
      (¬ .call next caller true :: before.frames <:+ returned.frames → call.Returns returned) := by
  subst stepped
  have whole := Program.load_whole bytes program loaded
  have sound : Sound program settings before := by
    rw [called]
    exact serve_all_sound whole requests (initial_sound whole)
  have rooted : before.store.env.Rooted := by
    rw [called]
    exact serve_all_rooted requests (initial program settings) Environment.empty_env_rooted
  obtain ⟨call, same⟩ := entering_call program settings before sound.position next caller enters
  rw [← same] at inside ⊢
  exact ⟨call, call.entered_depth rooted, call.entered_values rooted,
    call.isolates whole sound rooted later inside, call.returns whole sound rooted later inside⟩

theorem procedure_isolates_doubling :
    let program := Sample.loaded Sample.doubling Sample.doubling_loads
    let before := serveAll program .standard [.step, .step] (initial program .standard)
    let entered := (step program .standard before).2
    let reached := serveAll program .standard [.step, .step] entered
    let returned := (step program .standard reached).2
    entered.frames = .call none 0 true :: before.frames ∧ ¬ .call none 0 true :: before.frames <:+ returned.frames ∧
      ∃ call : ProcedureCall program .standard before,
        entered.store.env.depth = before.store.env.depth + 1 ∧
        (∀ height < before.store.env.depth, ∀ name, entered.store.env.valueAt height name =
          if height + 1 = before.store.env.depth ∧ name ∈ call.created then some .undefined
          else before.store.env.valueAt height name) ∧
        call.Isolates reached ∧ call.Returns returned ∧
        reached.store.env.get? "n" ≠ before.store.env.get? "n" ∧
        returned.store.env.get? "n" = before.store.env.get? "n" := by
  intro program before entered reached returned
  have runs : entered.frames = .call none 0 true :: before.frames ∧
      (∀ count ≤ 2, .call none 0 true :: before.frames <:+
        (serveAll program .standard (List.take count [.step, .step]) entered).frames) ∧
      ¬ .call none 0 true :: before.frames <:+ returned.frames ∧
      reached.store.env.get? "n" ≠ before.store.env.get? "n" ∧
      returned.store.env.get? "n" = before.store.env.get? "n" := by
    decide +kernel
  obtain ⟨call, depth, values, isolates, returns⟩ := procedure_isolates Sample.doubling program .standard
    [.step, .step] [.step, .step] before entered none 0 (Sample.load_loaded _ _) rfl rfl runs.1 runs.2.1
  exact ⟨runs.1, runs.2.2.1, call, depth, values, isolates, returns runs.2.2.1, runs.2.2.2⟩

end Flowline.Execution
