import Flowline.Proofs.Execution.Lasting
import Flowline.Proofs.Store.Cells

set_option autoImplicit false

namespace Flowline.Execution

open Chart (ComponentId)

theorem rooted_leads (before after : Environment) (cells : before.cells.size ≤ after.cells.size)
    (kept : before.Rooted → after.Rooted) :
    Leads Environment.Rooted (fun env binding => binding.Rooted env.cells.size) before after :=
  fun rooted => ⟨kept rooted, fun _ bound cell same => Nat.lt_of_lt_of_le (bound cell same) cells⟩

theorem rooted_lasting : Lasting Environment.Rooted fun env binding => binding.Rooted env.cells.size where
  owns := fun env value => Environment.own_rooted value env.cells.size
  sets := fun env name value =>
    rooted_leads _ _ (Nat.le_of_eq (env.set_cells name value).symm) (env.set_rooted name value)
  shares := fun env name => rooted_leads _ _ (env.share_cells name) fun rooted => (env.share_rooted name rooted).1
  shared := fun env name rooted => (env.share_rooted name rooted).2
  pushes := fun env scope rooted bound =>
    env.push_rooted scope rooted fun name cell found => bound name (.shared cell) found cell rfl

section Runs

variable {program : Program} {settings : Settings}

theorem visit_rooted (id : ComponentId) (execution : Execution) (rooted : execution.store.env.Rooted) :
    (visit program settings id execution).2.store.env.Rooted :=
  visit_keeps program settings rooted_lasting id execution rooted

theorem serve_rooted (request : Request) (execution : Execution) (rooted : execution.store.env.Rooted) :
    (request.serve program settings execution).2.store.env.Rooted := by
  rcases serve_keeps program settings rooted_lasting request execution rooted with anew | ⟨env, count, kept, reached⟩
  · rw [anew]
    exact Environment.empty_env_rooted
  · rw [reached]
    exact Environment.close_rooted env count kept

theorem serve_all_rooted (requests : List Request) (execution : Execution)
    (rooted : execution.store.env.Rooted) : (serveAll program settings requests execution).store.env.Rooted := by
  induction requests generalizing execution with
  | nil => exact rooted
  | cons request rest ih => exact ih _ (serve_rooted request execution rooted)

end Runs

end Flowline.Execution
