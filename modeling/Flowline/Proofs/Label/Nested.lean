import Flowline.Proofs.Label.Built
import Mathlib.Logic.Relation

set_option autoImplicit false

namespace Flowline.Label

def Within : Expr → Expr → Prop := Relation.ReflTransGen fun outer inner => inner ∈ outer.parts

inductive ReadAs (source : String) : Expr → Prop where
  | expr (whole : Expr) (parsed : parseExpr source = .ok whole) : ReadAs source whole
  | assignment (whole : Expr) (parsed : parseAssignment source = .ok whole) : ReadAs source whole
  | target (whole : Expr) (parsed : parseTarget source = .ok whole) : ReadAs source whole
  | arg (name : String) (args : List Expr) (whole : Expr) (parsed : parseCall source = .ok (name, args))
      (member : whole ∈ args) : ReadAs source whole

-- The places that something is stored in: those of inputs, and those that an expression assigns to.
inductive Targeted (source : String) : Expr → Prop where
  | input (target : Expr) (parsed : parseTarget source = .ok target) : Targeted source target
  | assigned (whole target value : Expr) (read : ReadAs source whole) (within : Within whole (.assign target value)) :
      Targeted source target

-- Assignments stand on the right of each other only.
def Expr.Spined : Expr → Prop
  | .assign target value => target.Plain ∧ value.Spined
  | expr => expr.Plain

theorem plain_spined (expr : Expr) (plain : expr.Plain) : expr.Spined := by
  cases expr with
  | assign => exact plain.elim
  | _ => exact plain

theorem spined_plain (expr : Expr) (spined : expr.Spined) (other : expr.assigns = false) : expr.Plain := by
  cases expr with
  | assign => cases other
  | _ => exact spined

theorem spined_operands (expr : Expr) (spined : expr.Spined) : ∀ operand ∈ expr.operands, operand.Plain := by
  cases expr with
  | assign => exact nofun
  | _ => exact plain_operands _ spined

theorem spined_part (expr part : Expr) (spined : expr.Spined) (member : part ∈ expr.parts) : part.Spined := by
  cases expr with
  | assign target value =>
      rcases List.mem_cons.mp member with same | last
      · rw [same]
        exact plain_spined target spined.1
      · rw [List.mem_singleton.mp last]
        exact spined.2
  | _ => exact plain_spined part (spined_operands _ spined part member)

theorem spined_within (expr part : Expr) (spined : expr.Spined) (within : Within expr part) : part.Spined := by
  induction within with
  | refl => exact spined
  | tail _ member ih => exact spined_part _ _ ih member

section Labels

variable (source : String)

theorem read_spined (expr : Expr) (read : ReadAs source expr) : expr.Spined := by
  have assigns : ∀ target value : Expr, target.Plain → value.Spined → (Expr.assign target value).Spined :=
    fun _ _ target value => ⟨target, value⟩
  cases read with
  | expr _ parsed => exact plain_built.expr_good plain_spined assigns (fun _ _ => trivial) expr parsed
  | assignment _ parsed => exact plain_built.parsed_assignment_good plain_spined assigns (fun _ _ => trivial) expr parsed
  | target _ parsed => exact plain_spined expr (target_plain source expr parsed)
  | arg name args _ parsed member => exact plain_spined expr (call_args_plain source name args parsed expr member)

theorem targeted_plain (target : Expr) (targeted : Targeted source target) : target.Plain := by
  cases targeted with
  | input _ parsed => exact target_plain source target parsed
  | assigned whole _ value read within => exact (spined_within _ _ (read_spined source whole read) within).1

end Labels

end Flowline.Label
