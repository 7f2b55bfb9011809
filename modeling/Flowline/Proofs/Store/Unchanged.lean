import Flowline.Proofs.Label.Nested
import Flowline.Proofs.Store.Quiet

set_option autoImplicit false

namespace Flowline

open Label (Expr ReadAs Targeted Within)

section Labels

variable (registry : Registry) (source : String)

theorem unassigning_quiet (expr : Expr) (read : ReadAs source expr) (other : expr.assigns = false) :
    Respects Quiet (evaluate registry expr) :=
  evaluate_quiet registry expr (Label.spined_plain expr (Label.read_spined source expr read) other)

theorem operands_quiet (expr part operand : Expr) (read : ReadAs source expr) (within : Within expr part)
    (member : operand ∈ part.operands) : Respects Quiet (evaluate registry operand) := by
  have spined := Label.spined_within expr part (Label.read_spined source expr read) within
  exact evaluate_quiet registry operand (Label.spined_operands part spined operand member)

theorem indices_quiet (target base : Expr) (indices : List Expr) (targeted : Targeted source target)
    (within : Within target (.index base indices)) : Respects Quiet (evaluateIndices registry indices) := by
  have plain := Label.plain_spined target (Label.targeted_plain source target targeted)
  have both := Label.spined_operands _ (Label.spined_within target _ plain within)
  exact evaluate_indices_quiet registry indices (List.forall_mem_cons.mp both).2

/-- Evaluating what a label is parsed to leaves all variables and arrays as they were, whether it succeeds or fails,
unless the label assigns. The same holds of the arguments of a call, of the indices in a target, and, at any depth of
any label, of operands, items, arguments, indices and what they are taken of. -/
theorem labels_quiet :
    (∀ expr, Label.parseExpr source = .ok expr → expr.assigns = false → Respects Quiet (evaluate registry expr)) ∧
      (∀ name args, Label.parseCall source = .ok (name, args) → Respects Quiet (evaluateAll registry args)) ∧
      (∀ target base indices, Targeted source target → Within target (.index base indices) →
        Respects Quiet (evaluateIndices registry indices)) ∧
      ∀ expr part operand, ReadAs source expr → Within expr part → operand ∈ part.operands →
        Respects Quiet (evaluate registry operand) := by
  refine ⟨?_, ?_, ?_, ?_⟩
  · intro expr parsed other
    exact unassigning_quiet registry source expr (.expr expr parsed) other
  · intro name args parsed
    exact evaluate_all_quiet registry args (Label.call_args_plain source name args parsed)
  · intro target base indices targeted within
    exact indices_quiet registry source target base indices targeted within
  · intro expr part operand read within member
    exact operands_quiet registry source expr part operand read within member

end Labels

theorem some_of_any {ε α : Type} (result : Except ε α) (kind : α → Bool) (any : result.toOption.any kind = true) :
    ∃ value, result = .ok value ∧ kind value = true := by
  cases result with
  | error fault => cases any
  | ok value => exact ⟨value, rfl, any⟩

theorem labels_quiet_nested :
    (∃ expr, Label.parseExpr "-length_of([n, [m]]) + random * g[n]" = .ok expr ∧
      Respects Quiet (evaluate .standard expr)) ∧
    ∃ target value, Label.parseAssignment "g[n, random] := h[n] := [m]" = .ok (.assign target value) ∧
      value.assigns = true ∧ target.operands.length = 3 ∧
        ∀ operand ∈ target.operands, Respects Quiet (evaluate .standard operand) := by
  obtain ⟨expr, parsed, other⟩ := some_of_any (Label.parseExpr "-length_of([n, [m]]) + random * g[n]")
    (fun expr => !expr.assigns) (by decide +kernel)
  obtain ⟨whole, read, shaped⟩ := some_of_any (Label.parseAssignment "g[n, random] := h[n] := [m]")
    (fun expr => expr.assigns && expr.parts.map (fun part => (part.assigns, part.operands.length)) ==
      [(false, 3), (true, 0)]) (by decide +kernel)
  refine ⟨⟨expr, parsed, (labels_quiet .standard _).1 expr parsed (by simpa using other)⟩, ?_⟩
  cases whole with
  | assign target value =>
      have inside : target.operands.length = 3 ∧ value.assigns = true := by
        simp only [Label.Expr.assigns, Label.Expr.parts, List.map_cons, List.map_nil, Bool.true_and, beq_iff_eq,
          List.cons.injEq, Prod.mk.injEq] at shaped
        exact ⟨shaped.1.2, shaped.2.1.1⟩
      refine ⟨target, value, read, inside.2, inside.1, fun operand member => ?_⟩
      have within : Within (.assign target value) target := .single List.mem_cons_self
      exact (labels_quiet .standard _).2.2.2 _ target operand (.assignment _ read) within member
  | _ => cases shaped

end Flowline
