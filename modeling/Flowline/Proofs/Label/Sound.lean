import Flowline.Proofs.Label.Grammar
import Flowline.Proofs.Label.Leaves

set_option autoImplicit false

namespace Flowline.Label

open Grammar

section Reads

variable {α β γ : Type}

-- The tokens in front of the rest are ones that the grammar has the value for.
def Reads (grammar : List Token → α → Prop) (tokens rest : List Placed) (value : α) : Prop :=
  ∃ used, tokens = used ++ rest ∧ grammar (used.map Prod.fst) value

theorem reads_here {grammar : List Token → α → Prop} {value : α} (derived : grammar [] value) (tokens : List Placed) :
    Reads grammar tokens tokens value :=
  ⟨[], rfl, derived⟩

theorem reads_token {grammar : List Token → α → Prop} {tokens rest : List Placed} {value : α} (token : Token)
    (place : Nat) (behind : Reads (fun more => grammar (token :: more)) tokens rest value) :
    Reads grammar ((token, place) :: tokens) rest value := by
  obtain ⟨used, rfl, derived⟩ := behind
  exact ⟨(token, place) :: used, rfl, derived⟩

theorem reads_then {first : List Token → α → Prop} {whole : List Token → β → Prop} {tokens middle rest : List Placed}
    {found : α} {value : β} (before : Reads first tokens middle found)
    (next : ∀ taken, first taken found → Reads (fun more => whole (taken ++ more)) middle rest value) :
    Reads whole tokens rest value := by
  obtain ⟨used, rfl, derived⟩ := before
  obtain ⟨more, rfl, derived⟩ := next _ derived
  refine ⟨used ++ more, (List.append_assoc used more rest).symm, ?_⟩
  rw [List.map_append]
  exact derived

theorem reads_imp {first : List Token → α → Prop} {whole : List Token → β → Prop} {tokens rest : List Placed}
    {found : α} {value : β} (before : Reads first tokens rest found)
    (imp : ∀ taken, first taken found → whole taken value) : Reads whole tokens rest value := by
  obtain ⟨used, same, derived⟩ := before
  exact ⟨used, same, imp _ derived⟩

end Reads

theorem atom_simple (token : Token) (expr : Expr) (known : atom? token = some expr) : Simple [token] expr := by
  unfold atom? at known
  split at known <;> cases known <;> constructor

variable (finish : Nat)

mutual

theorem binary_sound (level : Nat) (tokens rest : List Placed) (expr : Expr)
    (left : Leaves (binary finish level tokens) expr rest) : Reads (Operation level) tokens rest expr := by
  match level with
  | 0 => exact unary_sound tokens rest expr ((leaves_unary finish _ _ _).mp left)
  | level + 1 =>
      obtain ⟨first, middle, before, after⟩ := (leaves_level finish _ _ _ _).mp left
      have short : middle.length < tokens.length := leaves_fits before
      apply reads_then (binary_sound level tokens middle first before)
      intro taken derived
      exact chain_sound level first expr taken middle rest (.operand derived) after
termination_by 12 * tokens.length + level + 3
decreasing_by all_goals omega

theorem chain_sound (level : Nat) (left expr : Expr) (before : List Token) (tokens rest : List Placed)
    (base : Operation (level + 1) before left) (found : Leaves (chain finish level left tokens) expr rest) :
    Reads (fun more => Operation (level + 1) (before ++ more)) tokens rest expr := by
  have stop (ends : Heads (fun sign => operator? (level + 1) sign = none) tokens) :
      Reads (fun more => Operation (level + 1) (before ++ more)) tokens rest expr := by
    obtain ⟨rfl, rfl⟩ := (leaves_chain_end finish level left expr tokens rest ends).mp found
    exact reads_here (by rwa [List.append_nil]) rest
  match tokens with
  | [] => exact stop (heads_nil _)
  | (sign, place) :: others =>
      cases known : operator? (level + 1) sign with
      | none => exact stop ((heads_cons _ sign place others).mpr known)
      | some op =>
          obtain ⟨right, middle, operand, after⟩ :=
            (leaves_chain finish level left expr sign place others rest op known).mp found
          have short : middle.length < others.length := leaves_fits operand
          apply reads_token sign place
          apply reads_then (binary_sound level others middle right operand)
          intro taken derived
          have joined := Operation.joined base ((joins_iff _ _ _).mpr known) derived
          apply reads_imp (chain_sound level _ expr _ middle rest joined after)
          intro more derived
          simpa only [List.append_assoc, List.cons_append] using derived
termination_by 12 * tokens.length + level
decreasing_by all_goals simp only [List.length_cons]; omega

theorem unary_sound (tokens rest : List Placed) (expr : Expr) (left : Leaves (unary finish tokens) expr rest) :
    Reads (Operation 0) tokens rest expr := by
  have unsigned (none : Heads (fun sign => unaryOperator? sign = none) tokens) :
      Reads (Operation 0) tokens rest expr :=
    reads_imp (applied_sound tokens rest expr ((leaves_unsigned finish tokens rest expr none).mp left))
      (fun _ => .applied)
  match tokens with
  | [] => exact unsigned (heads_nil _)
  | (sign, place) :: others =>
      cases known : unaryOperator? sign with
      | none => exact unsigned ((heads_cons _ sign place others).mpr known)
      | some op =>
          obtain ⟨operand, inner, rfl⟩ := (leaves_signed finish sign place others rest op expr known).mp left
          apply reads_token sign place
          exact reads_imp (unary_sound others rest operand inner) (fun _ => .signed ((signs_iff _ _).mpr known))
termination_by 12 * tokens.length + 2
decreasing_by
  · omega
  · subst_vars
    simp only [List.length_cons]
    omega

theorem applied_sound (tokens rest : List Placed) (expr : Expr) (left : Leaves (applied finish tokens) expr rest) :
    Reads Application tokens rest expr := by
  obtain ⟨first, middle, before, after⟩ := (leaves_applied finish tokens rest expr).mp left
  have short : middle.length < tokens.length := leaves_fits before
  apply reads_then (simple_sound tokens middle first before)
  intro taken derived
  exact suffixes_sound _ first expr taken middle rest (.simple derived) after
termination_by 12 * tokens.length + 1
decreasing_by all_goals omega

theorem suffixes_sound (start : Nat) (target expr : Expr) (before : List Token) (tokens rest : List Placed)
    (base : Application before target) (left : Leaves (suffixes finish start target tokens) expr rest) :
    Reads (fun more => Application (before ++ more)) tokens rest expr := by
  have stop (ends : Heads (fun token => token ≠ .openParen ∧ token ≠ .openBracket) tokens) :
      Reads (fun more => Application (before ++ more)) tokens rest expr := by
    obtain ⟨rfl, rfl⟩ := (leaves_suffixes_end finish start target expr tokens rest ends).mp left
    exact reads_here (by rwa [List.append_nil]) rest
  match tokens with
  | [] => exact stop (heads_nil _)
  | (token, place) :: others =>
      by_cases round : token = .openParen
      · subst round
        obtain ⟨name, rfl, args, middle, inside, after⟩ :=
          (leaves_called finish start target expr place others rest).mp left
        have short : middle.length < others.length := leaves_fits inside
        obtain ⟨closing, given⟩ := items_sound .round others middle args inside
        apply reads_token .openParen place
        apply reads_then given
        intro taken listed
        apply reads_token .closeParen closing
        have called := Application.call (application_var base) listed
        apply reads_imp (suffixes_sound start _ expr _ middle rest called after)
        intro more derived
        simpa only [List.append_assoc, List.cons_append, List.nil_append] using derived
      · by_cases square : token = .openBracket
        · subst square
          obtain ⟨indices, middle, inside, count, after⟩ :=
            (leaves_indexed finish start target expr place others rest).mp left
          have short : middle.length < others.length := leaves_fits inside
          obtain ⟨closing, given⟩ := items_sound .square others middle indices inside
          apply reads_token .openBracket place
          apply reads_then given
          intro taken listed
          apply reads_token .closeBracket closing
          have indexed := Application.index base listed count
          apply reads_imp (suffixes_sound start _ expr _ middle rest indexed after)
          intro more derived
          simpa only [List.append_assoc, List.cons_append, List.nil_append] using derived
        · exact stop ((heads_cons _ token place others).mpr ⟨round, square⟩)
termination_by 12 * tokens.length
decreasing_by all_goals subst_vars; simp only [List.length_cons]; omega

theorem items_sound (bracket : Bracket) (tokens rest : List Placed) (exprs : List Expr)
    (left : Leaves (items finish bracket tokens) exprs rest) :
    ∃ place, Reads Listing tokens ((bracket.close, place) :: rest) exprs := by
  have filled (some : Heads (· ≠ bracket.close) tokens) :
      ∃ place, Reads Listing tokens ((bracket.close, place) :: rest) exprs := by
    obtain ⟨place, listed⟩ :=
      more_items_sound bracket tokens rest exprs ((leaves_items finish bracket tokens rest exprs some).mp left)
    exact ⟨place, reads_imp listed (fun _ => .items)⟩
  match tokens with
  | [] => exact filled (heads_nil _)
  | (token, place) :: others =>
      by_cases closes : token = bracket.close
      · subst closes
        obtain ⟨rfl, rfl⟩ := (leaves_no_items finish bracket place others rest exprs).mp left
        exact ⟨place, reads_here .empty _⟩
      · exact filled ((heads_cons _ token place others).mpr closes)
termination_by 12 * tokens.length + 11
decreasing_by all_goals omega

theorem more_items_sound (bracket : Bracket) (tokens rest : List Placed) (exprs : List Expr)
    (left : Leaves (moreItems finish bracket tokens) exprs rest) :
    ∃ place, Reads Items tokens ((bracket.close, place) :: rest) exprs := by
  obtain ⟨first, middle, before, after⟩ := (leaves_more finish bracket tokens rest exprs).mp left
  have short : middle.length < tokens.length := leaves_fits before
  have derives := binary_sound loosest tokens middle first before
  obtain ⟨comma, others, more, rfl, inner, rfl⟩ | ⟨rfl, place, rfl⟩ := after
  · obtain ⟨place, listed⟩ := more_items_sound bracket others rest more inner
    refine ⟨place, reads_then derives ?_⟩
    intro taken derived
    apply reads_token .comma comma
    exact reads_imp listed (fun _ => .more derived)
  · exact ⟨place, reads_imp derives (fun _ => .last)⟩
termination_by 12 * tokens.length + 10
decreasing_by
  · simp only [loosest]
    omega
  · subst_vars
    simp only [List.length_cons] at short
    omega

theorem simple_sound (tokens rest : List Placed) (expr : Expr) (left : Leaves (simple finish tokens) expr rest) :
    Reads Simple tokens rest expr := by
  match tokens with
  | [] => exact absurd left (leaves_simple_error finish [] rest expr (heads_nil _))
  | (token, place) :: others =>
      by_cases round : token = .openParen
      · subst round
        obtain ⟨middle, closing, inner, rfl⟩ := (leaves_group finish place others rest expr).mp left
        apply reads_token .openParen place
        apply reads_then (binary_sound loosest others _ expr inner)
        intro taken derived
        apply reads_token .closeParen closing
        exact reads_here (.group derived) rest
      · by_cases square : token = .openBracket
        · subst square
          obtain ⟨found, inner, rfl⟩ := (leaves_array finish place others rest expr).mp left
          obtain ⟨closing, listed⟩ := items_sound .square others rest found inner
          apply reads_token .openBracket place
          apply reads_then listed
          intro taken derived
          apply reads_token .closeBracket closing
          exact reads_here (.array derived) rest
        · cases known : atom? token with
          | none =>
              refine absurd left (leaves_simple_error finish _ rest expr ?_)
              exact (heads_cons _ token place others).mpr ⟨known, round, square⟩
          | some found =>
              obtain ⟨rfl, rfl⟩ := (leaves_atom finish token place others rest found expr known).mp left
              apply reads_token token place
              exact reads_here (atom_simple token expr known) rest
termination_by 12 * tokens.length
decreasing_by all_goals subst_vars; simp only [List.length_cons, loosest]; omega

end

theorem assignment_sound (tokens rest : List Placed) (expr : Expr)
    (left : Leaves (assignment finish tokens) expr rest) : Reads Assignment tokens rest expr := by
  obtain ⟨target, middle, before, after⟩ := (leaves_assignment finish tokens rest expr).mp left
  have short : middle.length < tokens.length := leaves_fits before
  have derives := binary_sound finish loosest tokens middle target before
  obtain ⟨sign, others, value, rfl, place, inner, rfl⟩ | ⟨_, rfl, rfl⟩ := after
  · apply reads_then derives
    intro taken derived
    apply reads_token .assign sign
    exact reads_imp (assignment_sound others rest value inner) (fun _ => .assign ((place_iff target).mpr place) derived)
  · exact reads_imp derives (fun _ => .plain)
termination_by tokens.length
decreasing_by
  subst_vars
  simp only [List.length_cons] at short
  omega

end Flowline.Label
