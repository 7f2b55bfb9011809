import Flowline.Label.Parse
import Flowline.Outcome

set_option autoImplicit false

namespace Flowline.Label

-- A value and the tokens behind it, fewer than or as many as there were.
def Leaves {α : Type} {fits : List Placed → Prop} (result : Except Flaw (α × { rest : List Placed // fits rest }))
    (value : α) (rest : List Placed) : Prop :=
  ∃ short, result = .ok (value, ⟨rest, short⟩)

section Leaves

variable {α β : Type} {fits below : List Placed → Prop}

theorem leaves_fits {result : Except Flaw (α × { rest : List Placed // fits rest })} {value : α} {rest : List Placed}
    (left : Leaves result value rest) : fits rest := by
  obtain ⟨short, _⟩ := left
  exact short

theorem leaves_ok (found value : α) (after rest : List Placed) (short : fits after) :
    Leaves (.ok (found, ⟨after, short⟩) : Except Flaw (α × { rest : List Placed // fits rest })) value rest ↔
      value = found ∧ rest = after := by
  constructor
  · rintro ⟨_, same⟩
    cases same
    exact ⟨rfl, rfl⟩
  · rintro ⟨rfl, rfl⟩
    exact ⟨short, rfl⟩

theorem leaves_error (flaw : Flaw) (value : α) (rest : List Placed) :
    ¬ Leaves (.error flaw : Except Flaw (α × { rest : List Placed // fits rest })) value rest := by
  rintro ⟨_, same⟩
  cases same

theorem leaves_bind (first : Except Flaw (β × { rest : List Placed // below rest }))
    (next : β × { rest : List Placed // below rest } → Except Flaw (α × { rest : List Placed // fits rest }))
    (value : α) (rest : List Placed) :
    Leaves (first >>= next) value rest ↔
      ∃ found middle short, Leaves first found middle ∧ Leaves (next (found, ⟨middle, short⟩)) value rest := by
  constructor
  · intro left
    cases done : first with
    | error flaw =>
        rw [done] at left
        exact absurd left (leaves_error flaw value rest)
    | ok found =>
        rw [done] at left
        exact ⟨found.1, found.2.1, found.2.2, ⟨found.2.2, rfl⟩, left⟩
  · rintro ⟨found, middle, short, ⟨_, done⟩, left⟩
    rw [done]
    exact left

theorem leaves_map (first : Except Flaw (β × { rest : List Placed // below rest })) (change : β → α)
    (keep : ∀ rest, below rest → fits rest) (value : α) (rest : List Placed) :
    Leaves (first >>= fun found => pure (change found.1, ⟨found.2.1, keep found.2.1 found.2.2⟩) :
        Except Flaw (α × { rest : List Placed // fits rest })) value rest ↔
      ∃ found, Leaves first found rest ∧ value = change found := by
  rw [leaves_bind]
  constructor
  · rintro ⟨found, middle, short, left, done⟩
    obtain ⟨rfl, rfl⟩ := (leaves_ok _ _ _ _ _).mp done
    exact ⟨found, left, rfl⟩
  · rintro ⟨found, left, rfl⟩
    exact ⟨found, rest, leaves_fits left, left, (leaves_ok _ _ _ _ _).mpr ⟨rfl, rfl⟩⟩

theorem leaves_pass {within : List Placed → List Placed → Prop}
    (first : Except Flaw (β × { rest : List Placed // below rest }))
    (next : β → (middle : List Placed) → Except Flaw (α × { rest : List Placed // within middle rest }))
    (keep : ∀ middle, below middle → ∀ rest, within middle rest → fits rest) (value : α) (rest : List Placed) :
    Leaves (first >>= fun found => next found.1 found.2.1 >>= fun whole =>
        pure (whole.1, ⟨whole.2.1, keep _ found.2.2 _ whole.2.2⟩) :
        Except Flaw (α × { rest : List Placed // fits rest })) value rest ↔
      ∃ found middle, Leaves first found middle ∧ Leaves (next found middle) value rest := by
  rw [leaves_bind]
  constructor
  · rintro ⟨found, middle, short, before, after⟩
    obtain ⟨whole, after, rfl⟩ := (leaves_map _ id (keep middle short) _ _).mp after
    exact ⟨found, middle, before, after⟩
  · rintro ⟨found, middle, before, after⟩
    have short := leaves_fits before
    exact ⟨found, middle, short, before, (leaves_map _ id (keep middle short) _ _).mpr ⟨value, after, rfl⟩⟩

end Leaves

def Heads (kind : Token → Prop) (tokens : List Placed) : Prop := ∀ first ∈ tokens.head?, kind first.1

theorem heads_nil (kind : Token → Prop) : Heads kind [] := by
  rintro _ ⟨⟩

theorem heads_cons (kind : Token → Prop) (token : Token) (place : Nat) (others : List Placed) :
    Heads kind ((token, place) :: others) ↔ kind token := by
  simp [Heads]

section Parser

variable (finish : Nat)

theorem expect_ok (token : Token) (wanted : Wanted) (tokens rest : List Placed) :
    (∃ short, expect finish token wanted tokens = .ok ⟨rest, short⟩) ↔ ∃ place, tokens = (token, place) :: rest := by
  constructor
  · rintro ⟨short, done⟩
    cases tokens with
    | nil => cases done
    | cons first others =>
        simp only [expect] at done
        split at done
        · rename_i same
          cases done
          exact ⟨first.2, by rw [← same]⟩
        · cases done
  · rintro ⟨place, rfl⟩
    exact ⟨by simp, by simp [expect]⟩

theorem leaves_unary (tokens rest : List Placed) (expr : Expr) :
    Leaves (binary finish 0 tokens) expr rest ↔ Leaves (unary finish tokens) expr rest := by
  rw [binary]

theorem leaves_level (level : Nat) (tokens rest : List Placed) (expr : Expr) :
    Leaves (binary finish (level + 1) tokens) expr rest ↔
      ∃ first middle, Leaves (binary finish level tokens) first middle ∧
        Leaves (chain finish level first middle) expr rest := by
  rw [binary]
  exact leaves_pass _ (chain finish level) (fun _ short _ more => Nat.lt_of_le_of_lt more short) _ _

theorem leaves_chain_end (level : Nat) (left expr : Expr) (tokens rest : List Placed)
    (ends : Heads (fun sign => operator? (level + 1) sign = none) tokens) :
    Leaves (chain finish level left tokens) expr rest ↔ expr = left ∧ rest = tokens := by
  cases tokens with
  | nil =>
      rw [chain]
      exact leaves_ok _ _ _ _ _
  | cons first others =>
      have none : operator? (level + 1) first.1 = none := ends first rfl
      rw [chain]
      simp only [none]
      exact leaves_ok _ _ _ _ _

theorem behind_first (first : Placed) (others middle : List Placed) (short : middle.length < others.length)
    (rest : List Placed) (more : rest.length ≤ middle.length) : rest.length ≤ (first :: others).length := by
  simp only [List.length_cons]
  omega

theorem leaves_chain (level : Nat) (left expr : Expr) (sign : Token) (place : Nat) (others rest : List Placed)
    (op : BinaryOp) (known : operator? (level + 1) sign = some op) :
    Leaves (chain finish level left ((sign, place) :: others)) expr rest ↔
      ∃ right middle, Leaves (binary finish level others) right middle ∧
        Leaves (chain finish level (.binary op left right) middle) expr rest := by
  rw [chain]
  simp only [known]
  exact leaves_pass _ (fun right => chain finish level (.binary op left right)) (behind_first _ others) _ _

theorem leaves_signed (sign : Token) (place : Nat) (others rest : List Placed) (op : UnaryOp) (expr : Expr)
    (known : unaryOperator? sign = some op) :
    Leaves (unary finish ((sign, place) :: others)) expr rest ↔
      ∃ operand, Leaves (unary finish others) operand rest ∧ expr = .unary op operand := by
  rw [unary]
  simp only [known]
  exact leaves_map _ (Expr.unary op) (fun _ => Nat.lt_succ_of_lt) _ _

theorem leaves_unsigned (tokens rest : List Placed) (expr : Expr)
    (none : Heads (fun sign => unaryOperator? sign = none) tokens) :
    Leaves (unary finish tokens) expr rest ↔ Leaves (applied finish tokens) expr rest := by
  cases tokens with
  | nil => rw [unary]
  | cons first others =>
      have unsigned : unaryOperator? first.1 = Option.none := none first rfl
      rw [unary]
      simp only [unsigned]

theorem leaves_applied (tokens rest : List Placed) (expr : Expr) :
    Leaves (applied finish tokens) expr rest ↔
      ∃ first middle, Leaves (simple finish tokens) first middle ∧
        Leaves (suffixes finish (column finish tokens) first middle) expr rest := by
  rw [applied]
  exact leaves_pass _ (suffixes finish (column finish tokens))
    (fun _ short _ more => Nat.lt_of_le_of_lt more short) _ _

theorem leaves_suffixes_end (start : Nat) (target expr : Expr) (tokens rest : List Placed)
    (ends : Heads (fun token => token ≠ .openParen ∧ token ≠ .openBracket) tokens) :
    Leaves (suffixes finish start target tokens) expr rest ↔ expr = target ∧ rest = tokens := by
  rw [suffixes.eq_def]
  split
  · exact absurd rfl (ends _ rfl).1
  · exact absurd rfl (ends _ rfl).2
  · exact leaves_ok _ _ _ _ _

theorem leaves_called (start : Nat) (target expr : Expr) (place : Nat) (others rest : List Placed) :
    Leaves (suffixes finish start target ((.openParen, place) :: others)) expr rest ↔
      ∃ name, target = .var name ∧ ∃ args middle, Leaves (items finish .round others) args middle ∧
        Leaves (suffixes finish start (.call name args) middle) expr rest := by
  have named : ∀ name,
      Leaves (suffixes finish start (.var name) ((.openParen, place) :: others)) expr rest ↔
        ∃ args middle, Leaves (items finish .round others) args middle ∧
          Leaves (suffixes finish start (.call name args) middle) expr rest := by
    intro name
    rw [suffixes.eq_def]
    exact leaves_pass _ (fun args => suffixes finish start (.call name args)) (behind_first _ others) _ _
  constructor
  · intro left
    cases target with
    | var name => exact ⟨name, rfl, (named name).mp left⟩
    | _ =>
        rw [suffixes.eq_def] at left
        exact absurd left (leaves_error _ _ _)
  · rintro ⟨name, rfl, called⟩
    exact (named name).mpr called

theorem leaves_indexed (start : Nat) (target expr : Expr) (place : Nat) (others rest : List Placed) :
    Leaves (suffixes finish start target ((.openBracket, place) :: others)) expr rest ↔
      ∃ indices middle, Leaves (items finish .square others) indices middle ∧
        (indices.length = 1 ∨ indices.length = 2) ∧
          Leaves (suffixes finish start (.index target indices) middle) expr rest := by
  rw [suffixes.eq_def]
  constructor
  · intro left
    obtain ⟨indices, middle, short, before, after⟩ := (leaves_bind _ _ _ _).mp left
    by_cases count : indices.length = 1 ∨ indices.length = 2
    · simp only [if_pos count] at after
      obtain ⟨whole, after, rfl⟩ := (leaves_map _ id (behind_first _ others middle short) _ _).mp after
      exact ⟨indices, middle, before, count, after⟩
    · simp only [if_neg count] at after
      exact absurd after (leaves_error _ _ _)
  · rintro ⟨indices, middle, before, count, after⟩
    have short := leaves_fits before
    refine (leaves_bind _ _ _ _).mpr ⟨indices, middle, short, before, ?_⟩
    simp only [if_pos count]
    exact (leaves_map _ id (behind_first _ others middle short) _ _).mpr ⟨expr, after, rfl⟩

theorem leaves_no_items (bracket : Bracket) (place : Nat) (others rest : List Placed) (exprs : List Expr) :
    Leaves (items finish bracket ((bracket.close, place) :: others)) exprs rest ↔ exprs = [] ∧ rest = others := by
  rw [items]
  simp only [if_true]
  exact leaves_ok _ _ _ _ _

theorem leaves_items (bracket : Bracket) (tokens rest : List Placed) (exprs : List Expr)
    (some : Heads (· ≠ bracket.close) tokens) :
    Leaves (items finish bracket tokens) exprs rest ↔ Leaves (moreItems finish bracket tokens) exprs rest := by
  cases tokens with
  | nil => rw [items]
  | cons first others =>
      have other : first.1 ≠ bracket.close := some first rfl
      rw [items]
      simp only [if_neg other]

theorem leaves_close {α : Type} {fits : List Placed → Prop} (token : Token) (wanted : Wanted)
    (tokens rest : List Placed) (found value : α)
    (keep : ∀ rest : List Placed, rest.length < tokens.length → fits rest) :
    Leaves (expect finish token wanted tokens >>= fun after => pure (found, ⟨after.1, keep after.1 after.2⟩) :
        Except Flaw (α × { rest : List Placed // fits rest })) value rest ↔
      value = found ∧ ∃ place, tokens = (token, place) :: rest := by
  rw [← expect_ok finish token wanted tokens rest]
  cases done : expect finish token wanted tokens with
  | error flaw => exact ⟨fun left => absurd left (leaves_error _ _ _), fun ⟨_, _, same⟩ => nomatch same⟩
  | ok after =>
      refine (leaves_ok _ _ _ _ _).trans (and_congr_right fun _ => ?_)
      constructor
      · rintro rfl
        exact ⟨after.2, rfl⟩
      · rintro ⟨short, same⟩
        cases same
        rfl

theorem leaves_more (bracket : Bracket) (tokens rest : List Placed) (exprs : List Expr) :
    Leaves (moreItems finish bracket tokens) exprs rest ↔
      ∃ first middle, Leaves (binary finish loosest tokens) first middle ∧
        ((∃ place others more, middle = (.comma, place) :: others ∧
            Leaves (moreItems finish bracket others) more rest ∧ exprs = first :: more) ∨
          exprs = [first] ∧ ∃ place, middle = (bracket.close, place) :: rest) := by
  have apart : bracket.close ≠ .comma := by
    cases bracket <;> exact fun same => nomatch same
  rw [moreItems, leaves_bind]
  constructor
  · rintro ⟨first, middle, short, before, after⟩
    refine ⟨first, middle, before, ?_⟩
    dsimp only at after
    split at after
    · rename_i place others _
      obtain ⟨more, left, rfl⟩ := (leaves_map _ (first :: ·) _ _ _).mp after
      exact Or.inl ⟨place, others, more, rfl, left, rfl⟩
    · exact Or.inr ((leaves_close finish _ _ _ _ [first] _ _).mp after)
  · rintro ⟨first, middle, before, ⟨place, others, more, rfl, left, rfl⟩ | ⟨rfl, place, rfl⟩⟩
    · refine ⟨first, _, leaves_fits before, before, ?_⟩
      exact (leaves_map _ (first :: ·) _ _ _).mpr ⟨more, left, rfl⟩
    · refine ⟨first, _, leaves_fits before, before, ?_⟩
      dsimp only
      split
      · rename_i same _
        exact absurd (congrArg Prod.fst (List.cons.inj same).1) apart
      · exact (leaves_close finish _ _ _ _ [first] _ _).mpr ⟨rfl, place, rfl⟩

theorem leaves_group (place : Nat) (others rest : List Placed) (expr : Expr) :
    Leaves (simple finish ((.openParen, place) :: others)) expr rest ↔
      ∃ middle closing, Leaves (binary finish loosest others) expr middle ∧
        middle = (.closeParen, closing) :: rest := by
  rw [simple, leaves_bind]
  constructor
  · rintro ⟨inner, middle, short, before, after⟩
    obtain ⟨rfl, closing, same⟩ := (leaves_close finish _ _ _ _ inner _ _).mp after
    exact ⟨middle, closing, before, same⟩
  · rintro ⟨middle, closing, before, rfl⟩
    exact ⟨expr, _, leaves_fits before, before, (leaves_close finish _ _ _ _ expr _ _).mpr ⟨rfl, closing, rfl⟩⟩

theorem leaves_array (place : Nat) (others rest : List Placed) (expr : Expr) :
    Leaves (simple finish ((.openBracket, place) :: others)) expr rest ↔
      ∃ found, Leaves (items finish .square others) found rest ∧ expr = .array found := by
  rw [simple]
  exact leaves_map _ Expr.array (fun _ => Nat.lt_succ_of_lt) _ _

def atom? : Token → Option Expr
  | .number value => some (.number value)
  | .text value => some (.text value)
  | .bool value => some (.bool value)
  | .name name => some (.var name)
  | _ => none

theorem leaves_atom (token : Token) (place : Nat) (others rest : List Placed) (found expr : Expr)
    (known : atom? token = some found) :
    Leaves (simple finish ((token, place) :: others)) expr rest ↔ expr = found ∧ rest = others := by
  unfold atom? at known
  split at known <;> cases known <;> rw [simple] <;> exact leaves_ok _ _ _ _ _

theorem leaves_simple_error (tokens rest : List Placed) (expr : Expr)
    (other : Heads (fun token => atom? token = none ∧ token ≠ .openParen ∧ token ≠ .openBracket) tokens) :
    ¬ Leaves (simple finish tokens) expr rest := by
  rw [simple.eq_def]
  split
  · exact absurd (other _ rfl).1 (Option.some_ne_none _)
  · exact absurd (other _ rfl).1 (Option.some_ne_none _)
  · exact absurd (other _ rfl).1 (Option.some_ne_none _)
  · exact absurd (other _ rfl).1 (Option.some_ne_none _)
  · exact absurd rfl (other _ rfl).2.1
  · exact absurd rfl (other _ rfl).2.2
  · exact leaves_error _ _ _

theorem leaves_assignment (tokens rest : List Placed) (expr : Expr) :
    Leaves (assignment finish tokens) expr rest ↔
      ∃ target middle, Leaves (binary finish loosest tokens) target middle ∧
        ((∃ place others value, middle = (.assign, place) :: others ∧ target.isPlace = true ∧
            Leaves (assignment finish others) value rest ∧ expr = .assign target value) ∨
          Heads (· ≠ .assign) middle ∧ expr = target ∧ rest = middle) := by
  rw [assignment, leaves_bind]
  constructor
  · rintro ⟨target, middle, short, before, after⟩
    refine ⟨target, middle, before, ?_⟩
    dsimp only at after
    split at after
    · rename_i place others _
      by_cases place? : target.isPlace = true
      · simp only [if_pos place?] at after
        obtain ⟨value, left, rfl⟩ := (leaves_map _ (Expr.assign target) _ _ _).mp after
        exact Or.inl ⟨place, others, value, rfl, place?, left, rfl⟩
      · simp only [if_neg place?] at after
        exact absurd after (leaves_error _ _ _)
    · rename_i other
      obtain ⟨rfl, rfl⟩ := (leaves_ok _ _ _ _ _).mp after
      refine Or.inr ⟨?_, rfl, rfl⟩
      rintro ⟨token, place⟩ first rfl
      cases rest with
      | nil => cases first
      | cons head others =>
          cases first
          exact other place others short rfl HEq.rfl
  · rintro ⟨target, middle, before, ⟨place, others, value, rfl, place?, left, rfl⟩ | ⟨other, rfl, rfl⟩⟩
    · refine ⟨target, _, leaves_fits before, before, ?_⟩
      simp only [if_pos place?]
      exact (leaves_map _ (Expr.assign target) _ _ _).mpr ⟨value, left, rfl⟩
    · refine ⟨expr, _, leaves_fits before, before, ?_⟩
      dsimp only
      split
      · exact absurd rfl (other _ rfl)
      · exact (leaves_ok _ _ _ _ _).mpr ⟨rfl, rfl⟩

theorem leaves_name (tokens rest : List Placed) (name : String) :
    Leaves (takeName finish tokens) name rest ↔ ∃ place, tokens = (.name name, place) :: rest := by
  unfold takeName
  split
  · rename_i found place others
    constructor
    · intro left
      obtain ⟨rfl, rfl⟩ := (leaves_ok _ _ _ _ _).mp left
      exact ⟨place, rfl⟩
    · rintro ⟨place, same⟩
      cases same
      exact (leaves_ok _ _ _ _ _).mpr ⟨rfl, rfl⟩
  · rename_i other
    constructor
    · intro left
      exact absurd left (leaves_error _ _ _)
    · rintro ⟨place, rfl⟩
      exact absurd rfl (other name place rest)

theorem leaves_named {α : Type} {fits : List Placed → Prop} (tokens rest : List Placed) (value : α)
    (next : String × Shorter tokens → Except Flaw (α × { rest : List Placed // fits rest })) :
    Leaves (takeName finish tokens >>= next) value rest ↔
      ∃ name place others, ∃ same : tokens = (.name name, place) :: others,
        Leaves (next (name, ⟨others, same ▸ Nat.lt_succ_self others.length⟩)) value rest := by
  rw [leaves_bind]
  constructor
  · rintro ⟨name, others, short, before, after⟩
    obtain ⟨place, same⟩ := (leaves_name finish _ _ _).mp before
    exact ⟨name, place, others, same, after⟩
  · rintro ⟨name, place, others, same, after⟩
    exact ⟨name, others, same ▸ Nat.lt_succ_self others.length, (leaves_name finish _ _ _).mpr ⟨place, same⟩, after⟩

theorem leaves_params (tokens rest : List Placed) (found : List Param) :
    Leaves (params finish tokens) found rest ↔
      ∃ first middle, Leaves (param finish tokens) first middle ∧
        ((∃ place others more, middle = (.comma, place) :: others ∧
            Leaves (params finish others) more rest ∧ found = first :: more) ∨
          found = [first] ∧ ∃ place, middle = (.closeParen, place) :: rest) := by
  rw [params, leaves_bind]
  constructor
  · rintro ⟨first, middle, short, before, after⟩
    refine ⟨first, middle, before, ?_⟩
    dsimp only at after
    split at after
    · rename_i place others _
      obtain ⟨more, left, rfl⟩ := (leaves_map _ (first :: ·) _ _ _).mp after
      exact Or.inl ⟨place, others, more, rfl, left, rfl⟩
    · exact Or.inr ((leaves_close finish _ _ _ _ [first] _ _).mp after)
  · rintro ⟨first, middle, before, ⟨place, others, more, rfl, left, rfl⟩ | ⟨rfl, place, rfl⟩⟩
    · refine ⟨first, _, leaves_fits before, before, ?_⟩
      exact (leaves_map _ (first :: ·) _ _ _).mpr ⟨more, left, rfl⟩
    · refine ⟨first, _, leaves_fits before, before, ?_⟩
      exact (leaves_close finish _ _ _ _ [first] _ _).mpr ⟨rfl, place, rfl⟩

theorem ended_ok (tokens : List Placed) : ended finish tokens = .ok () ↔ tokens = [] := by
  cases tokens <;> simp [ended]

theorem all_ok {α : Type} (tokens : List Placed) (value found : α) :
    (ended finish tokens >>= fun _ => pure found) = .ok value ↔ tokens = [] ∧ value = found := by
  rw [both_ok]
  constructor
  · rintro ⟨_, done, ⟨⟩⟩
    exact ⟨(ended_ok finish tokens).mp done, rfl⟩
  · rintro ⟨rfl, rfl⟩
    exact ⟨(), rfl, rfl⟩

end Parser

end Flowline.Label
