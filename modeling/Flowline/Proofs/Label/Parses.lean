import Flowline.Proofs.Label.Heading

set_option autoImplicit false

namespace Flowline.Label

open Grammar

def Scans (source : String) (tokens : List Token) : Prop :=
  ∃ placed, tokenize source = .ok placed ∧ placed.map Prod.fst = tokens

theorem reads_all {α : Type} {grammar : List Token → α → Prop} {tokens : List Placed} {value : α} :
    Reads grammar tokens [] value ↔ grammar (tokens.map Prod.fst) value := by
  constructor
  · rintro ⟨used, rfl, derived⟩
    rwa [List.append_nil]
  · intro derived
    exact ⟨tokens, (List.append_nil tokens).symm, derived⟩

section Whole

variable (finish : Nat)

theorem binary_whole (tokens : List Placed) (expr : Expr) :
    Leaves (binary finish loosest tokens) expr [] ↔ Operation 6 (tokens.map Prod.fst) expr := by
  constructor
  · intro left
    exact reads_all.mp (binary_sound finish loosest tokens [] expr left)
  · intro derived
    have found := operation_complete finish derived tokens [] rfl (stops_nil _) expr []
      (goes_no_further finish expr (stops_nil 6))
    rwa [List.append_nil] at found

theorem assignment_whole (tokens : List Placed) (expr : Expr) :
    Leaves (assignment finish tokens) expr [] ↔ Assignment (tokens.map Prod.fst) expr := by
  constructor
  · intro left
    exact reads_all.mp (assignment_sound finish tokens [] expr left)
  · intro derived
    exact assignment_complete finish derived tokens rfl

theorem whole_expr (tokens : List Placed) (expr : Expr) :
    wholeExpr finish tokens = .ok expr ↔ Assignment (tokens.map Prod.fst) expr := by
  rw [← assignment_whole finish, wholeExpr, both_ok]
  constructor
  · rintro ⟨⟨found, rest, short⟩, read, behind⟩
    obtain ⟨rfl, rfl⟩ := (all_ok finish rest expr found).mp behind
    exact ⟨short, read⟩
  · rintro ⟨short, read⟩
    exact ⟨_, read, rfl⟩

theorem whole_assignment (tokens : List Placed) (expr : Expr) :
    wholeAssignment finish tokens = .ok expr ↔
      Assignment (tokens.map Prod.fst) expr ∧ ∃ target value, expr = .assign target value := by
  rw [← assignment_whole finish, wholeAssignment, both_ok]
  constructor
  · rintro ⟨⟨found, rest, short⟩, read, behind⟩
    cases found with
    | assign target value =>
        obtain ⟨rfl, rfl⟩ := (all_ok finish rest expr (Expr.assign target value)).mp behind
        exact ⟨⟨short, read⟩, target, value, rfl⟩
    | _ => cases behind
  · rintro ⟨⟨short, read⟩, target, value, rfl⟩
    exact ⟨_, read, rfl⟩

theorem whole_target (tokens : List Placed) (expr : Expr) :
    wholeTarget finish tokens = .ok expr ↔ Operation 6 (tokens.map Prod.fst) expr ∧ Place expr := by
  rw [← binary_whole finish, place_iff, wholeTarget, both_ok]
  constructor
  · rintro ⟨⟨found, rest, short⟩, read, behind⟩
    obtain ⟨_, finished, chosen⟩ := (both_ok _ _ expr).mp behind
    obtain rfl := (ended_ok finish rest).mp finished
    by_cases place : found.isPlace = true
    · rw [if_pos place] at chosen
      cases chosen
      exact ⟨⟨short, read⟩, place⟩
    · rw [if_neg place] at chosen
      cases chosen
  · rintro ⟨⟨short, read⟩, place⟩
    refine ⟨_, read, ?_⟩
    simp only [ended, place]
    rfl

theorem whole_call (tokens : List Placed) (name : String) (args : List Expr) :
    wholeCall finish tokens = .ok (name, args) ↔
      Operation 6 (tokens.map Prod.fst) (.call name args) ∨
        Operation 6 (tokens.map Prod.fst) (.var name) ∧ args = [] := by
  rw [← binary_whole finish, ← binary_whole finish, wholeCall, both_ok]
  constructor
  · rintro ⟨⟨found, rest, short⟩, read, behind⟩
    obtain ⟨_, finished, chosen⟩ := (both_ok _ _ _).mp behind
    obtain rfl := (ended_ok finish rest).mp finished
    cases found with
    | var name =>
        cases chosen
        exact Or.inr ⟨⟨short, read⟩, rfl⟩
    | call name args =>
        cases chosen
        exact Or.inl ⟨short, read⟩
    | _ => cases chosen
  · rintro (⟨short, read⟩ | ⟨⟨short, read⟩, rfl⟩)
    · exact ⟨_, read, rfl⟩
    · exact ⟨_, read, rfl⟩

end Whole

theorem read_with_ok {α : Type} (parse : Nat → List Placed → Except Flaw α) (source : String) (value : α) :
    readWith parse source = .ok value ↔
      ∃ placed, tokenize source = .ok placed ∧ parse source.toList.length placed = .ok value := by
  unfold readWith
  cases tokenize source with
  | error error => exact ⟨nofun, nofun⟩
  | ok placed =>
      cases parsed : parse source.toList.length placed with
      | error flaw =>
          constructor
          · intro done
            change (parse source.toList.length placed).mapError _ = _ at done
            rw [parsed] at done
            cases done
          · rintro ⟨_, ⟨⟩, done⟩
            rw [parsed] at done
            cases done
      | ok found =>
          constructor
          · intro done
            change (parse source.toList.length placed).mapError _ = _ at done
            rw [parsed] at done
            cases done
            exact ⟨placed, rfl, parsed⟩
          · rintro ⟨_, ⟨⟩, done⟩
            change (parse source.toList.length placed).mapError _ = _
            rw [done]
            rfl

theorem read_by {α : Type} {parse : Nat → List Placed → Except Flaw α} {value : α}
    (grammar : List Token → α → Prop)
    (whole : ∀ finish tokens, parse finish tokens = .ok value ↔ grammar (tokens.map Prod.fst) value)
    (source : String) : readWith parse source = .ok value ↔ ∃ tokens, Scans source tokens ∧ grammar tokens value := by
  rw [read_with_ok]
  constructor
  · rintro ⟨placed, scanned, parsed⟩
    exact ⟨_, ⟨placed, scanned, rfl⟩, (whole _ placed).mp parsed⟩
  · rintro ⟨_, ⟨placed, scanned, rfl⟩, derived⟩
    exact ⟨placed, scanned, (whole _ placed).mpr derived⟩

theorem call_derived (source name : String) (args : List Expr) (parsed : parseCall source = .ok (name, args)) :
    ∃ tokens, Scans source tokens ∧
      (Operation 6 tokens (.call name args) ∨ Operation 6 tokens (.var name) ∧ args = []) :=
  (read_by (fun tokens (found : String × List Expr) =>
      Operation 6 tokens (.call found.1 found.2) ∨ Operation 6 tokens (.var found.1) ∧ found.2 = [])
    (fun finish tokens => whole_call finish tokens name args) source).mp parsed

theorem assignment_unique (tokens : List Token) :
    ∃ tree : Option Expr, ∀ expr, Assignment tokens expr ↔ tree = some expr := by
  have spelt : (tokens.map fun token => (token, 0)).map Prod.fst = tokens := by
    rw [List.map_map]
    exact List.map_id' tokens
  refine ⟨(wholeExpr 0 (tokens.map fun token => (token, 0))).toOption, fun expr => ?_⟩
  rw [← spelt, ← whole_expr 0, spelt]
  cases wholeExpr 0 (tokens.map fun token => (token, 0)) <;> simp [Except.toOption]

/-- Labels are parsed exactly by their grammar. An expression is accepted if and only if the tokens of the label
derive it, and no tokens derive two; an assignment if that expression is one; a target if it is a place; a call if
it is a call or a name; a header if it is a name that may have parameters. -/
theorem labels_parsed (source : String) :
    (∀ expr, parseExpr source = .ok expr ↔ ∃ tokens, Scans source tokens ∧ Assignment tokens expr) ∧
      (∀ expr, parseAssignment source = .ok expr ↔
        ∃ tokens, Scans source tokens ∧ Assignment tokens expr ∧ ∃ target value, expr = .assign target value) ∧
      (∀ expr, parseTarget source = .ok expr ↔
        ∃ tokens, Scans source tokens ∧ Operation 6 tokens expr ∧ Place expr) ∧
      (∀ name args, parseCall source = .ok (name, args) ↔
        ∃ tokens, Scans source tokens ∧
          (Operation 6 tokens (.call name args) ∨ Operation 6 tokens (.var name) ∧ args = [])) ∧
      (∀ header, parseHeader source = .ok header ↔ ∃ tokens, Scans source tokens ∧ Heading tokens header) ∧
      ∀ tokens, ∃ tree : Option Expr, ∀ expr, Assignment tokens expr ↔ tree = some expr := by
  refine ⟨?_, ?_, ?_, ?_, ?_, assignment_unique⟩
  · intro expr
    exact read_by Assignment (fun finish tokens => whole_expr finish tokens expr) source
  · intro expr
    exact read_by (fun tokens expr => Assignment tokens expr ∧ ∃ target value, expr = .assign target value)
      (fun finish tokens => whole_assignment finish tokens expr) source
  · intro expr
    exact read_by (fun tokens expr => Operation 6 tokens expr ∧ Place expr)
      (fun finish tokens => whole_target finish tokens expr) source
  · intro name args
    exact read_by (fun tokens (found : String × List Expr) =>
        Operation 6 tokens (.call found.1 found.2) ∨ Operation 6 tokens (.var found.1) ∧ found.2 = [])
      (fun finish tokens => whole_call finish tokens name args) source
  · intro header
    exact read_by Heading (fun finish tokens => whole_header finish tokens header) source

end Flowline.Label
