import Flowline.Proofs.Label.Grammar
import Flowline.Proofs.Label.Leaves

set_option autoImplicit false

namespace Flowline.Label

open Grammar

-- Nothing goes on with an expression of a level here: neither brackets nor an operator up to the level.
def Stops (level : Nat) (tokens : List Placed) : Prop :=
  Heads (fun token => (token ≠ .openParen ∧ token ≠ .openBracket) ∧ ∀ inner ≤ level, operator? inner token = none)
    tokens

theorem stops_le {level inner : Nat} {tokens : List Placed} (stops : Stops level tokens) (le : inner ≤ level) :
    Stops inner tokens := by
  intro first head
  exact ⟨(stops first head).1, fun other below => (stops first head).2 other (Nat.le_trans below le)⟩

theorem stops_nil (level : Nat) : Stops level [] := heads_nil _

theorem stops_mark (level : Nat) (token : Token) (place : Nat) (others : List Placed)
    (mark : token = .closeParen ∨ token = .closeBracket ∨ token = .comma ∨ token = .assign) :
    Stops level ((token, place) :: others) := by
  refine (heads_cons _ token place others).mpr ?_
  obtain rfl | rfl | rfl | rfl := mark <;> refine ⟨⟨nofun, nofun⟩, fun inner _ => ?_⟩ <;> unfold operator? <;>
    split <;> trivial

theorem joins_level {level other : Nat} {sign : Token} {op found : BinaryOp} (joins : Joins level sign op)
    (same : Joins other sign found) : other = level := by
  cases joins <;> cases same <;> rfl

theorem stops_sign {level : Nat} {sign : Token} {op : BinaryOp} (joins : Joins (level + 1) sign op) (place : Nat)
    (others : List Placed) : Stops level ((sign, place) :: others) := by
  refine (heads_cons _ sign place others).mpr ⟨?_, ?_⟩
  · cases joins <;> exact ⟨nofun, nofun⟩
  · intro inner le
    cases known : operator? inner sign with
    | none => rfl
    | some found =>
        have same : inner = level + 1 := joins_level joins ((joins_iff inner sign found).mpr known)
        omega

def Begins (token : Token) : Prop :=
  (unaryOperator? token).isSome ∨ (atom? token).isSome ∨ token = .openParen ∨ token = .openBracket

theorem simple_begins {tokens : List Token} {expr : Expr} (simple : Simple tokens expr) :
    ∃ first others, tokens = first :: others ∧ Begins first ∧ unaryOperator? first = none := by
  cases simple with
  | number value => exact ⟨_, _, rfl, Or.inr (Or.inl rfl), rfl⟩
  | text value => exact ⟨_, _, rfl, Or.inr (Or.inl rfl), rfl⟩
  | bool value => exact ⟨_, _, rfl, Or.inr (Or.inl rfl), rfl⟩
  | name name => exact ⟨_, _, rfl, Or.inr (Or.inl rfl), rfl⟩
  | group inner => exact ⟨_, _, rfl, Or.inr (Or.inr (Or.inl rfl)), rfl⟩
  | array inner => exact ⟨_, _, rfl, Or.inr (Or.inr (Or.inr rfl)), rfl⟩

theorem application_begins {tokens : List Token} {expr : Expr} (applied : Application tokens expr) :
    ∃ first others, tokens = first :: others ∧ Begins first ∧ unaryOperator? first = none := by
  match applied with
  | .simple inner => exact simple_begins inner
  | .call callee _ =>
      obtain ⟨first, others, rfl, begins⟩ := simple_begins callee
      exact ⟨first, _, rfl, begins⟩
  | .index base _ _ =>
      obtain ⟨first, others, rfl, begins⟩ := application_begins base
      exact ⟨first, _, rfl, begins⟩

theorem operation_begins {level : Nat} {tokens : List Token} {expr : Expr} (derived : Operation level tokens expr) :
    ∃ first others, tokens = first :: others ∧ Begins first := by
  match derived with
  | .signed signs _ => exact ⟨_, _, rfl, Or.inl (by rw [(signs_iff _ _).mp signs]; rfl)⟩
  | .applied inner =>
      obtain ⟨first, others, rfl, begins, _⟩ := application_begins inner
      exact ⟨first, others, rfl, begins⟩
  | .operand inner => exact operation_begins inner
  | .joined before _ _ =>
      obtain ⟨first, others, rfl, begins⟩ := operation_begins before
      exact ⟨first, _, rfl, begins⟩

theorem items_begin {tokens : List Token} {exprs : List Expr} (derived : Items tokens exprs) :
    ∃ first others, tokens = first :: others ∧ Begins first := by
  cases derived with
  | last inner => exact operation_begins inner
  | more inner _ =>
      obtain ⟨first, others, rfl, begins⟩ := operation_begins inner
      exact ⟨first, _, rfl, begins⟩

theorem begins_open {token : Token} (begins : Begins token) (bracket : Bracket) : token ≠ bracket.close := by
  rintro rfl
  cases bracket <;> obtain sign | atom | same | same := begins
  all_goals contradiction

theorem spelt_between {used : List Placed} (first : List Token) {second : List Token} {sign : Token}
    (spelt : used.map Prod.fst = first ++ sign :: second) :
    ∃ before place behind, before.map Prod.fst = first ∧ behind.map Prod.fst = second ∧
      used = before ++ (sign, place) :: behind := by
  obtain ⟨before, others, rfl, spelt_before, spelt_others⟩ := List.map_eq_append_iff.mp spelt
  obtain ⟨⟨_, place⟩, behind, rfl, rfl, spelt_behind⟩ := List.map_eq_cons_iff.mp spelt_others
  exact ⟨before, place, behind, spelt_before, spelt_behind, rfl⟩

theorem spelt_within {used : List Placed} (first inside : List Token) {opening closing : Token}
    (spelt : used.map Prod.fst = first ++ opening :: (inside ++ [closing])) (rest : List Placed) :
    ∃ before start within stop, before.map Prod.fst = first ∧ within.map Prod.fst = inside ∧
      used ++ rest = before ++ (opening, start) :: (within ++ (closing, stop) :: rest) := by
  obtain ⟨before, start, behind, spelt_before, spelt_behind, rfl⟩ := spelt_between _ spelt
  obtain ⟨within, stop, after, spelt_within, spelt_after, rfl⟩ := spelt_between _ spelt_behind
  obtain rfl := List.map_eq_nil_iff.mp spelt_after
  exact ⟨before, start, within, stop, spelt_before, spelt_within, by simp⟩

variable (finish : Nat)

-- What is made of an expression of a level and the tokens behind it: operators of the level go on with it.
def GoesOn (level : Nat) (expr : Expr) (rest : List Placed) (whole : Expr) (last : List Placed) : Prop :=
  match level with
  | 0 => whole = expr ∧ last = rest
  | level + 1 => Leaves (chain finish level expr rest) whole last

theorem goes_no_further {level : Nat} {rest : List Placed} (expr : Expr) (stops : Stops level rest) :
    GoesOn finish level expr rest expr rest := by
  cases level with
  | zero => exact ⟨rfl, rfl⟩
  | succ level =>
      refine (leaves_chain_end finish level expr expr rest rest ?_).mpr ⟨rfl, rfl⟩
      intro first head
      exact (stops first head).2 (level + 1) (Nat.le_refl _)

theorem suffixes_stop {level : Nat} {rest : List Placed} (start : Nat) (expr : Expr) (stops : Stops level rest) :
    Leaves (suffixes finish start expr rest) expr rest := by
  refine (leaves_suffixes_end finish start expr expr rest rest ?_).mpr ⟨rfl, rfl⟩
  intro first head
  exact (stops first head).1

mutual

theorem operation_complete {level : Nat} {tokens : List Token} {expr : Expr} (derived : Operation level tokens expr)
    (used rest : List Placed) (spelt : used.map Prod.fst = tokens) (stops : Stops (level - 1) rest) (whole : Expr)
    (last : List Placed) (further : GoesOn finish level expr rest whole last) :
    Leaves (binary finish level (used ++ rest)) whole last := by
  match derived with
  | .signed signs inner =>
      obtain ⟨⟨_, place⟩, others, rfl, rfl, spelt_others⟩ := List.map_eq_cons_iff.mp spelt
      have operand := operation_complete inner others rest spelt_others stops _ rest ⟨rfl, rfl⟩
      rw [further.1, further.2]
      rw [leaves_unary] at operand ⊢
      exact (leaves_signed finish _ place _ rest _ _ ((signs_iff _ _).mp signs)).mpr ⟨_, operand, rfl⟩
  | .applied inner =>
      have taken := application_complete inner used rest spelt expr rest (suffixes_stop finish _ expr stops)
      rw [further.1, further.2, leaves_unary]
      refine (leaves_unsigned finish _ rest expr ?_).mpr taken
      obtain ⟨first, others, rfl, _, unsigned⟩ := application_begins inner
      obtain ⟨⟨_, place⟩, more, rfl, rfl, _⟩ := List.map_eq_cons_iff.mp spelt
      exact (heads_cons _ _ place _).mpr unsigned
  | .operand inner =>
      have within := operation_complete inner used rest spelt (stops_le stops (Nat.sub_le _ _)) expr rest
        (goes_no_further finish expr stops)
      exact (leaves_level finish _ _ last whole).mpr ⟨expr, rest, within, further⟩
  | .joined before joins after =>
      obtain ⟨first, place, second, spelt_first, spelt_second, rfl⟩ := spelt_between _ spelt
      rw [List.append_assoc, List.cons_append]
      refine operation_complete before first _ spelt_first (stops_sign joins place _) whole last ?_
      have operand := operation_complete after second rest spelt_second (stops_le stops (Nat.sub_le _ _)) _ rest
        (goes_no_further finish _ stops)
      exact (leaves_chain finish _ _ whole _ place _ last _ ((joins_iff _ _ _).mp joins)).mpr
        ⟨_, rest, operand, further⟩

theorem application_complete {tokens : List Token} {expr : Expr} (derived : Application tokens expr)
    (used rest : List Placed) (spelt : used.map Prod.fst = tokens) (whole : Expr) (last : List Placed)
    (further : Leaves (suffixes finish (column finish (used ++ rest)) expr rest) whole last) :
    Leaves (applied finish (used ++ rest)) whole last := by
  match derived with
  | .simple inner =>
      exact (leaves_applied finish _ last whole).mpr ⟨expr, rest, simple_complete inner used rest spelt, further⟩
  | .call callee given =>
      obtain ⟨before, start, within, stop, spelt_before, spelt_within, same⟩ := spelt_within _ _ spelt rest
      rw [same] at further ⊢
      refine (leaves_applied finish _ last whole).mpr ⟨_, _, simple_complete callee before _ spelt_before, ?_⟩
      have listed := listing_complete given .round within rest spelt_within stop
      exact (leaves_called finish _ _ whole start _ last).mpr ⟨_, rfl, _, rest, listed, further⟩
  | .index base given count =>
      obtain ⟨before, start, within, stop, spelt_before, spelt_within, same⟩ := spelt_within _ _ spelt rest
      rw [same] at further ⊢
      refine application_complete base before _ spelt_before whole last ?_
      have listed := listing_complete given .square within rest spelt_within stop
      exact (leaves_indexed finish _ _ whole start _ last).mpr ⟨_, rest, listed, count, further⟩

theorem simple_complete {tokens : List Token} {expr : Expr} (derived : Simple tokens expr) (used rest : List Placed)
    (spelt : used.map Prod.fst = tokens) : Leaves (simple finish (used ++ rest)) expr rest := by
  have atom (token : Token) (single : used.map Prod.fst = [token]) (known : atom? token = some expr) :
      Leaves (simple finish (used ++ rest)) expr rest := by
    obtain ⟨⟨_, place⟩, rfl, rfl⟩ := List.map_eq_singleton_iff.mp single
    exact (leaves_atom finish _ place rest rest expr expr known).mpr ⟨rfl, rfl⟩
  match derived with
  | .number value => exact atom _ spelt rfl
  | .text value => exact atom _ spelt rfl
  | .bool value => exact atom _ spelt rfl
  | .name name => exact atom _ spelt rfl
  | .group inner =>
      obtain ⟨before, start, within, stop, spelt_before, spelt_within, same⟩ := spelt_within [] _ spelt rest
      obtain rfl := List.map_eq_nil_iff.mp spelt_before
      rw [same, List.nil_append]
      have mark := stops_mark 6 .closeParen stop rest (Or.inl rfl)
      have found := operation_complete inner within _ spelt_within (stops_le mark (Nat.sub_le _ _)) expr _
        (goes_no_further finish expr mark)
      exact (leaves_group finish start _ rest expr).mpr ⟨_, stop, found, rfl⟩
  | .array inner =>
      obtain ⟨before, start, within, stop, spelt_before, spelt_within, same⟩ := spelt_within [] _ spelt rest
      obtain rfl := List.map_eq_nil_iff.mp spelt_before
      rw [same, List.nil_append]
      have listed := listing_complete inner .square within rest spelt_within stop
      exact (leaves_array finish start _ rest _).mpr ⟨_, listed, rfl⟩

theorem listing_complete {tokens : List Token} {exprs : List Expr} (derived : Listing tokens exprs)
    (bracket : Bracket) (used rest : List Placed) (spelt : used.map Prod.fst = tokens) (stop : Nat) :
    Leaves (items finish bracket (used ++ (bracket.close, stop) :: rest)) exprs rest := by
  match derived with
  | .empty =>
      obtain rfl := List.map_eq_nil_iff.mp spelt
      exact (leaves_no_items finish bracket stop rest rest []).mpr ⟨rfl, rfl⟩
  | .items inner =>
      refine (leaves_items finish bracket _ rest exprs ?_).mpr (items_complete inner bracket used rest spelt stop)
      obtain ⟨first, others, rfl, begins⟩ := items_begin inner
      obtain ⟨⟨_, place⟩, more, rfl, rfl, _⟩ := List.map_eq_cons_iff.mp spelt
      exact (heads_cons _ _ place _).mpr (begins_open begins bracket)

theorem items_complete {tokens : List Token} {exprs : List Expr} (derived : Items tokens exprs)
    (bracket : Bracket) (used rest : List Placed) (spelt : used.map Prod.fst = tokens) (stop : Nat) :
    Leaves (moreItems finish bracket (used ++ (bracket.close, stop) :: rest)) exprs rest := by
  match derived with
  | .last inner =>
      have mark := stops_mark 6 bracket.close stop rest (by cases bracket <;> simp [Bracket.close])
      have found := operation_complete inner used _ spelt (stops_le mark (Nat.sub_le _ _)) _ _
        (goes_no_further finish _ mark)
      exact (leaves_more finish bracket _ rest _).mpr ⟨_, _, found, Or.inr ⟨rfl, stop, rfl⟩⟩
  | .more inner others =>
      obtain ⟨before, comma, behind, spelt_before, spelt_behind, rfl⟩ := spelt_between _ spelt
      rw [List.append_assoc, List.cons_append]
      have mark := stops_mark 6 .comma comma (behind ++ (bracket.close, stop) :: rest) (by simp)
      have found := operation_complete inner before _ spelt_before (stops_le mark (Nat.sub_le _ _)) _ _
        (goes_no_further finish _ mark)
      have listed := items_complete others bracket behind rest spelt_behind stop
      exact (leaves_more finish bracket _ rest _).mpr ⟨_, _, found, Or.inl ⟨comma, _, _, rfl, listed, rfl⟩⟩

end

theorem assignment_complete {tokens : List Token} {expr : Expr} (derived : Assignment tokens expr)
    (used : List Placed) (spelt : used.map Prod.fst = tokens) : Leaves (assignment finish used) expr [] := by
  induction derived generalizing used with
  | plain inner =>
      have found := operation_complete finish inner used [] spelt (stops_nil _) _ []
        (goes_no_further finish _ (stops_nil 6))
      rw [List.append_nil] at found
      exact (leaves_assignment finish used [] _).mpr ⟨_, [], found, Or.inr ⟨heads_nil _, rfl, rfl⟩⟩
  | assign place before after ih =>
      obtain ⟨target, sign, value, spelt_target, spelt_value, rfl⟩ := spelt_between _ spelt
      have mark := stops_mark 6 .assign sign value (by simp)
      have found := operation_complete finish before target _ spelt_target (stops_le mark (Nat.sub_le _ _)) _ _
        (goes_no_further finish _ mark)
      exact (leaves_assignment finish _ [] _).mpr
        ⟨_, _, found, Or.inl ⟨sign, value, _, rfl, (place_iff _).mp place, ih value spelt_value, rfl⟩⟩

end Flowline.Label
