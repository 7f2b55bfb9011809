import Flowline.Proofs.Label.Parses
import Flowline.Proofs.Label.Parts

set_option autoImplicit false

namespace Flowline.Label

open Grammar

def Mentions (word source : String) : Prop := ∃ tokens, Scans source tokens ∧ .name word ∈ tokens

-- What holds of an expression that has no assignment in it, as it holds of its parts and of the names that are known.
structure Built (known : String → Prop) (good : Expr → Prop) : Prop where
  number : ∀ value, good (.number value)
  text : ∀ value, good (.text value)
  bool : ∀ value, good (.bool value)
  var : ∀ name, known name → good (.var name)
  array : ∀ items, (∀ item ∈ items, good item) → good (.array items)
  unary : ∀ op operand, good operand → good (.unary op operand)
  binary : ∀ op left right, good left → good right → good (.binary op left right)
  call : ∀ name args, good (.var name) → (∀ arg ∈ args, good arg) → good (.call name args)
  index : ∀ target indices, good target → (∀ index ∈ indices, good index) → good (.index target indices)

def Knows (known : String → Prop) (tokens : List Token) : Prop := ∀ name, .name name ∈ tokens → known name

section Knows

variable {known : String → Prop}

theorem knows_cons {token : Token} {tokens : List Token} (knows : Knows known (token :: tokens)) :
    Knows known tokens := fun name member => knows name (List.mem_cons_of_mem token member)

theorem knows_append {before behind : List Token} (knows : Knows known (before ++ behind)) :
    Knows known before ∧ Knows known behind :=
  ⟨fun name member => knows name (List.mem_append_left behind member),
    fun name member => knows name (List.mem_append_right before member)⟩

theorem knows_inside {before inside : List Token} {opening closing : Token}
    (knows : Knows known (before ++ opening :: (inside ++ [closing]))) : Knows known before ∧ Knows known inside := by
  obtain ⟨first, second⟩ := knows_append knows
  exact ⟨first, (knows_append (knows_cons second)).1⟩

end Knows

namespace Built

variable {known : String → Prop} {good : Expr → Prop}

mutual

theorem operation_good (built : Built known good) {level : Nat} {tokens : List Token} {expr : Expr}
    (derived : Operation level tokens expr) (knows : Knows known tokens) : good expr := by
  match derived with
  | .signed signs inner => exact built.unary _ _ (operation_good built inner (knows_cons knows))
  | .applied inner => exact application_good built inner knows
  | .operand inner => exact operation_good built inner knows
  | .joined before joins after =>
      obtain ⟨first, second⟩ := knows_append knows
      exact built.binary _ _ _ (operation_good built before first) (operation_good built after (knows_cons second))

theorem application_good (built : Built known good) {tokens : List Token} {expr : Expr}
    (derived : Application tokens expr) (knows : Knows known tokens) : good expr := by
  match derived with
  | .simple inner => exact simple_good built inner knows
  | .call callee given =>
      obtain ⟨first, second⟩ := knows_inside knows
      exact built.call _ _ (simple_good built callee first) (listing_good built given second)
  | .index base given count =>
      obtain ⟨first, second⟩ := knows_inside knows
      exact built.index _ _ (application_good built base first) (listing_good built given second)

theorem simple_good (built : Built known good) {tokens : List Token} {expr : Expr} (derived : Simple tokens expr)
    (knows : Knows known tokens) : good expr := by
  match derived with
  | .number value => exact built.number value
  | .text value => exact built.text value
  | .bool value => exact built.bool value
  | .name name => exact built.var name (knows name List.mem_cons_self)
  | .group inner => exact operation_good built inner (knows_append (knows_cons knows)).1
  | .array inner => exact built.array _ (listing_good built inner (knows_append (knows_cons knows)).1)

theorem listing_good (built : Built known good) {tokens : List Token} {exprs : List Expr}
    (derived : Listing tokens exprs) (knows : Knows known tokens) : ∀ expr ∈ exprs, good expr := by
  match derived with
  | .empty => exact nofun
  | .items inner => exact items_good built inner knows

theorem items_good (built : Built known good) {tokens : List Token} {exprs : List Expr} (derived : Items tokens exprs)
    (knows : Knows known tokens) : ∀ expr ∈ exprs, good expr := by
  match derived with
  | .last inner => exact List.forall_mem_singleton.mpr (operation_good built inner knows)
  | .more first rest =>
      obtain ⟨before, behind⟩ := knows_append knows
      exact List.forall_mem_cons.mpr ⟨operation_good built first before, items_good built rest (knows_cons behind)⟩

end

section Labels

variable {whole : Expr → Prop} (built : Built known good) (plain : ∀ expr, good expr → whole expr)
  (assigns : ∀ target value, good target → whole value → whole (.assign target value))

include built plain assigns in
theorem assignment_good {tokens : List Token} {expr : Expr} (derived : Assignment tokens expr)
    (knows : Knows known tokens) : whole expr := by
  induction derived with
  | plain inner => exact plain _ (built.operation_good inner knows)
  | assign place before after ih =>
      obtain ⟨first, second⟩ := knows_append knows
      exact assigns _ _ (built.operation_good before first) (ih (knows_cons second))

variable {source : String} (names : ∀ name, Mentions name source → known name)

include names in
theorem scans_knows {tokens : List Token} (scans : Scans source tokens) : Knows known tokens :=
  fun name member => names name ⟨tokens, scans, member⟩

include built plain assigns names in
theorem expr_good (expr : Expr) (parsed : parseExpr source = .ok expr) : whole expr := by
  obtain ⟨tokens, scans, derived⟩ :=
    (read_by Assignment (fun finish tokens => whole_expr finish tokens expr) source).mp parsed
  exact built.assignment_good plain assigns derived (scans_knows names scans)

include built plain assigns names in
theorem parsed_assignment_good (expr : Expr) (parsed : parseAssignment source = .ok expr) : whole expr := by
  obtain ⟨tokens, scans, derived, _⟩ :=
    (read_by (fun tokens expr => Assignment tokens expr ∧ ∃ target value, expr = .assign target value)
      (fun finish tokens => whole_assignment finish tokens expr) source).mp parsed
  exact built.assignment_good plain assigns derived (scans_knows names scans)

include built names in
theorem target_good (expr : Expr) (parsed : parseTarget source = .ok expr) : good expr := by
  obtain ⟨tokens, scans, derived, _⟩ :=
    (read_by (fun tokens expr => Operation 6 tokens expr ∧ Place expr)
      (fun finish tokens => whole_target finish tokens expr) source).mp parsed
  exact built.operation_good derived (scans_knows names scans)

include built names in
theorem call_good (parts : ∀ expr, good expr → ∀ part ∈ expr.parts, good part) (name : String) (args : List Expr)
    (parsed : parseCall source = .ok (name, args)) : ∀ arg ∈ args, good arg := by
  obtain ⟨tokens, scans, called | ⟨_, bare⟩⟩ := call_derived source name args parsed
  · exact parts _ (built.operation_good called (scans_knows names scans))
  · rw [bare]
    exact nofun

end Labels

end Built

theorem plain_built : Built (fun _ => True) Expr.Plain where
  number := fun _ => trivial
  text := fun _ => trivial
  bool := fun _ => trivial
  var := fun _ _ => trivial
  array := fun items => (all_plain_iff items).mpr
  unary := fun _ _ operand => operand
  binary := fun _ _ _ left right => ⟨left, right⟩
  call := fun _ args _ => (all_plain_iff args).mpr
  index := fun _ indices target each => ⟨target, (all_plain_iff indices).mpr each⟩

theorem avoids_built (word : String) : Built (· ≠ word) (Expr.Avoids word) where
  number := fun _ => trivial
  text := fun _ => trivial
  bool := fun _ => trivial
  var := fun _ other => other
  array := fun items => (all_avoid_iff word items).mpr
  unary := fun _ _ operand => operand
  binary := fun _ _ _ left right => ⟨left, right⟩
  call := fun _ args callee each => ⟨callee, (all_avoid_iff word args).mpr each⟩
  index := fun _ indices target each => ⟨target, (all_avoid_iff word indices).mpr each⟩

theorem call_args_plain (source name : String) (args : List Expr) (parsed : parseCall source = .ok (name, args)) :
    ∀ arg ∈ args, arg.Plain := plain_built.call_good (fun _ _ => trivial) plain_parts name args parsed

theorem target_plain (source : String) (target : Expr) (parsed : parseTarget source = .ok target) : target.Plain :=
  plain_built.target_good (fun _ _ => trivial) target parsed

section Unnamed

variable {word source : String} (unnamed : ¬ Mentions word source)

include unnamed

theorem mentions_apart (name : String) (mentions : Mentions name source) : name ≠ word :=
  fun same => unnamed (same ▸ mentions)

theorem parse_expr_avoids (expr : Expr) (parsed : parseExpr source = .ok expr) : expr.Avoids word :=
  (avoids_built word).expr_good (fun _ avoids => avoids) (fun _ _ target value => ⟨target, value⟩)
    (mentions_apart unnamed) expr parsed

theorem parse_assignment_avoids (expr : Expr) (parsed : parseAssignment source = .ok expr) : expr.Avoids word :=
  (avoids_built word).parsed_assignment_good (fun _ avoids => avoids) (fun _ _ target value => ⟨target, value⟩)
    (mentions_apart unnamed) expr parsed

theorem parse_target_avoids (expr : Expr) (parsed : parseTarget source = .ok expr) : expr.Avoids word :=
  (avoids_built word).target_good (mentions_apart unnamed) expr parsed

theorem parse_call_avoids (name : String) (args : List Expr) (parsed : parseCall source = .ok (name, args)) :
    ∀ arg ∈ args, arg.Avoids word :=
  (avoids_built word).call_good (mentions_apart unnamed) (avoids_parts word) name args parsed

end Unnamed

end Flowline.Label
