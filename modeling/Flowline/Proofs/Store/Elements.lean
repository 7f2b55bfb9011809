import Flowline.Proofs.Store.Assign
import Flowline.Proofs.Store.Growth
import Flowline.Proofs.Store.Locations

set_option autoImplicit false

namespace Flowline

open Label (Expr)

namespace Environment

def slotAt (env : Environment) (height : Nat) (name : String) : Slot :=
  match env.bindingAt height name with
  | some binding => binding.slot height name
  | none => .own height name

-- A variable has another value, under all names that stand for it and under no other ones. One that was not known is
-- known in the innermost scope.
structure Assigned (name : String) (value : Value) (before after : Environment) : Prop where
  depth : after.depth = before.depth
  slots : ∀ height asked, after.slotAt height asked = before.slotAt height asked
  values : ∀ height asked, after.valueAt height asked =
    if before.slotAt height asked = before.home name then some value else before.valueAt height asked

section Setting

variable (env : Environment) (name : String) (value : Value)

theorem value_content (rooted : env.Rooted) (height : Nat) (asked : String) :
    env.valueAt height asked = env.content (env.slotAt height asked) := by
  unfold valueAt slotAt
  cases held : env.bindingAt height asked with
  | none => simp [content, held]
  | some binding =>
      cases binding with
      | own value => simp [Binding.slot, content, held, valueOf, Binding.own?]
      | shared cell =>
          have below := binding_rooted env asked rooted height cell held
          simp [Binding.slot, content, valueOf, below]

theorem slot_set (height : Nat) (asked : String) : (env.set name value).slotAt height asked = env.slotAt height asked := by
  rcases set_cases env name value with ⟨_, cell, _, set⟩ | ⟨place, old, found, inner, set⟩ | ⟨missing, set⟩
  · rw [set]
    rfl
  · rw [set]
    simp only [slotAt, binding_rebind env name _ place found]
    by_cases here : height = place ∧ asked = name
    · rw [if_pos here, here.1, here.2, inner.1]
      rfl
    · rw [if_neg here]
  · rw [set]
    simp only [slotAt, binding_define env name]
    by_cases here : height + 1 = env.depth ∧ asked = name
    · rw [if_pos here, here.2, (lookup_none_iff env name).mp missing height]
      rfl
    · rw [if_neg here]

theorem assigned_set (rooted : env.Rooted) : Assigned name value env (env.set name value) where
  depth := depth_set env name value
  slots := slot_set env name value
  values := by
    intro height asked
    rw [value_content _ (set_rooted env name value rooted), slot_set, content_set env rooted,
      ← value_content env rooted]

end Setting

end Environment

-- An item is written to one array. All arrays that were there before it was opened are the same, but for that item.
structure Puts (before opened after : Store) (ref : Nat) (places : List Nat) (value : Value) (old new : Storage) :
    Prop where
  held : opened.heap.storage? ref = some old
  written : old.write places value = (.ok (), new)
  seen : after.heap.storage? ref = some new
  others : ∀ other, other ≠ ref → after.heap.storage? other = opened.heap.storage? other
  older : ∀ other storage, before.heap.storage? other = some storage → opened.heap.storage? other = some storage
  env : after.env = opened.env
  holders : ∀ height name, before.env.valueAt height name = some (.array ref) →
    after.env.valueAt height name = some (.array ref)
  items : ∀ other place, (other = ref → place ≠ places) → before.heap.read other place = .ok (.array ref) →
    after.heap.read other place = .ok (.array ref)
  reads : ∀ place, after.heap.read ref place = new.read place

-- The array that an item is written to: the one that the base denotes, or a new one with as many dimensions as there
-- are indices, which a variable without a value has become.
inductive Opens (registry : Registry) (base : Expr) (places : List Nat) (before reached opened : Store) (ref : Nat)
    (old : Storage) : Prop where
  | denoted (assigned : ¬ Unassigned before.env base)
      (found : evaluate registry base reached = (.ok (.array ref), opened)) (env : opened.env = before.env)
  | created (name : String) (variable_base : base = .var name)
      (unknown : before.env.get? name = none ∨ before.env.get? name = some .undefined)
      (fresh : before.heap.storage? ref = none) (empty : old = .empty places.length)
      (rank : old.rank = places.length) (becomes : Environment.Assigned name (.array ref) before.env opened.env)
      (valued : opened.env.get? name = some (.array ref))

section Items

variable {registry : Registry} {base : Expr} {indices : List Expr} {value : Value} {before reached opened after : Store}
  {ref : Nat} {places : List Nat}

theorem puts_of_write (older : ∀ other storage, before.heap.storage? other = some storage →
      opened.heap.storage? other = some storage)
    (holders : ∀ height name, before.env.valueAt height name = some (.array ref) →
      opened.env.valueAt height name = some (.array ref))
    (written : Action.writeItem ref places value opened = (.ok (), after)) :
    ∃ old new, Puts before opened after ref places value old new := by
  have outcome : (opened.heap.write ref places value).1 = .ok () := congrArg Prod.fst written
  have heap : (opened.heap.write ref places value).2 = after.heap := congrArg (fun run => run.2.heap) written
  have env : opened.env = after.env := congrArg (fun run => run.2.env) written
  obtain ⟨old, new, held, stored, seen, others⟩ := opened.heap.write_ok ref places value after.heap (Prod.ext outcome heap)
  refine ⟨old, new, held, stored, seen, others, older, env.symm, ?_, ?_, ?_⟩
  · intro height name
    rw [← env]
    exact holders height name
  · intro other place apart found
    obtain ⟨storage, known, item⟩ := (before.heap.read_ok other place (.array ref)).mp found
    rw [Heap.read_ok]
    by_cases same : other = ref
    · subst same
      have same := Option.some.inj ((older other storage known).symm.trans held)
      subst same
      exact ⟨new, seen, (Storage.grown storage new places value stored).kept place _ (apart rfl) item⟩
    · exact ⟨storage, (others other same).trans (older other storage known), item⟩
  · intro place
    simp only [Heap.read, seen]

theorem item_denoted (plain : base.Plain) (quiet : Quiet before reached)
    (assigned : ¬ Unassigned reached.env base) (found : evaluate registry base reached = (.ok (.array ref), opened))
    (written : Action.writeItem ref places value opened = (.ok (), after)) :
    ∃ old new, Puts before opened after ref places value old new ∧
      Opens registry base places before reached opened ref old := by
  have later := evaluate_quiet registry base plain reached
  rw [found] at later
  have whole := quiet.trans _ _ _ later
  obtain ⟨old, new, puts⟩ := puts_of_write whole.kept (fun height name held => by rw [whole.env]; exact held) written
  rw [quiet.env] at assigned
  exact ⟨old, new, puts, .denoted assigned found whole.env⟩

theorem item_created (name : String) (rooted : before.env.Rooted) (quiet : Quiet before reached)
    (unknown : reached.env.get? name = none ∨ reached.env.get? name = some .undefined)
    (written : Action.writeItem reached.heap.size places value (reached.withArray name places.length) =
      (.ok (), after)) :
    ∃ old new, Puts before (reached.withArray name places.length) after reached.heap.size places value old new ∧
      Opens registry (.var name) places before reached (reached.withArray name places.length) reached.heap.size
        old := by
  rw [← quiet.env] at rooted
  have becomes : Environment.Assigned name (.array reached.heap.size) before.env
      (reached.withArray name places.length).env := by
    rw [← quiet.env]
    exact reached.env.assigned_set name (.array reached.heap.size) rooted
  have valued := reached.env.get_set name (.array reached.heap.size) rooted
  have fresh : before.heap.storage? reached.heap.size = none := by
    cases known : before.heap.storage? reached.heap.size with
    | none => rfl
    | some storage => exact absurd (quiet.kept _ storage known) (by simp [Heap.storage?, Heap.size])
  obtain ⟨old, new, puts⟩ := puts_of_write
    (fun other storage known => reached.heap.storage_older _ storage other (quiet.kept other storage known))
    (fun height asked held => by
      rw [becomes.values]
      split
      · rfl
      · exact held) written
  have empty : old = .empty places.length :=
    Option.some.inj (puts.held.symm.trans (reached.heap.storage_allocated (.empty places.length)))
  have rank : old.rank = places.length := (Storage.grown old new places value puts.written).count.symm
  rw [quiet.env] at unknown
  exact ⟨old, new, puts, .created name rfl unknown fresh empty rank becomes valued⟩

end Items

/-- An assignment to an item that succeeds has indices with values and writes one array, in which nothing but that
item is new and the gap in front of it. It is the array that the base denotes or, if that is a variable without a
value, a new array with as many dimensions as there are indices, which becomes the value of the variable: in the scope
that owns it, through the cell that it shares, or else in the innermost scope. All other arrays and variables are as
they were, and whatever held the array still holds it. -/
theorem item_assigned (registry : Registry) (source : String) (base : Expr) (indices : List Expr) (value : Value)
    (before after : Store) (parsed : Label.parseTarget source = .ok (.index base indices))
    (rooted : before.env.Rooted) (done : assign registry (.index base indices) value before = (.ok (), after)) :
    ∃ places reached opened ref old new,
      evaluateIndices registry indices before = (.ok places, reached) ∧
        Puts before opened after ref places value old new ∧
          Opens registry base places before reached opened ref old := by
  have plain := Label.target_plain source (.index base indices) parsed
  have quiet := evaluate_indices_quiet registry indices ((Label.all_plain_iff indices).mp plain.2) before
  rw [assign_index] at done
  obtain ⟨places, reached, evaluated, rest⟩ := bind_done _ _ _ _ _ done
  obtain ⟨ref, opened, opening, written⟩ := bind_done _ _ _ _ _ rest
  rw [evaluated] at quiet
  rcases reach_cases registry base places.length reached opened ref opening with
    ⟨assigned, found⟩ | ⟨name, rfl, unknown, rfl, rfl⟩
  · obtain ⟨old, new, puts, opens⟩ := item_denoted plain.1 quiet assigned found written
    exact ⟨places, reached, opened, ref, old, new, evaluated, puts, opens⟩
  · obtain ⟨old, new, puts, opens⟩ := item_created name rooted quiet unknown written
    exact ⟨places, reached, _, _, old, new, evaluated, puts, opens⟩

theorem item_assigned_unknown : ∃ base indices after, Label.parseTarget "a[1]" = .ok (.index base indices) ∧
    (Store.initial 0).env.Rooted ∧
      assign .standard (.index base indices) (.bool true) (.initial 0) = (.ok (), after) ∧
        ∃ places reached opened ref old new,
          evaluateIndices .standard indices (.initial 0) = (.ok places, reached) ∧
            Puts (.initial 0) opened after ref places (.bool true) old new ∧
              Opens .standard base places (.initial 0) reached opened ref old := by
  have runs : (assigned? "a[1]" (.bool true) (.initial 0)).map (fun run => (run.1, run.2.heap.size)) =
      some (.ok (), 1) := by decide +kernel
  obtain ⟨⟨outcome, after⟩, known, same⟩ := Option.map_eq_some_iff.mp runs
  obtain ⟨target, parsed, done⟩ := assigned_run "a[1]" (.bool true) (.initial 0) _ known
  have succeeds : outcome = .ok () := congrArg Prod.fst same
  have grown : after.heap.size = 1 := congrArg Prod.snd same
  rw [succeeds] at done
  cases target with
  | var name =>
      rw [assign] at done
      cases done
      cases grown
  | index base indices =>
      exact ⟨base, indices, after, parsed, Environment.empty_env_rooted, done,
        item_assigned .standard "a[1]" base indices (.bool true) (.initial 0) after parsed
          Environment.empty_env_rooted done⟩
  | _ =>
      simp only [assign] at done
      cases done

end Flowline
