import Flowline.Proofs.Store.Assign
import Flowline.Proofs.Store.Growth

set_option autoImplicit false

namespace Flowline

open Label (Expr)

namespace Storage

-- A write that makes rows in a grid to reach one that cannot be long enough.
inductive Overgrows : Storage → List Nat → Prop where
  | rows (rows : Array (Array Value)) (row index : Nat) (new : rows.size ≤ row) (room : row < maxLength)
      (far : maxLength ≤ index) : Overgrows (.grid rows) [row, index]

section Writing

variable {after : Storage} {indices : List Nat} {value : Value} {fault : Fault}

theorem failed_list (items : Array Value) (failed : (Storage.list items).write indices value = (.error fault, after)) :
    after = .list items := by
  match indices with
  | [] => exact (congrArg Prod.snd failed).symm
  | [index] =>
      simp only [write] at failed
      cases reached : reaching Value.undefined items index with
      | error far =>
          rw [reached] at failed
          exact (congrArg Prod.snd failed).symm
      | ok longer =>
          rw [reached] at failed
          cases failed
  | _ :: _ :: _ => exact (congrArg Prod.snd failed).symm

theorem failed_grid (rows : Array (Array Value))
    (failed : (Storage.grid rows).write indices value = (.error fault, after)) :
    (after = .grid rows ∧ ¬ (Storage.grid rows).Overgrows indices) ∨
      ∃ row index, indices = [row, index] ∧ row < max rows.size maxLength ∧
        max (rows.getD row #[]).size maxLength ≤ index ∧
        after = .grid (rows ++ Array.replicate (row + 1 - rows.size) #[]) := by
  match indices with
  | [] => exact Or.inl ⟨(congrArg Prod.snd failed).symm, by rintro ⟨⟩⟩
  | [_] => exact Or.inl ⟨(congrArg Prod.snd failed).symm, by rintro ⟨⟩⟩
  | [row, index] =>
      simp only [write] at failed
      cases reached : reaching #[] rows row with
      | error far =>
          rw [reached] at failed
          have high := ((reaching_error #[] rows row far).mp reached).1
          refine Or.inl ⟨(congrArg Prod.snd failed).symm, fun overgrows => ?_⟩
          cases overgrows with
          | rows _ _ _ new room _ => omega
      | ok longer =>
          obtain ⟨near, rfl⟩ := (reaching_ok #[] rows row longer).mp reached
          rw [reached] at failed
          simp only [row_reached] at failed
          cases within : reaching Value.undefined (rows.getD row #[]) index with
          | ok items =>
              rw [within] at failed
              cases failed
          | error far =>
              rw [within] at failed
              have high := ((reaching_error Value.undefined (rows.getD row #[]) index far).mp within).1
              exact Or.inr ⟨row, index, rfl, near, high, (congrArg Prod.snd failed).symm⟩
  | _ :: _ :: _ :: _ => exact Or.inl ⟨(congrArg Prod.snd failed).symm, by rintro ⟨⟩⟩

theorem rows_added (rows : Array (Array Value)) (row : Nat) :
    rows ++ Array.replicate (row + 1 - rows.size) #[] = rows ↔ row < rows.size := by
  constructor
  · intro same
    have sizes := congrArg Array.size same
    rw [Array.size_append, Array.size_replicate] at sizes
    omega
  · intro old
    have none_added : row + 1 - rows.size = 0 := Nat.sub_eq_zero_of_le old
    rw [none_added, Array.replicate_zero, Array.append_empty]

theorem failed_write (storage after : Storage) (indices : List Nat) (value : Value) (fault : Fault)
    (failed : storage.write indices value = (.error fault, after)) :
    after = storage ↔ ¬ storage.Overgrows indices := by
  cases storage with
  | list items => exact iff_of_true (failed_list items failed) (by rintro ⟨⟩)
  | grid rows =>
      rcases failed_grid rows failed with ⟨same, calm⟩ | ⟨row, index, rfl, near, far, rfl⟩
      · exact iff_of_true same calm
      · rw [Storage.grid.injEq, rows_added]
        constructor
        · rintro old ⟨⟩
          omega
        · intro calm
          by_contra new
          exact calm (.rows rows row index (by omega) (by omega) (by omega))

end Writing

end Storage

example : (Storage.empty 2).write [0, Storage.maxLength] .undefined =
    (.error (.arrayTooLarge Storage.maxLength Storage.maxLength), .grid #[#[]]) := rfl

-- An assignment changes something before it can fail: a variable becomes an array, or a grid gets rows.
def Leaves (registry : Registry) (before : Store) : Expr → Prop
  | .index base indices =>
      ∃ places reached, evaluateIndices registry indices before = (.ok places, reached) ∧
        (Unassigned before.env base ∨
          ∃ ref opened storage, evaluate registry base reached = (.ok (.array ref), opened) ∧
            before.heap.storage? ref = some storage ∧ storage.Overgrows places)
  | _ => False

section Items

variable {before opened after : Store} {ref : Nat} {places : List Nat} {value : Value} {fault : Fault}

theorem failed_item (quiet : Quiet before opened)
    (failed : Action.writeItem ref places value opened = (.error fault, after)) :
    Quiet before after ↔ ¬ ∃ storage, before.heap.storage? ref = some storage ∧ storage.Overgrows places := by
  have outcome : (opened.heap.write ref places value).1 = .error fault := congrArg Prod.fst failed
  have left : { opened with heap := (opened.heap.write ref places value).2 } = after := congrArg Prod.snd failed
  rw [← left]
  cases found : opened.heap.storage? ref with
  | none =>
      rw [Heap.write_missing opened.heap ref places value found]
      refine ⟨fun _ ⟨storage, known, _⟩ => ?_, fun _ => quiet⟩
      exact absurd ((quiet.kept ref storage known).symm.trans found) (Option.some_ne_none storage)
  | some storage =>
      rw [Heap.write_found opened.heap ref places value storage found] at outcome ⊢
      have same := storage.failed_write (storage.write places value).2 places value fault (Prod.ext outcome rfl)
      have written := Heap.storage_set_self opened.heap ref storage (storage.write places value).2 found
      constructor
      · rintro still ⟨old, known, overgrows⟩
        have stayed : old = storage := Option.some.inj ((quiet.kept ref old known).symm.trans found)
        subst stayed
        exact same.mp (Option.some.inj (written.symm.trans (still.kept ref old known))) overgrows
      · intro calm
        refine ⟨quiet.env, fun other old known => ?_⟩
        have kept := quiet.kept other old known
        by_cases here : other = ref
        · subst here
          have stayed : storage = old := Option.some.inj (found.symm.trans kept)
          subst stayed
          exact written.trans (congrArg some (same.mpr fun overgrows => calm ⟨storage, known, overgrows⟩))
        · exact (opened.heap.storage_set ref _ other here).trans kept

theorem made_item (name : String) (rank : Nat) (rooted : before.env.Rooted)
    (unknown : before.env.get? name = none ∨ before.env.get? name = some .undefined)
    (written : Action.writeItem ref places value (before.withArray name rank) = (.error fault, after)) :
    after.env ≠ before.env := by
  intro still
  have made : before.env.set name (.array before.heap.size) = after.env := congrArg (fun run => run.2.env) written
  have seen := before.env.get_set name (.array before.heap.size) rooted
  rw [made, still] at seen
  rcases unknown with missing | undefined
  · rw [missing] at seen
    cases seen
  · rw [undefined] at seen
    cases seen

end Items

section Places

variable {registry : Registry} {base : Expr} {indices : List Expr} {value : Value} {before reached after : Store}
  {fault : Fault} {places : List Nat}

theorem leaves_iff (evaluated : evaluateIndices registry indices before = (.ok places, reached)) :
    Leaves registry before (.index base indices) ↔ Unassigned before.env base ∨
      ∃ ref opened storage, evaluate registry base reached = (.ok (.array ref), opened) ∧
        before.heap.storage? ref = some storage ∧ storage.Overgrows places := by
  constructor
  · rintro ⟨others, other, done, leaves⟩
    rw [evaluated] at done
    cases done
    exact leaves
  · exact fun leaves => ⟨places, reached, evaluated, leaves⟩

theorem failed_reach (plain : base.Plain) (evaluated : evaluateIndices registry indices before = (.ok places, reached))
    (quiet : Quiet before reached)
    (failed : reachArray registry base places.length reached = (.error fault, after)) :
    Quiet before after ∧ ¬ Leaves registry before (.index base indices) := by
  obtain ⟨assigned, later⟩ := reach_fails registry base plain places.length reached after fault failed
  refine ⟨quiet.trans _ _ _ later, fun leaves => ?_⟩
  rcases (leaves_iff evaluated).mp leaves with unassigned | ⟨ref, opened, storage, found, _⟩
  · rw [← quiet.env] at unassigned
    exact assigned unassigned
  · rw [reach_assigned registry base places.length reached assigned, run_bind, found] at failed
    cases failed

theorem failed_written {ref : Nat} {opened : Store} (plain : base.Plain) (rooted : before.env.Rooted)
    (evaluated : evaluateIndices registry indices before = (.ok places, reached)) (quiet : Quiet before reached)
    (opening : reachArray registry base places.length reached = (.ok ref, opened))
    (failed : Action.writeItem ref places value opened = (.error fault, after)) :
    Quiet before after ↔ ¬ Leaves registry before (.index base indices) := by
  rw [leaves_iff evaluated]
  rcases reach_cases registry base places.length reached opened ref opening with
    ⟨assigned, found⟩ | ⟨name, rfl, unknown, rfl, rfl⟩
  · have later := evaluate_quiet registry base plain reached
    rw [found] at later
    rw [quiet.env] at assigned
    rw [failed_item (quiet.trans _ _ _ later) failed]
    refine not_congr ⟨fun ⟨storage, grown⟩ => Or.inr ⟨ref, opened, storage, found, grown⟩, fun leaves => ?_⟩
    rcases leaves with unassigned | ⟨other, last, storage, same, grown⟩
    · exact absurd unassigned assigned
    · rw [found] at same
      cases same
      exact ⟨storage, grown⟩
  · rw [← quiet.env] at rooted
    have moved := made_item name places.length rooted unknown failed
    rw [quiet.env] at moved unknown
    exact ⟨fun still => absurd still.env moved, fun calm => absurd (Or.inl ⟨name, rfl, unknown⟩) calm⟩

theorem failed_place (plain : (Expr.index base indices).Plain) (rooted : before.env.Rooted)
    (failed : assign registry (.index base indices) value before = (.error fault, after)) :
    Quiet before after ↔ ¬ Leaves registry before (.index base indices) := by
  rw [assign_index] at failed
  have quiet := evaluate_indices_quiet registry indices ((Label.all_plain_iff indices).mp plain.2) before
  rcases bind_failed _ _ _ _ _ failed with early | ⟨places, reached, evaluated, behind⟩
  · rw [early] at quiet
    refine ⟨fun _ ⟨places, reached, evaluated, _⟩ => ?_, fun _ => quiet⟩
    rw [early] at evaluated
    cases evaluated
  · rw [evaluated] at quiet
    rcases bind_failed _ _ _ _ _ behind with late | ⟨ref, opened, opening, unwritten⟩
    · obtain ⟨still, calm⟩ := failed_reach plain.1 evaluated quiet late
      exact ⟨fun _ => calm, fun _ => still⟩
    · exact failed_written plain.1 rooted evaluated quiet opening unwritten

end Places

/-- A target of an assignment that fails leaves no trace, that is, no variable of any scope and no item or length of
any array is changed, exactly if it does not ask for an item of a variable without a value, nor for one of a grid in
a row that would be new and cannot be long enough. A write to an array alone fails without a trace exactly if it is
not of the latter kind. -/
theorem failed_assign (registry : Registry) (source : String) (target : Expr) (value : Value) (before after : Store)
    (fault : Fault) (parsed : Label.parseTarget source = .ok target) (rooted : before.env.Rooted)
    (failed : assign registry target value before = (.error fault, after)) :
    (Quiet before after ↔ ¬ Leaves registry before target) ∧
      ∀ (storage written : Storage) (indices : List Nat) (item : Value) (cause : Fault),
        storage.write indices item = (.error cause, written) → (written = storage ↔ ¬ storage.Overgrows indices) := by
  refine ⟨?_, Storage.failed_write⟩
  have plain := Label.target_plain source target parsed
  cases target with
  | var name =>
      rw [assign] at failed
      cases failed
  | index base indices => exact failed_place plain rooted failed
  | _ =>
      simp only [assign] at failed
      cases failed
      exact ⟨fun _ => nofun, fun _ => Quiet.refl _⟩

def settled : Store := { Store.initial 0 with env := Environment.empty.set "a" (.bool true) }

theorem failed_assign_settled : ∃ target after, Label.parseTarget "a[0]" = .ok target ∧ settled.env.Rooted ∧
    assign .standard target .undefined settled = (.error (.conversion .boolean .array), after) ∧
      (Quiet settled after ↔ ¬ Leaves .standard settled target) ∧
        ∀ (storage written : Storage) (indices : List Nat) (item : Value) (cause : Fault),
          storage.write indices item = (.error cause, written) →
            (written = storage ↔ ¬ storage.Overgrows indices) := by
  have fails : (assigned? "a[0]" .undefined settled).map Prod.fst = some (.error (.conversion .boolean .array)) := by
    decide +kernel
  obtain ⟨⟨outcome, after⟩, known, rfl⟩ := Option.map_eq_some_iff.mp fails
  obtain ⟨target, parsed, failed⟩ := assigned_run "a[0]" .undefined settled _ known
  have rooted := Environment.set_rooted Environment.empty "a" (.bool true) Environment.empty_env_rooted
  exact ⟨target, after, parsed, rooted, failed,
    failed_assign .standard "a[0]" target .undefined settled after _ parsed rooted failed⟩

def lined : Store := ⟨Environment.empty.set "g" (.array 0), ⟨#[.grid #[#[.undefined]]]⟩, .ofSeed 0⟩

-- An item of a row that would be new, at an index that no row has: the rows up to it are there from then on.
theorem failed_assign_leaves : ¬ ∀ (source : String) (target : Expr) (value : Value) (before after : Store)
    (fault : Fault), Label.parseTarget source = .ok target → before.env.Rooted →
      assign .standard target value before = (.error fault, after) → Quiet before after := by
  intro always
  have runs : (assigned? "g[5, 1048576]" .undefined lined).map (fun run => (run.1, run.2.heap.storage? 0)) =
      some (.error (.arrayTooLarge 1048576 1048576), some (.grid #[#[.undefined], #[], #[], #[], #[], #[]])) := by
    decide +kernel
  obtain ⟨⟨outcome, after⟩, known, same⟩ := Option.map_eq_some_iff.mp runs
  obtain ⟨target, parsed, run⟩ := assigned_run "g[5, 1048576]" .undefined lined _ known
  have failed : outcome = .error (.arrayTooLarge 1048576 1048576) := congrArg Prod.fst same
  have grown : after.heap.storage? 0 = some (.grid #[#[.undefined], #[], #[], #[], #[], #[]]) := congrArg Prod.snd same
  have rooted := Environment.set_rooted Environment.empty "g" (.array 0) Environment.empty_env_rooted
  rw [failed] at run
  have quiet := always "g[5, 1048576]" target .undefined lined after _ parsed rooted run
  have still := quiet.kept 0 (.grid #[#[.undefined]]) rfl
  rw [grown] at still
  cases still

end Flowline
