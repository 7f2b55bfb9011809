import Flowline.Chart.OfGraph
import Flowline.Outcome

set_option autoImplicit false

namespace Flowline.Chart

open Flowline.Graph (ClassKind Instance)

section Members

variable (graph : Graph) (object : Instance) (name : String)

inductive Spells : String → Prop where
  | nothing (bare : object.member? name = some .null) : Spells ""
  | string (target : ComponentId) (text : String) (linked : object.member? name = some (.ref target))
      (found : graph.get? target = some (.string text)) : Spells text

inductive LinksTo : Option ComponentId → Prop where
  | nothing (bare : object.member? name = some .null) : LinksTo none
  | component (target : ComponentId) (other : Instance) (linked : object.member? name = some (.ref target))
      (found : graph.get? target = some (.record other)) (component : other.kind.isComponent = true) :
      LinksTo (some target)

inductive Numbers : Int32 → Prop where
  | plain (value : Int32) (held : object.member? name = some (.primitive (.int32 value))) : Numbers value
  | boxed (target : ComponentId) (other : Instance) (value : Int32) (linked : object.member? name = some (.ref target))
      (found : graph.get? target = some (.record other))
      (held : other.member? "value__" = some (.primitive (.int32 value))) : Numbers value

end Members

section Components

variable (graph : Graph) (object : Instance)

def Flags (flag : Bool) : Prop := object.member? "_is_input" = some (.primitive (.boolean flag))

inductive Plays : ClassKind → Role → Prop where
  | terminal : Plays .oval .terminal
  | entry : Plays .ovalProcedure .entry
  | assignment (number : Numbers graph object "_kind" 0) : Plays .rectangle .assignment
  | call (number : Numbers graph object "_kind" 1) : Plays .rectangle .call
  | decision (yes no : Option ComponentId) (left : LinksTo graph object "_left_Child" yes)
      (right : LinksTo graph object "_right_Child" no) : Plays .ifControl (.decision yes no)
  | loop (before after : Option ComponentId) (first : LinksTo graph object "_before_Child" before)
      (second : LinksTo graph object "_after_Child" after) : Plays .loop (.loop before after)
  | output (prompt : String) (flag : Flags object false) (spelt : Spells graph object "_prompt" prompt) :
      Plays .parallelogram (.output prompt)
  | input (prompt : String) (flag : Flags object true) (spelt : Spells graph object "_prompt" prompt) :
      Plays .parallelogram (.input prompt)

structure Describes (component : Component) : Prop where
  role : Plays graph object object.kind component.role
  label : Spells graph object "_text_str" component.label
  successor : LinksTo graph object "_Successor" component.successor

-- The members of a class that are links to components. In other classes such names mean nothing.
def linkNames : ClassKind → List String
  | .oval | .ovalProcedure | .rectangle | .parallelogram => ["_Successor"]
  | .ifControl => ["_Successor", "_left_Child", "_right_Child"]
  | .loop => ["_Successor", "_before_Child", "_after_Child"]
  | _ => []

def textNames : ClassKind → List String
  | .parallelogram => ["_text_str", "_prompt"]
  | _ => ["_text_str"]

-- All that a component has to say is there, and it is of the right form.
structure WellFormed : Prop where
  links : ∀ name ∈ linkNames object.kind, ∃ link, LinksTo graph object name link
  texts : ∀ name ∈ textNames object.kind, ∃ text, Spells graph object name text
  number : object.kind = .rectangle → Numbers graph object "_kind" 0 ∨ Numbers graph object "_kind" 1
  flag : object.kind = .parallelogram → ∃ flag, Flags object flag

end Components

section Reading

variable (graph : Graph) (object : Instance) (id : ComponentId)

theorem instance_eq_some (target : ComponentId) (other : Instance) :
    Graph.instance? graph target = some other ↔ graph.get? target = some (.record other) := by
  unfold Graph.instance?
  split
  · rename_i found held
    rw [held]
    simp
  · rename_i missing
    constructor
    · intro none
      cases none
    · intro held
      exact absurd held (missing other)

theorem string_eq_some (target : ComponentId) (text : String) :
    Graph.string? graph target = some text ↔ graph.get? target = some (.string text) := by
  unfold Graph.string?
  split
  · rename_i found held
    rw [held]
    simp
  · rename_i missing
    constructor
    · intro none
      cases none
    · intro held
      exact absurd held (missing text)

theorem read_text_ok_iff (name text : String) :
    readText graph object id name = .ok text ↔ Spells graph object name text := by
  constructor
  · intro read
    unfold readText at read
    split at read
    · rename_i bare
      cases read
      exact .nothing bare
    · rename_i target linked
      split at read
      · rename_i found held
        cases read
        exact .string target text linked ((string_eq_some graph target text).mp held)
      · cases read
    · cases read
  · intro spells
    cases spells with
    | nothing bare => simp only [readText, bare]
    | string target _ linked found => simp only [readText, linked, (string_eq_some graph target text).mpr found]

theorem read_link_ok_iff (name : String) (link : Option ComponentId) :
    readLink graph object id name = .ok link ↔ LinksTo graph object name link := by
  constructor
  · intro read
    unfold readLink at read
    split at read
    · rename_i bare
      cases read
      exact .nothing bare
    · rename_i target linked
      cases held : Graph.instance? graph target with
      | none =>
          rw [held] at read
          cases read
      | some other =>
          rw [held] at read
          dsimp only [Option.map_some] at read
          split at read
          · rename_i component
            cases read
            exact .component target other linked ((instance_eq_some graph target other).mp held) component
          · cases read
    · cases read
  · intro links
    cases links with
    | nothing bare => simp only [readLink, bare]
    | component target other linked found component =>
        have held := (instance_eq_some graph target other).mpr found
        simp only [readLink, linked, held, Option.map_some, component, if_true]

theorem enum_value_iff (name : String) (value : Int32) :
    enumValue? graph object name = some value ↔ Numbers graph object name value := by
  constructor
  · intro read
    unfold enumValue? at read
    split at read
    · rename_i target linked
      obtain ⟨other, held, number⟩ := Option.bind_eq_some_iff.mp read
      unfold Instance.int? at number
      split at number
      · rename_i found plain
        cases number
        exact .boxed target other value linked ((instance_eq_some graph target other).mp held) plain
      · cases number
    · rename_i found plain
      cases read
      exact .plain value plain
    · cases read
  · intro numbers
    cases numbers with
    | plain _ held => simp only [enumValue?, held]
    | boxed target other _ linked found held =>
        have boxed := (instance_eq_some graph target other).mpr found
        simp only [enumValue?, linked, boxed, Option.bind_some, Instance.int?, held]

theorem boolean_iff (flag : Bool) : object.boolean? "_is_input" = some flag ↔ Flags object flag := by
  unfold Instance.boolean? Flags
  split
  · rename_i found held
    rw [held]
    simp
  · rename_i missing
    exact ⟨nofun, fun held => absurd held (missing flag)⟩

theorem read_rectangle_ok_iff (role : Role) :
    readRectangle graph object id = .ok role ↔ Plays graph object .rectangle role := by
  constructor
  · intro read
    unfold readRectangle at read
    cases found : enumValue? graph object "_kind" with
    | none =>
        rw [found] at read
        cases read
    | some value =>
        have number := (enum_value_iff graph object "_kind" value).mp found
        rw [found] at read
        dsimp only at read
        split at read
        · rename_i zero
          cases read
          exact .assignment (zero ▸ number)
        · split at read
          · rename_i one
            cases read
            exact .call (one ▸ number)
          · cases read
  · intro plays
    cases plays with
    | assignment number =>
        have found := (enum_value_iff graph object "_kind" 0).mpr number
        simp only [readRectangle, found, if_true]
    | call number =>
        have found := (enum_value_iff graph object "_kind" 1).mpr number
        have apart : (1 : Int32) ≠ 0 := by decide
        simp only [readRectangle, found, if_neg apart, if_true]

theorem read_parallelogram_ok_iff (role : Role) :
    readParallelogram graph object id = .ok role ↔ Plays graph object .parallelogram role := by
  constructor
  · intro read
    unfold readParallelogram at read
    cases found : object.boolean? "_is_input" with
    | none =>
        rw [found] at read
        cases read
    | some flag =>
        have flags := (boolean_iff object flag).mp found
        rw [found] at read
        obtain ⟨prompt, spelt, made⟩ := (both_ok _ _ role).mp read
        have spells := (read_text_ok_iff graph object id "_prompt" prompt).mp spelt
        cases flag with
        | true =>
            cases made
            exact .input prompt flags spells
        | false =>
            cases made
            exact .output prompt flags spells
  · intro plays
    cases plays with
    | output prompt flag spells =>
        have spelt := (read_text_ok_iff graph object id "_prompt" prompt).mpr spells
        simp only [readParallelogram, (boolean_iff object false).mpr flag]
        exact (both_ok _ _ _).mpr ⟨prompt, spelt, rfl⟩
    | input prompt flag spells =>
        have spelt := (read_text_ok_iff graph object id "_prompt" prompt).mpr spells
        simp only [readParallelogram, (boolean_iff object true).mpr flag]
        exact (both_ok _ _ _).mpr ⟨prompt, spelt, rfl⟩

theorem read_links_ok_iff (first second : String) (both : Option ComponentId → Option ComponentId → Role)
    (role : Role) :
    (do
        let a ← readLink graph object id first
        let b ← readLink graph object id second
        return both a b) = Except.ok role ↔
      ∃ a b, LinksTo graph object first a ∧ LinksTo graph object second b ∧ both a b = role := by
  simp only [both_ok, read_link_ok_iff]
  constructor
  · rintro ⟨a, one, b, two, made⟩
    cases made
    exact ⟨a, b, one, two, rfl⟩
  · rintro ⟨a, b, one, two, rfl⟩
    exact ⟨a, one, b, two, rfl⟩

theorem read_role_ok_iff (role : Role) :
    readRole graph object id = .ok role ↔ Plays graph object object.kind role := by
  unfold readRole
  cases object.kind with
  | oval | ovalProcedure =>
      constructor
      · rintro ⟨⟩
        constructor
      · rintro ⟨⟩
        rfl
  | rectangle => exact read_rectangle_ok_iff graph object id role
  | parallelogram => exact read_parallelogram_ok_iff graph object id role
  | ifControl =>
      refine (read_links_ok_iff graph object id "_left_Child" "_right_Child" Role.decision role).trans ⟨?_, ?_⟩
      · rintro ⟨yes, no, left, right, rfl⟩
        exact .decision yes no left right
      · rintro ⟨⟩
        rename_i yes no left right
        exact ⟨yes, no, left, right, rfl⟩
  | loop =>
      refine (read_links_ok_iff graph object id "_before_Child" "_after_Child" Role.loop role).trans ⟨?_, ?_⟩
      · rintro ⟨before, after, first, second, rfl⟩
        exact .loop before after first second
      · rintro ⟨⟩
        rename_i before after first second
        exact ⟨before, after, first, second, rfl⟩
  | _ => exact ⟨nofun, nofun⟩

theorem read_component_ok_iff (component : Component) :
    readComponent graph id = .ok component ↔
      ∃ object, graph.get? id = some (.record object) ∧ Describes graph object component := by
  unfold readComponent
  cases found : Graph.instance? graph id with
  | none =>
      refine ⟨nofun, ?_⟩
      rintro ⟨object, held, _⟩
      rw [(instance_eq_some graph id object).mpr held] at found
      cases found
  | some object =>
      have held := (instance_eq_some graph id object).mp found
      simp only [both_ok, read_role_ok_iff, read_text_ok_iff, read_link_ok_iff]
      constructor
      · rintro ⟨role, plays, label, spells, successor, links, made⟩
        cases made
        exact ⟨object, held, plays, spells, links⟩
      · rintro ⟨other, same, describes⟩
        rw [held] at same
        cases same
        exact ⟨_, describes.role, _, describes.label, _, describes.successor, rfl⟩

end Reading

section Forms

variable {graph : Graph} {object : Instance}

theorem links_to_mem {name : String} {link : Option ComponentId} (links : LinksTo graph object name link)
    (target : ComponentId) : target ∈ link.toList ↔ object.member? name = some (.ref target) := by
  cases links with
  | nothing bare => simp [bare]
  | component other found linked held component =>
      rw [linked]
      simp [eq_comm]

theorem links_iff (component : Component) (describes : Describes graph object component) (target : ComponentId) :
    target ∈ component.links ↔ ∃ name ∈ linkNames object.kind, object.member? name = some (.ref target) := by
  obtain ⟨role, label, successor⟩ := component
  obtain ⟨plays, spelt, onward⟩ := describes
  dsimp only at plays onward
  simp only [Component.links, Component.children, List.mem_append, links_to_mem onward]
  generalize object.kind = kind at plays
  cases plays with
  | decision yes no left right =>
      simp [linkNames, links_to_mem left, links_to_mem right, or_comm]
  | loop before after first second =>
      simp [linkNames, links_to_mem first, links_to_mem second, or_comm]
  | _ => simp [linkNames]

theorem plays_component {kind : ClassKind} {role : Role} (plays : Plays graph object kind role) :
    kind.isComponent = true := by
  cases plays <;> rfl

theorem plays_links {kind : ClassKind} {role : Role} (plays : Plays graph object kind role) {next : Option ComponentId}
    (onward : LinksTo graph object "_Successor" next) :
    ∀ name ∈ linkNames kind, ∃ link, LinksTo graph object name link := by
  intro name member
  cases plays with
  | decision yes no left right =>
      simp only [linkNames, List.mem_cons, List.not_mem_nil, or_false] at member
      rcases member with rfl | rfl | rfl
      · exact ⟨next, onward⟩
      · exact ⟨yes, left⟩
      · exact ⟨no, right⟩
  | loop before after first second =>
      simp only [linkNames, List.mem_cons, List.not_mem_nil, or_false] at member
      rcases member with rfl | rfl | rfl
      · exact ⟨next, onward⟩
      · exact ⟨before, first⟩
      · exact ⟨after, second⟩
  | _ => exact ⟨next, List.mem_singleton.mp member ▸ onward⟩

theorem plays_texts {kind : ClassKind} {role : Role} (plays : Plays graph object kind role) {label : String}
    (spelt : Spells graph object "_text_str" label) :
    ∀ name ∈ textNames kind, ∃ text, Spells graph object name text := by
  intro name member
  cases plays with
  | output prompt _ spells | input prompt _ spells =>
      simp only [textNames, List.mem_cons, List.not_mem_nil, or_false] at member
      rcases member with rfl | rfl
      · exact ⟨label, spelt⟩
      · exact ⟨prompt, spells⟩
  | _ => exact ⟨label, List.mem_singleton.mp member ▸ spelt⟩

theorem described_well_formed {component : Component} (describes : Describes graph object component) :
    object.kind.isComponent = true ∧ WellFormed graph object := by
  obtain ⟨plays, spelt, onward⟩ := describes
  refine ⟨plays_component plays, plays_links plays onward, plays_texts plays spelt, ?_, ?_⟩
  · intro kind
    rw [kind] at plays
    generalize component.role = role at plays
    cases plays with
    | assignment number => exact Or.inl number
    | call number => exact Or.inr number
  · intro kind
    rw [kind] at plays
    generalize component.role = role at plays
    cases plays with
    | output _ flag => exact ⟨false, flag⟩
    | input _ flag => exact ⟨true, flag⟩

theorem well_formed_described (component : object.kind.isComponent = true) (formed : WellFormed graph object) :
    ∃ component, Describes graph object component := by
  obtain ⟨links, texts, number, flag⟩ := formed
  have plays : ∃ role, Plays graph object object.kind role := by
    generalize object.kind = kind at component links texts number flag
    cases kind with
    | oval => exact ⟨_, .terminal⟩
    | ovalProcedure => exact ⟨_, .entry⟩
    | rectangle =>
        rcases number rfl with zero | one
        · exact ⟨_, .assignment zero⟩
        · exact ⟨_, .call one⟩
    | ifControl =>
        obtain ⟨yes, left⟩ := links "_left_Child" (by decide)
        obtain ⟨no, right⟩ := links "_right_Child" (by decide)
        exact ⟨_, .decision yes no left right⟩
    | loop =>
        obtain ⟨before, first⟩ := links "_before_Child" (by decide)
        obtain ⟨after, second⟩ := links "_after_Child" (by decide)
        exact ⟨_, .loop before after first second⟩
    | parallelogram =>
        obtain ⟨prompt, spelt⟩ := texts "_prompt" (by decide)
        obtain ⟨asks, flags⟩ := flag rfl
        cases asks with
        | true => exact ⟨_, .input prompt flags spelt⟩
        | false => exact ⟨_, .output prompt flags spelt⟩
    | _ => cases component
  have successor : "_Successor" ∈ linkNames object.kind := by
    generalize object.kind = kind at component
    revert component
    cases kind <;> decide
  have label : "_text_str" ∈ textNames object.kind := by
    generalize object.kind = kind
    cases kind <;> decide
  obtain ⟨role, plays⟩ := plays
  obtain ⟨text, spelt⟩ := texts _ label
  obtain ⟨next, onward⟩ := links _ successor
  exact ⟨⟨role, text, next⟩, plays, spelt, onward⟩

end Forms

end Flowline.Chart
