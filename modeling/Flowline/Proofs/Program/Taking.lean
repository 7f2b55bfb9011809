import Flowline.Proofs.Program.Whole

set_option autoImplicit false

namespace Flowline.Program

open Flowline.Graph (ClassKind Message Primitive)

def OfClass (kind : ClassKind) (message : Message) : Prop :=
  ∃ self, message.root? = some (.record self) ∧ self.kind = kind

def Holds (kind : ClassKind) (field : String) (value : Primitive) (message : Message) : Prop :=
  ∃ self, message.root? = some (.record self) ∧ self.kind = kind ∧ self.member? field = some (.primitive value)

theorem holds_class (kind : ClassKind) (field : String) (value : Primitive) (message : Message)
    (holds : Holds kind field value message) : OfClass kind message := by
  obtain ⟨self, rooted, same, _⟩ := holds
  exact ⟨self, rooted, same⟩

theorem int?_eq_some (self : Graph.Instance) (field : String) (value : Int32) :
    self.int? field = some value ↔ self.member? field = some (.primitive (.int32 value)) := by
  unfold Graph.Instance.int?
  split
  · rename_i found held
    rw [held]
    simp
  · rename_i other
    exact ⟨fun none => (by cases none), fun held => absurd held (other value)⟩

theorem boolean?_eq_some (self : Graph.Instance) (field : String) (value : Bool) :
    self.boolean? field = some value ↔ self.member? field = some (.primitive (.boolean value)) := by
  unfold Graph.Instance.boolean?
  split
  · rename_i found held
    rw [held]
    simp
  · rename_i other
    exact ⟨fun none => (by cases none), fun held => absurd held (other value)⟩

theorem root_instance_eq_some (message : Message) (self : Graph.Instance) :
    message.rootInstance? = some self ↔ message.root? = some (.record self) := by
  unfold Message.rootInstance? Graph.instance? Message.root?
  split
  · rename_i found held
    rw [held]
    simp
  · rename_i other
    exact ⟨fun none => (by cases none), fun held => absurd held (other self)⟩

namespace Take

theorem bind_of_ok {α β : Type} {first : Take α} {next : α → Take β} {messages rest : List Message} {value : α}
    {result : β × List Message} (taken : first messages = .ok (value, rest)) (done : next value rest = .ok result) :
    (first >>= next) messages = .ok result := by
  change (first messages >>= fun taken => next taken.1 taken.2) = .ok result
  rw [taken]
  exact done

theorem bind_ok_iff {α β : Type} (first : Take α) (next : α → Take β) (messages : List Message)
    (result : β × List Message) :
    (first >>= next) messages = .ok result ↔
      ∃ value rest, first messages = .ok (value, rest) ∧ next value rest = .ok result :=
  ⟨bind_ok, fun ⟨_, _, taken, done⟩ => bind_of_ok taken done⟩

theorem pure_ok_iff {α : Type} (value found : α) (messages rest : List Message) :
    (pure value : Take α) messages = .ok (found, rest) ↔ value = found ∧ messages = rest := by
  constructor
  · intro done
    cases pure_ok done
    exact ⟨rfl, rfl⟩
  · rintro ⟨rfl, rfl⟩
    rfl

theorem next_ok_iff (wanted : Wanted) (messages rest : List Message) (message : Message) :
    next wanted messages = .ok (message, rest) ↔ messages = message :: rest := by
  cases messages with
  | nil => exact ⟨nofun, nofun⟩
  | cons first others =>
      unfold next
      simp

theorem expect_ok_iff {α : Type} (wanted : Wanted) (message : Message) (found : Option α) (value : α)
    (messages rest : List Message) :
    expect wanted message found messages = .ok (value, rest) ↔ found = some value ∧ messages = rest := by
  cases found with
  | none => exact ⟨nofun, nofun⟩
  | some found => simpa [expect] using pure_ok_iff found value messages rest

theorem root_of_eq_some (kind : ClassKind) (message : Message) (self : Graph.Instance) :
    rootOf? kind message = some self ↔ message.root? = some (.record self) ∧ self.kind = kind := by
  unfold rootOf?
  rw [Option.filter_eq_some_iff, root_instance_eq_some]
  simp

theorem record_ok_iff {α : Type} (kind : ClassKind) (content : Message → Graph.Instance → Option α)
    (messages rest : List Message) (value : α) :
    record kind content messages = .ok (value, rest) ↔
      ∃ message self, messages = message :: rest ∧ message.root? = some (.record self) ∧ self.kind = kind ∧
        content message self = some value := by
  simp only [record, bind_ok_iff, next_ok_iff, expect_ok_iff, root_of_eq_some]
  constructor
  · rintro ⟨message, _, given, self, _, ⟨⟨rooted, same⟩, rfl⟩, found, rfl⟩
    exact ⟨message, self, given, rooted, same, found⟩
  · rintro ⟨message, self, given, rooted, same, found⟩
    exact ⟨message, rest, given, self, rest, ⟨⟨rooted, same⟩, rfl⟩, found, rfl⟩

theorem record_holds_iff {α : Type} (kind : ClassKind) (field : String) (read : Graph.Instance → Option α)
    (stored : α → Primitive)
    (reads : ∀ self value, read self = some value ↔ self.member? field = some (.primitive (stored value)))
    (messages rest : List Message) (value : α) :
    record kind (fun _ self => read self) messages = .ok (value, rest) ↔
      ∃ message, messages = message :: rest ∧ Holds kind field (stored value) message := by
  rw [record_ok_iff]
  constructor
  · rintro ⟨message, self, given, rooted, same, found⟩
    exact ⟨message, given, self, rooted, same, (reads self value).mp found⟩
  · rintro ⟨message, given, self, rooted, same, held⟩
    exact ⟨message, self, given, rooted, same, (reads self value).mpr held⟩

theorem record_int_ok_iff (kind : ClassKind) (field : String) (messages rest : List Message) (value : Int32) :
    record kind (fun _ self => self.int? field) messages = .ok (value, rest) ↔
      ∃ message, messages = message :: rest ∧ Holds kind field (.int32 value) message :=
  record_holds_iff kind field (·.int? field) .int32 (fun self => int?_eq_some self field) messages rest value

theorem int_ok_iff (messages rest : List Message) (value : Int32) :
    int messages = .ok (value, rest) ↔
      ∃ message, messages = message :: rest ∧ Holds .systemInt32 "m_value" (.int32 value) message :=
  record_int_ok_iff .systemInt32 "m_value" messages rest value

theorem bool_ok_iff (messages rest : List Message) (value : Bool) :
    bool messages = .ok (value, rest) ↔
      ∃ message, messages = message :: rest ∧ Holds .systemBoolean "m_value" (.boolean value) message :=
  record_holds_iff .systemBoolean "m_value" (·.boolean? "m_value") .boolean
    (fun self => boolean?_eq_some self "m_value") messages rest value

theorem name_ok_iff (messages rest : List Message) (text : String) :
    name messages = .ok (text, rest) ↔
      ∃ message, messages = message :: rest ∧ message.root? = some (.string text) := by
  have named : ∀ message, text? message = some text ↔ message.root? = some (.string text) := by
    intro message
    unfold text?
    split
    · rename_i found rooted
      rw [rooted]
      simp
    · rename_i other
      exact ⟨fun none => (by cases none), fun rooted => absurd rooted (other text)⟩
  simp only [name, bind_ok_iff, next_ok_iff, expect_ok_iff, named]
  constructor
  · rintro ⟨message, _, given, rooted, rfl⟩
    exact ⟨message, given, rooted⟩
  · rintro ⟨message, given, rooted⟩
    exact ⟨message, rest, given, rooted, rfl⟩

theorem trailer_ok_iff (messages rest : List Message) (message : Message) :
    trailer messages = .ok (message, rest) ↔
      messages = message :: rest ∧ ∃ self, message.root? = some (.array self) := by
  simp only [trailer, bind_ok_iff, next_ok_iff]
  constructor
  · rintro ⟨first, middle, given, taken⟩
    rcases rooted : first.root? with _ | self | text | self
    all_goals rw [rooted] at taken
    case some.array =>
      cases pure_ok taken
      exact ⟨given, self, rooted⟩
    all_goals cases taken
  · rintro ⟨given, self, rooted⟩
    refine ⟨message, rest, given, ?_⟩
    rw [rooted]
    rfl

theorem flowchart_ok_iff (messages rest : List Message) (chart : Flowchart) :
    flowchart messages = .ok (chart, rest) ↔
      ∃ message, messages = message :: rest ∧ Flowchart.ofGraph message.graph message.rootId = .ok chart := by
  simp only [flowchart, bind_ok_iff, next_ok_iff]
  constructor
  · rintro ⟨message, middle, given, taken⟩
    cases made : Flowchart.ofGraph message.graph message.rootId with
    | error fault =>
        rw [made] at taken
        cases taken
    | ok found =>
        rw [made] at taken
        cases pure_ok taken
        exact ⟨message, given, made⟩
  · rintro ⟨message, given, made⟩
    refine ⟨message, rest, given, ?_⟩
    rw [made]
    rfl

theorem finish_ok_iff (messages rest : List Message) :
    finish messages = .ok ((), rest) ↔ messages = [] ∧ rest = [] := by
  cases messages with
  | nil => exact ⟨fun done => by cases done; exact ⟨rfl, rfl⟩, fun ends => by rw [ends.2]; rfl⟩
  | cons first others => exact ⟨nofun, nofun⟩

theorem int?_of_class (message : Message) (messages : List Message) (classed : OfClass .systemInt32 message) :
    int? (message :: messages) = (do return some (← int) : Take (Option Int32)) (message :: messages) := by
  obtain ⟨self, rooted, same⟩ := classed
  have found := (root_of_eq_some .systemInt32 message self).mpr ⟨rooted, same⟩
  unfold int?
  rw [List.head?_cons, Option.bind_some, found]

theorem int?_of_other (messages : List Message) (other : ∀ message ∈ messages.head?, ¬ OfClass .systemInt32 message) :
    int? messages = .ok (none, messages) := by
  unfold int?
  split
  · rename_i self found
    obtain ⟨message, ahead, rooted⟩ := Option.bind_eq_some_iff.mp found
    exact absurd ⟨self, (root_of_eq_some .systemInt32 message self).mp rooted⟩ (other message ahead)
  · rfl

theorem int?_ok (messages rest : List Message) (extra : Option Int32) (taken : int? messages = .ok (extra, rest)) :
    (extra = none ∧ messages = rest) ∨
      ∃ value message, extra = some value ∧ messages = message :: rest ∧
        Holds .systemInt32 "m_value" (.int32 value) message := by
  unfold int? at taken
  split at taken
  · obtain ⟨value, middle, read, done⟩ := bind_ok taken
    cases pure_ok done
    obtain ⟨message, given, holds⟩ := (int_ok_iff messages rest value).mp read
    exact Or.inr ⟨value, message, rfl, given, holds⟩
  · cases taken
    exact Or.inl ⟨rfl, rfl⟩

end Take

end Flowline.Program
