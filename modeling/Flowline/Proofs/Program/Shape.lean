import Flowline.Proofs.Program.Sample
import Flowline.Proofs.Program.Sections

set_option autoImplicit false

namespace Flowline.Program

open Flowline.Graph (ClassKind Message Primitive)

structure Pieces where
  version : Message
  mode : Message
  count : Message
  headers : List (List Message)
  bodies : List (List Message)
  log : Message
  flag : Message
  identifier : Message

def Pieces.messages (pieces : Pieces) : List Message :=
  pieces.version :: pieces.mode :: pieces.count ::
    (pieces.headers.flatten ++ (pieces.bodies.flatten ++ [pieces.log, pieces.flag, pieces.identifier]))

-- The parts of a program, each with a root of its kind, and with the values that the program has of them.
structure Pieces.Spell (pieces : Pieces) (program : Program) : Prop where
  version : Holds .systemInt32 "m_value" (.int32 program.version) pieces.version
  mode : Holds .systemBoolean "m_value" (.boolean program.masterMode) pieces.mode
  count : ∃ number : Int32, Holds .systemInt32 "m_value" (.int32 number) pieces.count ∧ 0 < number ∧
    number.toInt = program.subcharts.length
  headers : List.Forall₂ Heads (program.subcharts.map Subchart.header) pieces.headers
  bodies : List.Forall₂ Bears program.subcharts pieces.bodies
  log : ∃ self, pieces.log.root? = some (.record self) ∧ self.kind = .loggingInfo ∧
    program.log = Log.ofInstance pieces.log.graph self
  flag : ∃ value, Holds .systemBoolean "m_value" (.boolean value) pieces.flag
  identifier : OfClass .systemGuid pieces.identifier
  names : (program.subcharts.map Subchart.key).Nodup

theorem take_count_ok_iff (messages rest : List Message) (count : Nat) :
    takeCount messages = .ok (count, rest) ↔
      ∃ message, messages = message :: rest ∧ ∃ number : Int32,
        Holds .systemInt32 "m_value" (.int32 number) message ∧ 0 < number ∧ number.toInt = count := by
  unfold takeCount
  rw [Take.bind_ok_iff]
  constructor
  · rintro ⟨number, middle, taken, checked⟩
    obtain ⟨message, given, holds⟩ := (Take.int_ok_iff messages middle number).mp taken
    split at checked
    · cases checked
    · rename_i positive
      cases Take.pure_ok checked
      have above : 0 < number := by simpa using positive
      have shown : 0 < number.toInt := by simpa [Int32.lt_iff_toInt_lt] using above
      exact ⟨message, given, number, holds, above, by omega⟩
  · rintro ⟨message, given, number, holds, above, same⟩
    refine ⟨number, rest, (Take.int_ok_iff messages rest number).mpr ⟨message, given, holds⟩, ?_⟩
    have positive : ¬ number ≤ 0 := by simpa using above
    rw [if_neg positive, same]
    rfl

-- A chart begins with a component, so the number of the header before it ends there.
theorem chart_not_int (message : Message) (chart : Flowchart)
    (made : Flowchart.ofGraph message.graph message.rootId = .ok chart) : ¬ OfClass .systemInt32 message := by
  rintro ⟨self, rooted, same⟩
  have found : Graph.instance? message.graph message.rootId = some self :=
    (root_instance_eq_some message self).mpr rooted
  unfold Flowchart.ofGraph at made
  dsimp only at made
  rw [found, Option.map_some, same] at made
  cases made

theorem closed_bodies (subcharts : List Subchart) (bodies : List (List Message)) (rest : List Message)
    (nonempty : 0 < subcharts.length) (bear : List.Forall₂ Bears subcharts bodies) :
    Closed (bodies.flatten ++ rest) := by
  cases bear with
  | nil => exact absurd nonempty (Nat.lt_irrefl 0)
  | cons one _ =>
      cases one with
      | pair chart made closed =>
          intro message ahead
          cases ahead
          exact chart_not_int chart _ made

theorem take_program_spells (messages rest : List Message) (program : Program)
    (taken : takeProgram messages = .ok (program, rest)) :
    (∃ pieces : Pieces, pieces.messages = messages ∧ pieces.Spell program) ∧
      Lists program.registry (program.subcharts.map Subchart.key) := by
  obtain ⟨version, afterVersion, numbered, following⟩ := Take.bind_ok taken
  obtain ⟨masterMode, afterMode, mode, following⟩ := Take.bind_ok following
  obtain ⟨count, afterCount, counted, following⟩ := Take.bind_ok following
  obtain ⟨headers, afterHeaders, headed, following⟩ := Take.bind_ok following
  obtain ⟨⟨subcharts, registry⟩, afterCharts, charted, following⟩ := Take.bind_ok following
  obtain ⟨log, afterLog, logged, following⟩ := Take.bind_ok following
  obtain ⟨flag, afterFlag, flagged, following⟩ := Take.bind_ok following
  obtain ⟨⟨⟩, afterIdentifier, identified, following⟩ := Take.bind_ok following
  obtain ⟨⟨⟩, last, ended, built⟩ := Take.bind_ok following
  cases Take.pure_ok built
  obtain ⟨first, given, version_holds⟩ := (Take.int_ok_iff _ _ _).mp numbered
  subst given
  obtain ⟨second, given, mode_holds⟩ := (Take.bool_ok_iff _ _ _).mp mode
  subst given
  obtain ⟨third, given, number, count_holds, above, many⟩ := (take_count_ok_iff _ _ _).mp counted
  subst given
  obtain ⟨heads, given, all_head⟩ := take_headers_heads count headers afterCount afterHeaders headed
  subst given
  obtain ⟨same, lists, bodies, given, all_bear⟩ :=
    take_subcharts_bear .standard [] headers afterHeaders afterCharts subcharts registry lists_standard charted
  subst given
  obtain ⟨fourth, self, given, rooted, kind, made⟩ := (Take.record_ok_iff _ _ _ _ _).mp logged
  subst given
  obtain ⟨fifth, given, flag_holds⟩ := (Take.bool_ok_iff _ _ _).mp flagged
  subst given
  obtain ⟨sixth, identity, given, root, classed, -⟩ := (Take.record_ok_iff _ _ _ _ _).mp identified
  subst given
  obtain ⟨given, -⟩ := (Take.finish_ok_iff _ _).mp ended
  subst given
  refine ⟨⟨⟨first, second, third, heads, bodies, fourth, fifth, sixth⟩, rfl, ?_⟩, lists⟩
  have length := take_headers_length count _ _ headers headed
  exact {
    version := version_holds
    mode := mode_holds
    count := ⟨number, count_holds, above, by rw [many, ← length, ← same, List.length_map]⟩
    headers := by rw [same]; exact all_head
    bodies := all_bear
    log := ⟨self, rooted, kind, (Option.some.inj made).symm⟩
    flag := ⟨flag, flag_holds⟩
    identifier := ⟨identity, root, classed⟩
    names := lists_distinct registry _ lists }

theorem spells_take_program (pieces : Pieces) (program : Program) (spell : pieces.Spell program) :
    ∃ registry, takeProgram pieces.messages = .ok ({ program with registry }, []) := by
  obtain ⟨version, masterMode, log, subcharts, before⟩ := program
  obtain ⟨number, count_holds, above, many⟩ := spell.count
  obtain ⟨self, rooted, kind, made⟩ := spell.log
  obtain ⟨flag, flag_holds⟩ := spell.flag
  obtain ⟨identity, root, classed⟩ := spell.identifier
  dsimp only at many made
  have nonempty : 0 < subcharts.length := by
    have shown : 0 < number.toInt := by simpa [Int32.lt_iff_toInt_lt] using above
    omega
  have headed := heads_take_headers _ _ _ spell.headers
    (closed_bodies _ _ [pieces.log, pieces.flag, pieces.identifier] nonempty spell.bodies)
  rw [List.length_map] at headed
  obtain ⟨registry, charted⟩ := bear_take_subcharts .standard [] _ _ [pieces.log, pieces.flag, pieces.identifier]
    lists_standard spell.names spell.bodies
  refine ⟨registry, Take.bind_of_ok ((Take.int_ok_iff _ _ version).mpr ⟨_, rfl, spell.version⟩) ?_⟩
  refine Take.bind_of_ok ((Take.bool_ok_iff _ _ masterMode).mpr ⟨_, rfl, spell.mode⟩) ?_
  refine Take.bind_of_ok ((take_count_ok_iff _ _ _).mpr ⟨_, rfl, number, count_holds, above, many⟩) ?_
  refine Take.bind_of_ok headed (Take.bind_of_ok charted ?_)
  refine Take.bind_of_ok ((Take.record_ok_iff _ _ _ _ log).mpr ⟨_, self, rfl, rooted, kind, congrArg some made.symm⟩) ?_
  refine Take.bind_of_ok ((Take.bool_ok_iff _ _ flag).mpr ⟨_, rfl, flag_holds⟩) ?_
  refine Take.bind_of_ok ((Take.record_ok_iff _ _ _ _ ()).mpr ⟨_, identity, rfl, root, classed, rfl⟩) ?_
  exact Take.bind_of_ok rfl rfl

/-- A stream is a program exactly when it has the parts of one, in their order and with nothing behind them; the
program is made of these parts, and it knows each subchart by its name in any case. -/
theorem programs_accepted (messages : List Message) (program : Program) :
    ((∃ registry, ofMessages messages = .ok { program with registry }) ↔
        ∃ pieces : Pieces, pieces.messages = messages ∧ pieces.Spell program) ∧
      (ofMessages messages = .ok program → ∀ text place,
        program.registry.subchart? text = some place ↔
          ∃ subchart, program.subchart? place = some subchart ∧
            Text.foldName subchart.name = Text.foldName text) := by
  refine ⟨⟨?_, ?_⟩, ?_⟩
  · rintro ⟨registry, loaded⟩
    obtain ⟨rest, taken⟩ := (of_messages_ok_iff _ _).mp loaded
    obtain ⟨pieces, given, spell⟩ := (take_program_spells _ _ _ taken).1
    exact ⟨pieces, given, { spell with }⟩
  · rintro ⟨pieces, rfl, spell⟩
    obtain ⟨registry, taken⟩ := spells_take_program pieces program spell
    exact ⟨registry, (of_messages_ok_iff _ _).mpr ⟨[], taken⟩⟩
  · intro loaded text place
    obtain ⟨rest, taken⟩ := (of_messages_ok_iff _ _).mp loaded
    have lists := (take_program_spells _ _ _ taken).2
    unfold Registry.subchart? Program.subchart?
    rw [lists, List.getElem?_map, Option.map_eq_some_iff]
    rfl

theorem programs_accepted_doubling :
    ∃ messages program, Record.decode Sample.doubling = .ok messages ∧ ofMessages messages = .ok program ∧
      (∃ pieces : Pieces, pieces.messages = messages ∧ pieces.Spell program) ∧
      program.registry.subchart? "DOUBLE" = some 1 := by
  let program := Sample.loaded Sample.doubling Sample.doubling_loads
  have second : (program.subchart? 1).map Subchart.key = some (Text.foldName "DOUBLE") := by decide +kernel
  obtain ⟨messages, decoded, made⟩ := (load_ok_iff Sample.doubling program).mp (Sample.load_loaded _ _)
  have accepted := programs_accepted messages program
  exact ⟨messages, program, decoded, made, accepted.1.mp ⟨program.registry, made⟩,
    (accepted.2 made "DOUBLE" 1).mpr (Option.map_eq_some_iff.mp second)⟩

end Flowline.Program
