import Flowline.Program.Load
import Flowline.Proofs.Chart.Whole

set_option autoImplicit false

namespace Flowline.Program

structure Whole (program : Program) : Prop where
  nonempty : 0 < program.subcharts.length
  charts : ∀ subchart ∈ program.subcharts, subchart.flowchart.Whole

namespace Take

theorem bind_ok {α β : Type} {first : Take α} {next : α → Take β} {messages : List Graph.Message}
    {result : β × List Graph.Message} (done : (first >>= next) messages = .ok result) :
    ∃ value rest, first messages = .ok (value, rest) ∧ next value rest = .ok result := by
  change (first messages >>= fun taken => next taken.1 taken.2) = .ok result at done
  cases taken : first messages with
  | error fault =>
      rw [taken] at done
      cases done
  | ok pair =>
      rw [taken] at done
      exact ⟨pair.1, pair.2, rfl, done⟩

theorem pure_ok {α : Type} {value : α} {messages : List Graph.Message} {result : α × List Graph.Message}
    (done : (pure value : Take α) messages = .ok result) : result = (value, messages) := by
  cases done
  rfl

theorem flowchart_whole (messages rest : List Graph.Message) (chart : Flowchart)
    (taken : flowchart messages = .ok (chart, rest)) : chart.Whole := by
  obtain ⟨message, later, -, read⟩ := bind_ok taken
  cases made : Flowchart.ofGraph message.graph message.rootId with
  | error fault =>
      rw [made] at read
      cases read
  | ok made_chart =>
      rw [made] at read
      cases pure_ok read
      exact Flowchart.of_graph_whole message.graph message.rootId chart made

end Take

theorem take_headers_length (count : Nat) (messages rest : List Graph.Message) (headers : List Header)
    (taken : takeHeaders count messages = .ok (headers, rest)) : headers.length = count := by
  induction count generalizing messages rest headers with
  | zero =>
      cases Take.pure_ok taken
      rfl
  | succ count ih =>
      obtain ⟨header, middle, -, following⟩ := Take.bind_ok taken
      obtain ⟨others, last, more, built⟩ := Take.bind_ok following
      cases Take.pure_ok built
      rw [List.length_cons, ih middle rest others more]

theorem take_subcharts_whole (registry : Registry) (place : Nat) (headers : List Header)
    (messages rest : List Graph.Message) (subcharts : List Subchart) (known : Registry)
    (taken : takeSubcharts registry place headers messages = .ok ((subcharts, known), rest)) :
    subcharts.length = headers.length ∧ ∀ subchart ∈ subcharts, subchart.flowchart.Whole := by
  induction headers generalizing registry place messages rest subcharts known with
  | nil =>
      cases Take.pure_ok taken
      exact ⟨rfl, fun subchart member => nomatch member⟩
  | cons header headers ih =>
      obtain ⟨chart, afterChart, charted, following⟩ := Take.bind_ok taken
      obtain ⟨trailer, afterTrailer, -, following⟩ := Take.bind_ok following
      obtain ⟨defined, afterName, -, following⟩ := Take.bind_ok following
      obtain ⟨⟨others, final⟩, last, more, built⟩ := Take.bind_ok following
      cases Take.pure_ok built
      obtain ⟨count, whole⟩ := ih defined (place + 1) afterName rest others known more
      refine ⟨by rw [List.length_cons, List.length_cons, count], fun subchart member => ?_⟩
      rcases List.mem_cons.mp member with same | later
      · subst same
        exact Take.flowchart_whole messages afterChart chart charted
      · exact whole subchart later

theorem take_count_positive (messages rest : List Graph.Message) (count : Nat)
    (taken : takeCount messages = .ok (count, rest)) : 0 < count := by
  obtain ⟨given, later, -, checked⟩ := Take.bind_ok taken
  split at checked
  · cases checked
  · rename_i positive
    cases Take.pure_ok checked
    have above : 0 < given.toInt := by
      rw [Int32.le_iff_toInt_le] at positive
      simpa using positive
    omega

theorem take_program_subcharts (messages rest : List Graph.Message) (program : Program)
    (taken : takeProgram messages = .ok (program, rest)) :
    ∃ count headers before afterCount afterHeaders afterCharts, takeCount before = .ok (count, afterCount) ∧
      takeHeaders count afterCount = .ok (headers, afterHeaders) ∧
      takeSubcharts .standard 0 headers afterHeaders = .ok ((program.subcharts, program.registry), afterCharts) := by
  obtain ⟨version, afterVersion, -, following⟩ := Take.bind_ok taken
  obtain ⟨masterMode, afterMode, -, following⟩ := Take.bind_ok following
  obtain ⟨count, afterCount, counted, following⟩ := Take.bind_ok following
  obtain ⟨headers, afterHeaders, headed, following⟩ := Take.bind_ok following
  obtain ⟨⟨subcharts, registry⟩, afterCharts, charted, following⟩ := Take.bind_ok following
  obtain ⟨log, afterLog, -, following⟩ := Take.bind_ok following
  obtain ⟨flag, afterFlag, -, following⟩ := Take.bind_ok following
  obtain ⟨guid, afterGuid, -, following⟩ := Take.bind_ok following
  obtain ⟨ended, last, -, built⟩ := Take.bind_ok following
  cases Take.pure_ok built
  exact ⟨count, headers, afterMode, afterCount, afterHeaders, afterCharts, counted, headed, charted⟩

theorem take_program_whole (messages rest : List Graph.Message) (program : Program)
    (taken : takeProgram messages = .ok (program, rest)) : program.Whole := by
  obtain ⟨count, headers, before, afterCount, afterHeaders, afterCharts, counted, headed, charted⟩ :=
    take_program_subcharts messages rest program taken
  have positive := take_count_positive before afterCount count counted
  have many := take_headers_length count afterCount afterHeaders headers headed
  obtain ⟨length, whole⟩ := take_subcharts_whole .standard 0 headers afterHeaders afterCharts program.subcharts
    program.registry charted
  exact ⟨by rw [length, many]; exact positive, whole⟩

theorem of_messages_ok_iff (messages : List Graph.Message) (program : Program) :
    ofMessages messages = .ok program ↔ ∃ rest, takeProgram messages = .ok (program, rest) := by
  unfold ofMessages StateT.run'
  cases taken : takeProgram messages with
  | error fault => exact ⟨nofun, nofun⟩
  | ok pair =>
      constructor
      · intro done
        cases done
        exact ⟨pair.2, rfl⟩
      · rintro ⟨rest, same⟩
        cases same
        rfl

theorem load_ok_iff (bytes : List UInt8) (program : Program) :
    load bytes = .ok program ↔ ∃ messages, Record.decode bytes = .ok messages ∧ ofMessages messages = .ok program := by
  unfold load
  cases Record.decode bytes with
  | error fault => exact ⟨nofun, nofun⟩
  | ok messages =>
      dsimp only
      cases made : ofMessages messages with
      | error fault =>
          refine ⟨nofun, ?_⟩
          rintro ⟨_, ⟨⟩, same⟩
          rw [made] at same
          cases same
      | ok found =>
          constructor
          · intro done
            cases done
            exact ⟨messages, rfl, made⟩
          · rintro ⟨_, ⟨⟩, same⟩
            rw [made] at same
            cases same
            rfl

theorem load_whole (bytes : List UInt8) (program : Program) (loaded : load bytes = .ok program) :
    program.Whole := by
  obtain ⟨messages, -, made⟩ := (load_ok_iff bytes program).mp loaded
  obtain ⟨rest, taken⟩ := (of_messages_ok_iff messages program).mp made
  exact take_program_whole messages rest program taken

end Flowline.Program
