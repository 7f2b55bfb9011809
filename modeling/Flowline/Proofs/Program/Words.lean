import Flowline.Proofs.Execution.Soundness
import Flowline.Proofs.Label.Built
import Flowline.Proofs.Store.Blind

set_option autoImplicit false

namespace Flowline

open Chart (ComponentId Component)

def Chart.Component.texts (component : Component) : List String :=
  match component.role with
  | .output prompt | .input prompt => [component.label, prompt]
  | _ => [component.label]

theorem Chart.Component.label_mem_texts (component : Component) : component.label ∈ component.texts := by
  unfold texts
  split <;> exact List.mem_cons_self

namespace Label

def mentions (word source : String) : Bool :=
  match tokenize source with
  | .ok placed => placed.any fun token => token.1 = .name word
  | .error _ => false

theorem mentions_iff (word source : String) : mentions word source = true ↔ Mentions word source := by
  unfold mentions Mentions Scans
  cases tokenize source with
  | error error => simp
  | ok placed => simp

end Label

namespace Program

def Avoids (program : Program) (word : String) : Prop :=
  ∀ place id component, program.component? place id = some component →
    ∀ text ∈ component.texts, ¬ Label.Mentions word text

theorem avoids_of_texts (program : Program) (word : String)
    (absent : ∀ subchart ∈ program.subcharts, ∀ entry ∈ subchart.flowchart.components.entries,
      ∀ text ∈ entry.2.texts, Label.mentions word text = false) : program.Avoids word := by
  intro place id component found text member mentions
  obtain ⟨subchart, charted, held⟩ := program.component_cases place id component found
  have listed := Table.mem_of_seek_ascending id component subchart.flowchart.components.entries held
  have unnamed := absent subchart (program.subchart_valid place subchart charted).2 (id, component) listed text member
  rw [(Label.mentions_iff word text).mpr mentions] at unnamed
  cases unnamed

section Functions

theorem take_subcharts_functions (registry : Registry) (place : Nat) (headers : List Header)
    (messages rest : List Graph.Message) (subcharts : List Subchart) (known : Registry)
    (taken : takeSubcharts registry place headers messages = .ok ((subcharts, known), rest)) :
    known.functions = registry.functions := by
  induction headers generalizing registry place messages rest subcharts known with
  | nil =>
      cases Take.pure_ok taken
      rfl
  | cons header headers ih =>
      obtain ⟨chart, afterChart, _, following⟩ := Take.bind_ok taken
      obtain ⟨trailer, afterTrailer, _, following⟩ := Take.bind_ok following
      obtain ⟨defined, afterName, named, following⟩ := Take.bind_ok following
      obtain ⟨⟨others, final⟩, last, more, built⟩ := Take.bind_ok following
      cases Take.pure_ok built
      have same := ih defined (place + 1) afterName rest others known more
      unfold defineSubchart Registry.defineSubchart? at named
      by_cases present : registry.subcharts.contains (Text.foldName header.name) = true
      · rw [if_pos present] at named
        cases named
      · rw [if_neg present] at named
        cases Take.pure_ok named
        exact same

theorem load_functions (bytes : List UInt8) (program : Program) (loaded : load bytes = .ok program) :
    program.registry.functions = Registry.standard.functions := by
  obtain ⟨messages, _, made⟩ := (load_ok_iff bytes program).mp loaded
  obtain ⟨rest, taken⟩ := (of_messages_ok_iff messages program).mp made
  obtain ⟨count, headers, before, afterCount, afterHeaders, afterCharts, _, _, charted⟩ :=
    take_program_subcharts messages rest program taken
  exact take_subcharts_functions .standard 0 headers afterHeaders afterCharts program.subcharts program.registry charted

theorem standard_draws : Registry.standard.DrawsBy "random" := by
  have only : ∀ entry ∈ Registry.standard.functions.entries, entry.2 = .random → entry.1 = "random" := by
    decide +kernel
  intro name found
  exact only (name, .random) (Table.mem_of_seek_ascending name Function.random _ found) rfl

theorem load_draws (bytes : List UInt8) (program : Program) (loaded : load bytes = .ok program) :
    program.registry.DrawsBy "random" := by
  intro name found
  rw [Registry.function?, load_functions bytes program loaded] at found
  exact standard_draws name found

end Functions

end Program

end Flowline
