import Flowline.Program.Log
import Flowline.Proofs.Table.Ascending
import Mathlib.Data.List.Forall2
import Mathlib.Data.List.Induction
import Mathlib.Data.List.Perm.Subperm
import Mathlib.Data.List.Sort
import Mathlib.Data.List.TakeWhile

set_option autoImplicit false

namespace Flowline.Program

open Flowline.Graph (ClassKind Instance Member)

section Names

def Numbered (part : String) (number : Nat) (name : String) : Prop :=
  ∃ digits : List Char, name.toList = part.toList ++ digits ∧ digits ≠ [] ∧ (∀ c ∈ digits, c.isDigit = true) ∧
    Text.digitsValue digits = number

-- A part that has no digit at its end, so that all of the digits behind it belong to the number.
def Bare (part : String) : Prop := ∀ c, part.toList.getLast? = some c → c.isDigit = false

theorem trailing_digits (name : String) : ∀ c ∈ trailingDigits name, c.isDigit = true := by
  intro c member
  exact List.mem_takeWhile_imp (List.mem_reverse.mp member)

theorem stem_digits (name : String) : name.toList = (stem name).toList ++ trailingDigits name := by
  rw [stem, trailingDigits, String.toList_ofList, ← List.reverse_append, List.takeWhile_append_dropWhile,
    List.reverse_reverse]

theorem stem_bare (name : String) : Bare (stem name) := by
  intro c last
  rw [stem, String.toList_ofList, List.getLast?_reverse] at last
  have plain := List.head?_dropWhile_not Char.isDigit name.toList.reverse
  rw [last] at plain
  exact plain

variable {part name : String} {number : Nat}

theorem stem_of_bare (bare : Bare part) (digits : List Char) (figures : ∀ c ∈ digits, c.isDigit = true)
    (whole : name.toList = part.toList ++ digits) : stem name = part ∧ trailingDigits name = digits := by
  have figures_back : ∀ c ∈ digits.reverse, c.isDigit = true := fun c member => figures c (List.mem_reverse.mp member)
  have plain : ∀ c, part.toList.reverse.head? = some c → c.isDigit = false := by
    intro c first
    rw [List.head?_reverse] at first
    exact bare c first
  rw [stem, trailingDigits, whole, List.reverse_append, List.takeWhile_append_of_pos figures_back,
    List.dropWhile_append_of_pos figures_back]
  cases back : part.toList.reverse with
  | nil => simp [← String.toList_inj, List.reverse_eq_nil_iff.mp back]
  | cons c rest =>
      have stops : c.isDigit = false := plain c (by rw [back]; rfl)
      rw [List.takeWhile_cons_of_neg (by simp [stops]), List.dropWhile_cons_of_neg (by simp [stops]), ← back]
      simp

theorem numbered_iff (bare : Bare part) :
    Numbered part number name ↔
      stem name = part ∧ trailingDigits name ≠ [] ∧ Text.digitsValue (trailingDigits name) = number := by
  constructor
  · rintro ⟨digits, whole, some_digit, figures, value⟩
    obtain ⟨same, trailing⟩ := stem_of_bare bare digits figures whole
    rw [trailing]
    exact ⟨same, some_digit, value⟩
  · rintro ⟨rfl, some_digit, value⟩
    exact ⟨trailingDigits name, stem_digits name, some_digit, trailing_digits name, value⟩

theorem entry_number_iff :
    entryNumber? name = some number ↔
      number < Text.wordLimit ∧ trailingDigits name ≠ [] ∧ Text.digitsValue (trailingDigits name) = number := by
  have figures : (trailingDigits name).all Char.isDigit = true := List.all_eq_true.mpr (trailing_digits name)
  unfold entryNumber? Text.naturalBelow?
  split
  · rename_i within
    rw [Option.some.injEq]
    refine ⟨?_, fun parts => parts.2.2⟩
    rintro rfl
    exact ⟨within.2.2, within.1, rfl⟩
  · rename_i without
    refine ⟨nofun, ?_⟩
    rintro ⟨fits, some_digit, rfl⟩
    exact absurd ⟨some_digit, figures, fits⟩ without

theorem numbered_entry (bare : Bare part) (fits : number < Text.wordLimit) :
    Numbered part number name ↔ stem name = part ∧ entryNumber? name = some number := by
  rw [numbered_iff bare, entry_number_iff]
  exact ⟨fun parts => ⟨parts.1, fits, parts.2⟩, fun parts => ⟨parts.1, parts.2.2⟩⟩

end Names

section Entries

variable (graph : Graph)

def own (members : List (String × Member)) (number : Nat) : List (String × Member) :=
  members.filter fun member => entryNumber? member.1 = some number

def noted (members : List (String × Member)) (entry : LogEntry) : LogEntry :=
  members.foldl (fun entry member => entry.note graph (stem member.1) member.2) entry

theorem log_entries_snoc (members : List (String × Member)) (member : String × Member) :
    logEntries graph (members ++ [member]) =
      match entryNumber? member.1 with
      | none => logEntries graph members
      | some number =>
          (logEntries graph members).insert number
            ((((logEntries graph members).get? number).getD .empty).note graph (stem member.1) member.2) := by
  unfold logEntries
  rw [List.foldl_append]
  rfl

theorem log_entries_sorted (members : List (String × Member)) : (logEntries graph members).Sorted := by
  induction members using List.reverseRecOn with
  | nil => exact Table.sorted_empty
  | append_singleton members member ih =>
      rw [log_entries_snoc]
      split
      · exact ih
      · exact Table.sorted_insert _ _ _ ih

theorem log_entries_get (members : List (String × Member)) (number : Nat) :
    (logEntries graph members).get? number =
      if own members number = [] then none else some (noted graph (own members number) .empty) := by
  induction members using List.reverseRecOn with
  | nil => rfl
  | append_singleton members member ih =>
      have before : ((logEntries graph members).get? number).getD .empty = noted graph (own members number) .empty := by
        rw [ih]
        by_cases none_yet : own members number = []
        · rw [if_pos none_yet, none_yet]
          rfl
        · rw [if_neg none_yet]
          rfl
      have others : own (members ++ [member]) number =
          own members number ++ [member].filter fun member => entryNumber? member.1 = some number :=
        List.filter_append ..
      rw [log_entries_snoc]
      by_cases counts : entryNumber? member.1 = some number
      · rw [List.filter_cons_of_pos (by simpa using counts), List.filter_nil] at others
        simp only [counts]
        rw [Table.get?_insert_self, before, others, if_neg (by simp), noted, noted, List.foldl_append]
        rfl
      · rw [List.filter_cons_of_neg (by simpa using counts), List.filter_nil, List.append_nil] at others
        rw [others, ← ih]
        split
        · rfl
        · rename_i other found
          refine Table.get?_insert_of_ne _ _ _ _ fun same => counts ?_
          rw [found, same]

theorem own_some_iff (members : List (String × Member)) (number : Nat) :
    own members number ≠ [] ↔ ∃ member ∈ members, entryNumber? member.1 = some number := by
  rw [own, ne_eq, List.filter_eq_nil_iff]
  simp

theorem log_numbers (members : List (String × Member)) (number : Nat) :
    number ∈ (logEntries graph members).keys ↔ ∃ member ∈ members, entryNumber? member.1 = some number := by
  rw [Table.mem_keys_iff _ (log_entries_sorted graph members), log_entries_get, ← own_some_iff]
  by_cases none_there : own members number = [] <;> simp [none_there]

theorem log_values (members : List (String × Member)) :
    (logEntries graph members).values =
      (logEntries graph members).keys.map fun number => noted graph (own members number) .empty := by
  refine Table.values_found _ (log_entries_sorted graph members) _ fun number member => ?_
  have known := (own_some_iff members number).mpr ((log_numbers graph members number).mp member)
  rw [log_entries_get, if_neg known]

theorem log_numbers_ascend (members : List (String × Member)) : (logEntries graph members).keys.Pairwise (· < ·) := by
  refine List.pairwise_map.mpr ((log_entries_sorted graph members).imp fun before => ?_)
  exact Nat.compare_eq_lt.mp before

end Entries

section Fields

variable (graph : Graph) {α : Type}

def textOf : Member → Option String
  | .ref id => Graph.string? graph id
  | _ => none

def ticksOf : Member → Option UInt64
  | .primitive value => value.ticks?
  | _ => none

-- A kind is a number, or an object that holds one.
def kindOf : Member → Option Int32
  | .ref id => (Graph.instance? graph id).bind (·.int? "value__")
  | .primitive (.int32 value) => some value
  | _ => none

structure Noted (field : LogEntry → Option α) (part : String) (read : Member → Option α) : Prop where
  unsaid : field .empty = none
  taken : ∀ entry member, field entry = none → field (entry.note graph part member) = read member
  left : ∀ entry name member, name ≠ part → field (entry.note graph name member) = field entry

theorem noted_user : Noted graph LogEntry.user "_user" (textOf graph) where
  unsaid := rfl
  taken entry member unsaid := by cases member <;> simp [LogEntry.note, textOf, unsaid]
  left entry name member other := by
    unfold LogEntry.note
    split
    · exact absurd rfl other
    all_goals rfl

theorem noted_machine : Noted graph LogEntry.machine "_machine" (textOf graph) where
  unsaid := rfl
  taken entry member unsaid := by cases member <;> simp [LogEntry.note, textOf, unsaid]
  left entry name member other := by
    unfold LogEntry.note
    split
    · rfl
    · exact absurd rfl other
    all_goals rfl

theorem noted_ticks : Noted graph LogEntry.ticks "_date" ticksOf where
  unsaid := rfl
  taken entry member unsaid := by cases member <;> simp [LogEntry.note, ticksOf, unsaid]
  left entry name member other := by
    unfold LogEntry.note
    split
    · rfl
    · rfl
    · exact absurd rfl other
    all_goals rfl

theorem noted_kind : Noted graph LogEntry.kind "_kind" (kindOf graph) where
  unsaid := rfl
  taken entry member unsaid := by
    cases member with
    | primitive value => cases value <;> simp [LogEntry.note, kindOf, unsaid]
    | _ => simp [LogEntry.note, kindOf, unsaid]
  left entry name member other := by
    unfold LogEntry.note
    split
    · rfl
    · rfl
    · rfl
    · exact absurd rfl other
    · exact absurd rfl other
    · rfl

variable {graph} {field : LogEntry → Option α} {part : String} {read : Member → Option α}

theorem noted_absent (noting : Noted graph field part read) (members : List (String × Member)) (entry : LogEntry)
    (absent : ∀ member ∈ members, stem member.1 ≠ part) : field (noted graph members entry) = field entry := by
  induction members generalizing entry with
  | nil => rfl
  | cons member members ih =>
      have parts := List.forall_mem_cons.mp absent
      change field (noted graph members _) = field entry
      rw [ih _ parts.2, noting.left entry _ _ parts.1]

theorem noted_once (noting : Noted graph field part read) (members : List (String × Member)) (entry : LogEntry)
    (unsaid : field entry = none)
    (once : members.Pairwise fun before after => stem before.1 = part → stem after.1 ≠ part) (name : String)
    (value : Member) (member : (name, value) ∈ members) (named : stem name = part) :
    field (noted graph members entry) = read value := by
  induction members generalizing entry with
  | nil => cases member
  | cons first members ih =>
      have parts := List.pairwise_cons.mp once
      change field (noted graph members (entry.note graph (stem first.1) first.2)) = read value
      rcases List.mem_cons.mp member with rfl | later
      · rw [noted_absent noting members _ fun other inside => parts.1 other inside named, named,
          noting.taken entry value unsaid]
      · have apart : stem first.1 ≠ part := fun same => parts.1 (name, value) later same named
        exact ih _ ((noting.left entry _ _ apart).trans unsaid) parts.2 later

end Fields

section Logs

def logParts : List String := ["_user", "_machine", "_date", "_kind"]

theorem log_parts_bare : ∀ part ∈ logParts, Bare part := by
  simp [logParts, Bare]

-- The numbers that some member has behind its name, whatever it is, and those that belong to the log.
def Ending (members : List (String × Member)) (number : Nat) : Prop :=
  number < Text.wordLimit ∧ ∃ member ∈ members, ∃ part, Bare part ∧ Numbered part number member.1

def Logged (members : List (String × Member)) (number : Nat) : Prop :=
  number < Text.wordLimit ∧ ∃ member ∈ members, ∃ part ∈ logParts, Numbered part number member.1

-- No two members say the same of one entry.
def Distinct (members : List (String × Member)) : Prop :=
  members.Pairwise fun before after => ∀ part ∈ logParts, ∀ number < Text.wordLimit,
    Numbered part number before.1 → ¬ Numbered part number after.1

def Held {α : Type} (members : List (String × Member)) (part : String) (number : Nat) (read : Member → Option α)
    (value : Option α) : Prop :=
  (∀ name member, (name, member) ∈ members → Numbered part number name → value = read member) ∧
    ((∀ name member, (name, member) ∈ members → ¬ Numbered part number name) → value = none)

structure Describes (graph : Graph) (members : List (String × Member)) (number : Nat) (entry : LogEntry) : Prop where
  user : Held members "_user" number (textOf graph) entry.user
  machine : Held members "_machine" number (textOf graph) entry.machine
  ticks : Held members "_date" number ticksOf entry.ticks
  kind : Held members "_kind" number (kindOf graph) entry.kind

-- The entries of a log are those of some numbers, one for each in ascending order: what the members with the number say.
def Reports (graph : Graph) (self : Instance) (numbers : List Nat) (counted : Nat → Prop) : Prop :=
  numbers.Pairwise (· < ·) ∧ (∀ number, number ∈ numbers ↔ counted number) ∧
    (Log.ofInstance graph self).entries = numbers.map (fun number => noted graph (own self.members number) .empty) ∧
    (Distinct self.members → List.Forall₂ (Describes graph self.members) numbers (Log.ofInstance graph self).entries)

variable {members : List (String × Member)} {number : Nat}

theorem ending_iff : Ending members number ↔ ∃ member ∈ members, entryNumber? member.1 = some number := by
  constructor
  · rintro ⟨fits, member, inside, part, bare, named⟩
    exact ⟨member, inside, ((numbered_entry bare fits).mp named).2⟩
  · rintro ⟨member, inside, counts⟩
    have fits := (entry_number_iff.mp counts).1
    exact ⟨fits, member, inside, stem member.1, stem_bare member.1, (numbered_entry (stem_bare member.1) fits).mpr
      ⟨rfl, counts⟩⟩

theorem logged_ending (logged : Logged members number) : Ending members number := by
  obtain ⟨fits, member, inside, part, known, named⟩ := logged
  exact ⟨fits, member, inside, part, log_parts_bare part known, named⟩

theorem held_noted {α : Type} {graph : Graph} {field : LogEntry → Option α} {part : String} {read : Member → Option α}
    (noting : Noted graph field part read) (known : part ∈ logParts) (distinct : Distinct members)
    (fits : number < Text.wordLimit) :
    Held members part number read (field (noted graph (own members number) .empty)) := by
  have bare := log_parts_bare part known
  constructor
  · intro name member inside named
    obtain ⟨same, counts⟩ := (numbered_entry bare fits).mp named
    have once : (own members number).Pairwise fun before after => stem before.1 = part → stem after.1 ≠ part := by
      refine List.pairwise_filter.mpr (distinct.imp fun apart first second before after => ?_)
      exact apart part known number fits ((numbered_entry bare fits).mpr ⟨before, of_decide_eq_true first⟩)
        ((numbered_entry bare fits).mpr ⟨after, of_decide_eq_true second⟩)
    exact noted_once noting _ _ noting.unsaid once name member (List.mem_filter.mpr ⟨inside, decide_eq_true counts⟩) same
  · intro absent
    rw [noted_absent noting _ _ fun member inside same => ?_, noting.unsaid]
    obtain ⟨inside, counts⟩ := List.mem_filter.mp inside
    exact absent member.1 member.2 inside ((numbered_entry bare fits).mpr ⟨same, of_decide_eq_true counts⟩)

theorem describes_noted (graph : Graph) (distinct : Distinct members) (fits : number < Text.wordLimit) :
    Describes graph members number (noted graph (own members number) .empty) where
  user := held_noted (noted_user graph) (by simp [logParts]) distinct fits
  machine := held_noted (noted_machine graph) (by simp [logParts]) distinct fits
  ticks := held_noted (noted_ticks graph) (by simp [logParts]) distinct fits
  kind := held_noted (noted_kind graph) (by simp [logParts]) distinct fits

theorem reports_ending (graph : Graph) (self : Instance) :
    Reports graph self (logEntries graph self.members).keys (Ending self.members) := by
  refine ⟨log_numbers_ascend graph self.members, fun number => ?_, log_values graph self.members, fun distinct => ?_⟩
  · rw [log_numbers, ending_iff]
  · change List.Forall₂ _ _ (logEntries graph self.members).values
    rw [log_values, List.forall₂_map_right_iff, List.forall₂_same]
    intro number member
    have counts := ending_iff.mpr ((log_numbers graph self.members number).mp member)
    exact describes_noted graph distinct counts.1

theorem logged_iff :
    Logged members number ↔ ∃ member ∈ members, entryNumber? member.1 = some number ∧ stem member.1 ∈ logParts := by
  constructor
  · rintro ⟨fits, member, inside, part, known, named⟩
    obtain ⟨rfl, counts⟩ := (numbered_entry (log_parts_bare part known) fits).mp named
    exact ⟨member, inside, counts, known⟩
  · rintro ⟨member, inside, counts, known⟩
    have fits := (entry_number_iff.mp counts).1
    exact ⟨fits, member, inside, stem member.1, known, (numbered_entry (stem_bare member.1) fits).mpr ⟨rfl, counts⟩⟩

theorem reports_logged_iff (graph : Graph) (self : Instance) :
    (∃ numbers, Reports graph self numbers (Logged self.members)) ↔
      ∀ number, Ending self.members number → Logged self.members number := by
  obtain ⟨ascending, ends, entries, describes⟩ := reports_ending graph self
  constructor
  · rintro ⟨numbers, rising, counted, listed, -⟩ number ending
    have inside : numbers ⊆ (logEntries graph self.members).keys := fun number member =>
      (ends number).mpr (logged_ending ((counted number).mp member))
    have lengths := congrArg List.length (listed.symm.trans entries)
    rw [List.length_map, List.length_map] at lengths
    -- Without repeats, numbers among others that are no more than they are all of them.
    have all := (List.subperm_of_subset (rising.imp Nat.ne_of_lt) inside).perm_of_length_le (Nat.le_of_eq lengths.symm)
    exact (counted number).mp (all.mem_iff.mpr ((ends number).mpr ending))
  · intro whole
    exact ⟨_, ascending, fun number => (ends number).trans ⟨whole number, logged_ending⟩, entries, describes⟩

theorem held_unique {α : Type} {part : String} {read : Member → Option α} {one other : Option α}
    (first : Held members part number read one) (second : Held members part number read other) : one = other := by
  by_cases there : ∃ name member, (name, member) ∈ members ∧ Numbered part number name
  · obtain ⟨name, member, inside, named⟩ := there
    exact (first.1 name member inside named).trans (second.1 name member inside named).symm
  · have absent : ∀ name member, (name, member) ∈ members → ¬ Numbered part number name :=
      fun name member inside named => there ⟨name, member, inside, named⟩
    exact (first.2 absent).trans (second.2 absent).symm

theorem describes_unique {graph : Graph} {one other : LogEntry} (first : Describes graph members number one)
    (second : Describes graph members number other) : one = other := by
  cases one
  cases other
  rw [LogEntry.mk.injEq]
  exact ⟨held_unique first.user second.user, held_unique first.machine second.machine,
    held_unique first.ticks second.ticks, held_unique first.kind second.kind⟩

section Orders

variable {others : List (String × Member)} (same : others.Perm members)

include same

theorem held_perm {α : Type} {part : String} {read : Member → Option α} {value : Option α}
    (held : Held others part number read value) : Held members part number read value :=
  ⟨fun name member inside => held.1 name member (same.mem_iff.mpr inside),
    fun absent => held.2 fun name member inside => absent name member (same.mem_iff.mp inside)⟩

theorem describes_perm {graph : Graph} {entry : LogEntry} (describes : Describes graph others number entry) :
    Describes graph members number entry where
  user := held_perm same describes.user
  machine := held_perm same describes.machine
  ticks := held_perm same describes.ticks
  kind := held_perm same describes.kind

theorem distinct_perm (distinct : Distinct members) : Distinct others :=
  (same.pairwise_iff fun apart part known number fits after before =>
    apart part known number fits before after).mpr distinct

theorem log_numbers_perm (graph : Graph) : (logEntries graph others).keys = (logEntries graph members).keys := by
  have first := log_numbers_ascend graph others
  have second := log_numbers_ascend graph members
  refine first.eq_of_mem_iff second fun number => ?_
  rw [log_numbers, log_numbers]
  exact exists_congr fun member => and_congr_left fun _ => same.mem_iff

end Orders

theorem entries_perm (graph : Graph) (self other : Instance) (distinct : Distinct self.members)
    (same : other.members.Perm self.members) :
    (Log.ofInstance graph other).entries = (Log.ofInstance graph self).entries := by
  change (logEntries graph other.members).values = (logEntries graph self.members).values
  rw [log_values, log_values, log_numbers_perm same]
  refine List.map_congr_left fun number member => ?_
  have fits := (ending_iff.mpr ((log_numbers graph self.members number).mp member)).1
  exact describes_unique (describes_perm same (describes_noted graph (distinct_perm same distinct) fits))
    (describes_noted graph distinct fits)

/-- A log has an entry for each number behind the name of a member, in ascending order, and says there what the members
with the number say. So it has those that belong to the log exactly if no other member has a number of its own at the end
of its name. If no two members say the same of one entry, each value is that of its own member, and the order of the
members tells nothing. -/
theorem log_reported (graph : Graph) (self : Instance) :
    (∃ numbers, Reports graph self numbers (Ending self.members)) ∧
      ((∃ numbers, Reports graph self numbers (Logged self.members)) ↔
        ∀ number, Ending self.members number → Logged self.members number) ∧
      (Distinct self.members → ∀ other : Instance, other.members.Perm self.members →
        (Log.ofInstance graph other).entries = (Log.ofInstance graph self).entries) :=
  ⟨⟨_, reports_ending graph self⟩, reports_logged_iff graph self, fun distinct other same =>
    entries_perm graph self other distinct same⟩

end Logs

section Samples

def ofMembers (members : List (String × Member)) : Instance :=
  ⟨⟨ClassKind.loggingInfo.name, .loggingInfo, ClassKind.loggingInfo.library, members.map fun member => ⟨member.1, .object⟩⟩,
    (members.map Prod.snd).toArray⟩

-- Two users and a date, the higher number first, and a number with a zero in front of it.
def crew : List (String × Member) :=
  [("_date10", .primitive (.dateTime 5)), ("_user02", .ref 7), ("_count", .primitive (.int32 2)), ("_user10", .ref 8)]

def names : Graph := Table.ofList [(7, .string "ann"), (8, .string "bob")]

theorem distinct_named {members : List (String × Member)}
    (apart : members.Pairwise fun before after => stem before.1 = stem after.1 →
      entryNumber? before.1 = entryNumber? after.1 → entryNumber? before.1 = none) : Distinct members := by
  refine apart.imp fun {before after} apart part known number fits first second => ?_
  have bare := log_parts_bare part known
  obtain ⟨one, counts⟩ := (numbered_entry bare fits).mp first
  obtain ⟨other, again⟩ := (numbered_entry bare fits).mp second
  have unnumbered := apart (one.trans other.symm) (counts.trans again.symm)
  rw [counts] at unnumbered
  cases unnumbered

theorem log_reported_crew :
    (Log.ofInstance names (ofMembers crew)).entries = [⟨"ann", none, none, none⟩, ⟨"bob", none, some 5, none⟩] ∧
      (∃ numbers, Reports names (ofMembers crew) numbers (Logged crew)) ∧ Distinct crew ∧
      (Log.ofInstance names (ofMembers crew.reverse)).entries = (Log.ofInstance names (ofMembers crew)).entries := by
  have distinct : Distinct crew := distinct_named (by decide +kernel)
  have logged : ∀ member ∈ crew, entryNumber? member.1 = none ∨ stem member.1 ∈ logParts := by decide +kernel
  have whole : ∀ number, Ending crew number → Logged crew number := by
    intro number ending
    obtain ⟨member, inside, counts⟩ := ending_iff.mp ending
    rcases logged member inside with unnumbered | known
    · rw [counts] at unnumbered
      cases unnumbered
    · exact logged_iff.mpr ⟨member, inside, counts, known⟩
  have reported := log_reported names (ofMembers crew)
  exact ⟨by decide +kernel, reported.2.1.mpr whole, distinct,
    reported.2.2 distinct (ofMembers crew.reverse) (List.reverse_perm crew)⟩

-- A member that is none of a log's has a number behind its name.
def stray : List (String × Member) := [("_count", .primitive (.int32 0)), ("extra7", .primitive (.int32 0))]

theorem log_misreported :
    (Log.ofInstance ∅ (ofMembers stray)).entries = [.empty] ∧
      ¬ ∃ numbers, Reports ∅ (ofMembers stray) numbers (Logged stray) := by
  have ending : Ending stray 7 := ending_iff.mpr (by decide +kernel)
  have unlogged : ¬ Logged stray 7 := by
    rw [logged_iff]
    decide +kernel
  exact ⟨by decide +kernel, fun reports => unlogged ((reports_logged_iff ∅ (ofMembers stray)).mp reports 7 ending)⟩

end Samples

end Flowline.Program
