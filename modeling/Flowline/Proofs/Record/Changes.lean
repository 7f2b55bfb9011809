import Flowline.Outcome
import Flowline.Proofs.Text.Narrow
import Flowline.Record.Decode

set_option autoImplicit false

namespace Flowline.Record

open Flowline.Graph

section Gives

variable {α : Type} {good : α → Prop}

theorem gives_lift (result : Except Fault α) (each : ∀ value, result = .ok value → good value) :
    Gives (Read.lift result) good := by
  intro cursor value after done
  cases done
  exact each value rfl

theorem gives_fail (fault : Fault) : Gives (Read.fail fault) good := by
  intro cursor value after done
  cases done

end Gives

theorem finish_ok (draft : Draft) (header : Header) (message : Message) (done : draft.finish header = .ok message) :
    draft.pending.entries = [] ∧ draft.graph.contains header.top = true ∧
      message = ⟨header, draft.graph, draft.libraries⟩ := by
  unfold Draft.finish at done
  split at done
  · cases done
  · rename_i settled
    by_cases root : draft.graph.contains header.top = true
    · rw [if_pos root] at done
      cases done
      exact ⟨settled, root, rfl⟩
    · rw [if_neg root] at done
      cases done

inductive Change (before : Draft) (position : Nat) : Draft → Prop where
  | library (id : LibraryId) (name : String) :
      Change before position { before with libraries := before.libraries.insert id name }
  | primitive (value : Primitive) (after : Draft) (done : before.store (.primitive value) position = .ok after) :
      Change before position after
  | reference (id : ObjectId) (after : Draft)
      (done : before.store (if before.graph.contains id then .ref id else .pending id) position = .ok after) :
      Change before position after
  | nulls (count : Nat) (after : Draft) (done : before.storeNulls count position = .ok after) :
      Change before position after
  | string (id : ObjectId) (value : String) (after : Draft)
      (done : before.add id (.string value) none position = .ok after) : Change before position after
  | array (id : ObjectId) (length : Nat) (element : SlotType) (after : Draft)
      (done : before.addArray id length element position = .ok after) : Change before position after
  | object (id other : ObjectId) (info : ClassInfo) (after : Draft)
      (declared : before.declarations.get? other = some info)
      (done : before.addInstance id info position = .ok after) : Change before position after
  | declaration (id : ObjectId) (name : String) (library : LibraryId) (members : List MemberInfo) (after : Draft)
      (done : before.addClass id name library members position = .ok after) : Change before position after

theorem narrow_read : Gives Read.string fun text => Text.Narrow text.toList := by
  refine gives_bind _ _ fun count => gives_bind _ _ fun bytes => gives_pure _ fun c member => ?_
  rw [String.toList_ofList] at member
  obtain ⟨byte, _, same⟩ := List.mem_map.mp member
  rw [← same, Text.to_nat_of_narrow _ byte.toNat_lt]
  exact byte.toNat_lt

-- A condition on what becomes of a draft that is met by all that a record may do to it.
structure Admits (draft : Draft) (position : Nat) (good : Draft → Prop) : Prop where
  library : ∀ id name, good { draft with libraries := draft.libraries.insert id name }
  primitive : ∀ value after, draft.store (.primitive value) position = .ok after → good after
  reference : ∀ id after, draft.store (if draft.graph.contains id then .ref id else .pending id) position = .ok after →
    good after
  nulls : ∀ count after, draft.storeNulls count position = .ok after → good after
  string : ∀ id (value : String) after, Text.Narrow value.toList →
    draft.add id (.string value) none position = .ok after → good after
  array : ∀ id length element after, draft.addArray id length element position = .ok after → good after
  object : ∀ id other info after, draft.declarations.get? other = some info →
    draft.addInstance id info position = .ok after → good after
  declaration : ∀ id name library members after, draft.addClass id name library members position = .ok after →
    good after

section Records

variable (draft : Draft)

section Admitted

variable {draft} {good : Nat → Draft → Prop} (admits : ∀ start, Admits draft start (good start))

include admits

theorem class_gives (inLibrary : Bool) (start : Nat) : Gives (readClass draft inLibrary start) (good start) :=
  gives_bind _ _ fun id => gives_bind _ _ fun name => gives_bind _ _ fun _ => gives_bind _ _ fun _ =>
    gives_bind _ _ fun _ => gives_bind _ _ fun _ => gives_bind _ _ fun library =>
      gives_lift _ ((admits start).declaration id name library _)

theorem array_gives (start : Nat) : Gives (readArray draft start) (good start) := by
  refine gives_bind _ _ fun id => gives_bind _ _ fun shape => gives_bind _ _ fun _ => gives_bind _ _ fun lengths =>
    gives_bind _ _ fun _ => gives_bind _ _ fun _ => gives_bind _ _ fun type => ?_
  split
  · exact gives_lift _ ((admits start).array id _ type)
  · exact gives_fail _

theorem object_gives (start : Nat) : Gives (readObject draft start) (good start) := by
  refine gives_bind _ _ fun id => gives_bind _ _ fun other => ?_
  cases declared : draft.declarations.get? other with
  | some info => exact gives_lift _ fun after done => (admits start).object id other info after declared done
  | none => exact gives_fail _

theorem record_gives (tag : RecordTag) (start : Nat) : Gives (readRecord draft tag start) (good start) := by
  cases tag with
  | library => exact gives_bind _ _ fun id => gives_bind _ _ fun name => gives_pure _ ((admits start).library id name)
  | systemClass => exact class_gives admits false start
  | libraryClass => exact class_gives admits true start
  | object => exact object_gives admits start
  | string =>
      exact gives_bind _ _ fun id => gives_bind_of _ _ narrow_read fun value narrow =>
        gives_lift _ fun after done => (admits start).string id value after narrow done
  | primitiveArray =>
      exact gives_bind _ _ fun id => gives_bind _ _ fun length => gives_bind _ _ fun _ =>
        gives_lift _ ((admits start).array id length _)
  | objectArray | stringArray =>
      exact gives_bind _ _ fun id => gives_bind _ _ fun length => gives_lift _ ((admits start).array id length _)
  | array => exact array_gives admits start
  | primitive =>
      exact gives_bind _ _ fun _ => gives_bind _ _ fun value => gives_lift _ ((admits start).primitive value)
  | reference => exact gives_bind _ _ fun id => gives_lift _ ((admits start).reference id)
  | null => exact gives_lift _ ((admits start).nulls 1)
  | nullsShort => exact gives_bind _ _ fun _ => gives_lift _ ((admits start).nulls _)
  | nulls => exact gives_bind _ _ fun count => gives_lift _ ((admits start).nulls count)
  | _ => exact gives_fail _

-- After the next item full objects are closed. At the end of the message no object is open.
theorem item_gives : Gives (readItem draft) fun following =>
    match following with
    | some next => ∃ position middle, good position middle ∧ next = middle.closeFilled
    | none => draft.stack = [] := by
  unfold readItem
  cases draft.primitive? with
  | some kind =>
      refine gives_bind _ _ fun start => gives_bind _ _ fun value => ?_
      exact gives_bind_of _ _ (gives_lift _ ((admits start).primitive value)) fun middle held =>
        gives_pure _ ⟨start, middle, held, rfl⟩
  | none =>
      refine gives_bind _ _ fun start => gives_bind _ _ fun tag => ?_
      by_cases ends : tag = .messageEnd
      · simp only [if_pos ends]
        cases stack : draft.stack with
        | nil => exact gives_pure _ rfl
        | cons frame outer => exact gives_fail _
      · simp only [if_neg ends]
        exact gives_bind_of _ _ (record_gives admits tag start) fun middle held =>
          gives_pure _ ⟨start, middle, held, rfl⟩

end Admitted

theorem change_admits (start : Nat) : Admits draft start (Change draft start) where
  library := .library
  primitive := .primitive
  reference := .reference
  nulls := .nulls
  string := fun id value after _ done => .string id value after done
  array := .array
  object := .object
  declaration := .declaration

theorem item_change : Gives (readItem draft) fun following =>
    match following with
    | some next => ∃ position middle, Change draft position middle ∧ next = middle.closeFilled
    | none => draft.stack = [] :=
  item_gives (change_admits draft)

theorem items_bind : readItems draft = readItem draft >>= fun following =>
    match following with
    | some next => readItems next
    | none => pure draft := by
  funext cursor
  rw [readItems, run_bind]
  split <;> rename_i step <;> rw [step]
  rfl

theorem items_carry (invariant : Draft → Prop)
    (each : ∀ draft, invariant draft → Gives (readItem draft) fun following =>
      ∀ next, following = some next → invariant next)
    (holds : invariant draft) : Gives (readItems draft) fun last => invariant last ∧ last.stack = [] := by
  intro cursor last after done
  fun_induction readItems draft cursor with
  | case1 draft cursor fault next step => cases done
  | case2 draft cursor next step =>
      cases done
      exact ⟨holds, item_change last cursor none after step⟩
  | case3 draft cursor following next step ih =>
      exact ih (each draft holds cursor (some following) next step following rfl) done

theorem items_keep (invariant : Draft → Prop)
    (each : ∀ draft position middle, invariant draft → Change draft position middle → invariant middle.closeFilled)
    (holds : invariant draft) : Gives (readItems draft) fun last => invariant last ∧ last.stack = [] := by
  refine items_carry draft invariant (fun draft holds cursor following after done next same => ?_) holds
  subst same
  obtain ⟨position, middle, change, same⟩ := item_change draft cursor (some next) after done
  subst same
  exact each draft position middle holds change

end Records

theorem messages_each (good : Message → Prop) (each : Gives readMessage good) (cursor : Cursor)
    (messages : List Message) (done : readMessages cursor = .ok messages) : ∀ message ∈ messages, good message := by
  fun_induction readMessages cursor generalizing messages with
  | case1 cursor ended =>
      cases done
      exact fun _ member => nomatch member
  | case2 cursor more fault next step => cases done
  | case3 cursor more message next step ih =>
      cases others : readMessages next with
      | error fault =>
          rw [others] at done
          cases done
      | ok later =>
          rw [others] at done
          cases done
          intro other member
          rcases List.mem_cons.mp member with same | behind
          · rw [same]
            exact each cursor message next step
          · exact ih later others other behind

end Flowline.Record
