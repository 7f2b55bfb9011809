import Flowline.Record.Advance

set_option autoImplicit false

namespace Flowline.Record

open Flowline.Graph

def readItems (draft : Draft) (cursor : Cursor) : Except Fault Draft × Cursor :=
  match _step : readItem draft cursor with
  | (.error fault, next) => (.error fault, next)
  | (.ok none, next) => (.ok draft, next)
  | (.ok (some following), next) => readItems following next
termination_by cursor.rest.length
decreasing_by
  have shorter := item_consumes draft cursor (some following) (by rw [_step])
  rw [_step] at shorter
  exact shorter

def readMessage : Read Message := do
  let header ← readHeader
  let draft ← readItems .empty
  Read.lift (draft.finish header)

theorem items_advance (draft : Draft) : Advances (readItems draft) := by
  intro cursor
  fun_induction readItems draft cursor with
  | case1 draft cursor fault next step =>
      have bound := item_advances draft cursor
      rw [step] at bound
      exact bound
  | case2 draft cursor next step =>
      have bound := item_advances draft cursor
      rw [step] at bound
      exact bound
  | case3 draft cursor following next step ih =>
      have bound := item_advances draft cursor
      rw [step] at bound
      exact Nat.le_trans ih bound

theorem message_consumes : Consumes readMessage :=
  Read.bind_consumes _ _ header_consumes fun _ => Read.bind_advances _ _ (items_advance _) fun _ => lift_advances _

def readMessages (cursor : Cursor) : Except Fault (List Message) :=
  if cursor.isAtEnd then .ok []
  else
    match _step : readMessage cursor with
    | (.error fault, _) => .error fault
    | (.ok message, next) => do
        let others ← readMessages next
        return message :: others
termination_by cursor.rest.length
decreasing_by
  have shorter := message_consumes cursor message (by rw [_step])
  rw [_step] at shorter
  exact shorter

def decode (bytes : List UInt8) : Except Fault (List Message) := readMessages (.ofBytes bytes)

end Flowline.Record
