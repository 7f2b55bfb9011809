import Flowline.Console

set_option autoImplicit false

namespace Flowline

open Console

partial def readLine (input : IO.FS.Stream) (line : Array UInt8) : IO (List UInt8) := do
  match (← input.read 1).toList with
  | [] => return line.toList
  | byte :: _ => if byte = newline then return (line.push byte).toList else readLine input (line.push byte)

def write (output : IO.FS.Stream) (text : String) : IO Unit := do
  output.putStr text
  output.flush

partial def play (program : Program) (settings : Settings) (execution : Execution) : IO Ending := do
  match turn program settings execution with
  | .go next => play program settings next
  | .finish ending => return ending
  | .write text next => do
      write (← IO.getStdout) text
      play program settings next
  | .ask prompt next => do
      write (← IO.getStdout) prompt
      let line ← readLine (← IO.getStdin) #[]
      match reply program line next with
      | .ok next => play program settings next
      | .error ending => return ending

def readFile (path : String) : IO (Except String (List UInt8)) := do
  try
    return .ok (← IO.FS.readBinFile path).toList
  catch error =>
    match error with
    | .noFileOrDirectory _ _ _ => return .error missingFile
    | error => return .error (toString error)

def perform (command : Command) : IO Ending := do
  match command with
  | .dump path =>
      match openProgram path (← readFile path) with
      | .error ending => return ending
      | .ok program => do
          write (← IO.getStdout) program.report
          return .finished
  | .run path seed =>
      match openProgram path (← readFile path) with
      | .error ending => return ending
      | .ok program =>
          let settings := { Settings.standard with seed }
          play program settings (.initial program settings)

end Flowline

def main (arguments : List String) : IO UInt32 := do
  match Flowline.Console.Command.ofArguments? arguments with
  | none => do
      Flowline.write (← IO.getStderr) "usage: run FILE [--seed N], or dump FILE\n"
      return 2
  | some command => do
      let ending ← Flowline.perform command
      Flowline.write (← IO.getStderr) ending.message
      return ending.code
