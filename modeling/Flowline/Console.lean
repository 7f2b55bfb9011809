import Flowline.Execution.Step
import Flowline.Program.Load
import Flowline.Program.Report

set_option autoImplicit false

namespace Flowline.Console

inductive Command where
  | run (path : String) (seed : UInt64)
  | dump (path : String)
deriving DecidableEq, Repr

def seed? (text : String) : Option UInt64 :=
  let digits :=
    match text.toList with
    | '+' :: digits => digits
    | digits => digits
  (Text.naturalBelow? Text.wordLimit digits).map Nat.toUInt64

def seedOption : String := "--seed="

def runArguments (path : Option String) (seed : Option UInt64) : List String → Option Command
  | [] => path.map fun path => .run path (seed.getD 0)
  | "--seed" :: text :: rest =>
      match seed, seed? text with
      | none, some value => runArguments path (some value) rest
      | _, _ => none
  | argument :: rest =>
      if argument.startsWith seedOption then
        match seed, seed? (argument.drop seedOption.length).toString with
        | none, some value => runArguments path (some value) rest
        | _, _ => none
      else
        match path with
        | none => runArguments (some argument) seed rest
        | some _ => none

def Command.ofArguments? : List String → Option Command
  | "run" :: arguments => runArguments none none arguments
  | ["dump", path] => some (.dump path)
  | _ => none

inductive Ending where
  | finished
  | unreadable (path reason : String)
  | unloadable (path : String) (error : Program.LoadError)
  | failed (failure : Failure)
  | broken (reason : String)
deriving DecidableEq, Inhabited

namespace Ending

def code : Ending → UInt32
  | .finished => 0
  | .unreadable _ _ => 1
  | .unloadable _ _ => 2
  | .failed _ => 3
  | .broken _ => 4

def message : Ending → String
  | .finished => ""
  | .unreadable path reason => "failed to read file '" ++ path ++ "': " ++ reason ++ "\n"
  | .unloadable path error => "failed to load '" ++ path ++ "': " ++ error.message ++ "\n"
  | .failed failure => "runtime error: " ++ failure.message ++ "\nprogram terminated\n"
  | .broken reason => "terminal error: " ++ reason ++ "\n"

end Ending

def missingFile : String := "No such file or directory (os error 2)"

def openProgram (path : String) (content : Except String (List UInt8)) : Except Ending Program :=
  match content with
  | .error reason => .error (.unreadable path reason)
  | .ok bytes =>
      match Program.load bytes with
      | .ok program => .ok program
      | .error error => .error (.unloadable path error)

inductive Turn where
  | go (next : Execution)
  | write (text : String) (next : Execution)
  | ask (prompt : String) (next : Execution)
  | finish (ending : Ending)

def goOn (execution : Execution) : Except Ending Execution :=
  match execution.resume with
  | (.ok (), next) => .ok next
  | (.error failure, _) => .error (.failed failure)

def turn (program : Program) (settings : Settings) (execution : Execution) : Turn :=
  match execution.step program settings with
  | (.error failure, _) => .finish (.failed failure)
  | (.ok .running, next) => .go next
  | (.ok .done, _) => .finish .finished
  | (.ok (.input prompt), next) => .ask (prompt ++ " > ") next
  | (.ok (.output text), next) =>
      match goOn next with
      | .ok next => .write (text ++ "\n") next
      | .error ending => .finish ending

def newline : UInt8 := 10

def takeLine : List UInt8 → List UInt8 × List UInt8
  | [] => ([], [])
  | byte :: rest =>
      if byte = newline then ([byte], rest)
      else
        let (line, others) := takeLine rest
        (byte :: line, others)

def answerOf (line : List UInt8) : Except Ending String :=
  if line.isEmpty then .error (.broken "input ended while the program was waiting for an answer")
  else
    match String.fromUTF8? ⟨line.toArray⟩ with
    | none => .error (.broken "stream did not contain valid UTF-8")
    | some text =>
        .ok (String.ofList (text.toList.reverse.dropWhile fun c => c = '\r' || c = '\n').reverse)

def reply (program : Program) (line : List UInt8) (execution : Execution) : Except Ending Execution := do
  let text ← answerOf line
  match execution.answer program text with
  | (.ok (), next) => goOn next
  | (.error failure, _) => .error (.failed failure)

end Flowline.Console
