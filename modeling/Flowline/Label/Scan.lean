import Flowline.Label.Token
import Flowline.Text.Case
import Flowline.Text.Letter

set_option autoImplicit false

namespace Flowline.Label

open Flowline.Text

def pair? : Char → Char → Option Token
  | ':', '=' => some .assign
  | '=', '=' => some .equal
  | '!', '=' => some .unequal
  | '<', '=' => some .lessEqual
  | '>', '=' => some .greaterEqual
  | '&', '&' => some .and
  | '|', '|' => some .or
  | _, _ => none

def single? : Char → Option Token
  | '=' => some .equal
  | '!' => some .not
  | '<' => some .less
  | '>' => some .greater
  | '+' => some .plus
  | '-' => some .minus
  | '*' => some .times
  | '/' => some .over
  | '%' => some .percent
  | '(' => some .openParen
  | ')' => some .closeParen
  | '[' => some .openBracket
  | ']' => some .closeBracket
  | ',' => some .comma
  | _ => none

def sign? (c : Char) (rest : List Char) : Option (Token × Nat) :=
  match rest.head?.bind (pair? c) with
  | some token => some (token, 1)
  | none => (single? c).map fun token => (token, 0)

def startsName (c : Char) : Bool := isAlphabetic c || c == '_'

def continuesName (c : Char) : Bool := isAlphanumeric c || c == '_'

def word (name : String) : Token :=
  if name = "true" then .bool true
  else if name = "false" then .bool false
  else if name = "and" then .and
  else if name = "or" then .or
  else if name = "not" then .not
  else .name name

def numeral (text : List Char) : List Char × Option (List Char) :=
  match text.dropWhile Char.isDigit with
  | '.' :: rest => (text.takeWhile Char.isDigit, some (rest.takeWhile Char.isDigit))
  | _ => (text.takeWhile Char.isDigit, none)

-- The token at the start of a text that is not white space, with the count of its characters after the
-- first.
def lexeme (c : Char) (rest : List Char) : Except Fault (Token × Nat) :=
  match sign? c rest with
  | some found => .ok found
  | none =>
      if c = '"' then
        let body := rest.takeWhile (· != '"')
        if body.length < rest.length then .ok (.text (String.ofList body), body.length + 1)
        else .error .unterminatedText
      else if c.isDigit then
        let (whole, fraction) := numeral (c :: rest)
        match Number.ofBits? (Binary64.ofDigits whole (fraction.getD []) 0) with
        | some value => .ok (.number value, whole.length + fraction.elim 0 (·.length + 1) - 1)
        | none => .error .badNumber
      else if startsName c then
        let tail := rest.takeWhile continuesName
        .ok (word (String.ofList (lowerEach (c :: tail))), tail.length)
      else .error (.unknownToken c)

def scan (column : Nat) : List Char → Except Flaw (List Placed)
  | [] => .ok []
  | c :: rest =>
      if isBlank c then scan (column + 1) rest
      else
        match lexeme c rest with
        | .error fault => .error ⟨column, fault⟩
        | .ok (token, more) =>
            match scan (column + 1 + more) (rest.drop more) with
            | .error flaw => .error flaw
            | .ok tokens => .ok ((token, column) :: tokens)
termination_by text => text.length
decreasing_by all_goals simp only [List.length_drop, List.length_cons]; omega

def tokenize (source : String) : Except Error (List Placed) :=
  (scan 0 source.toList).mapError fun flaw => flaw.within source

end Flowline.Label
