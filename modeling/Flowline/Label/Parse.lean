import Flowline.Label.Expr
import Flowline.Label.Scan

set_option autoImplicit false

namespace Flowline.Label

abbrev Shorter (tokens : List Placed) := { rest : List Placed // rest.length < tokens.length }

abbrev Remaining (tokens : List Placed) := { rest : List Placed // rest.length ≤ tokens.length }

def operator? : Nat → Token → Option BinaryOp
  | 1, .times => some .mul
  | 1, .over => some .div
  | 1, .percent => some .mod
  | 2, .plus => some .add
  | 2, .minus => some .sub
  | 3, .less => some .less
  | 3, .lessEqual => some .lessEqual
  | 3, .greater => some .greater
  | 3, .greaterEqual => some .greaterEqual
  | 4, .equal => some .equal
  | 4, .unequal => some .unequal
  | 5, .and => some .and
  | 6, .or => some .or
  | _, _ => none

def loosest : Nat := 6

def unaryOperator? : Token → Option UnaryOp
  | .not => some .not
  | .minus => some .neg
  | .plus => some .pos
  | _ => none

inductive Bracket where
  | round
  | square
deriving DecidableEq, Repr

def Bracket.close : Bracket → Token
  | .round => .closeParen
  | .square => .closeBracket

def Bracket.wanted : Bracket → Wanted
  | .round => .closeParen
  | .square => .closeBracket

section Parser

variable (finish : Nat)

def column : List Placed → Nat
  | [] => finish
  | (_, column) :: _ => column

def unexpected (wanted : Wanted) (tokens : List Placed) : Flaw :=
  ⟨column finish tokens, .expected wanted (tokens.head?.map Prod.fst)⟩

def expect (token : Token) (wanted : Wanted) (tokens : List Placed) : Except Flaw (Shorter tokens) :=
  match tokens with
  | [] => .error (unexpected finish wanted [])
  | (found, place) :: rest =>
      if found = token then .ok ⟨rest, by simp⟩
      else .error (unexpected finish wanted ((found, place) :: rest))

mutual

def binary (level : Nat) (tokens : List Placed) : Except Flaw (Expr × Shorter tokens) :=
  match level with
  | 0 => unary tokens
  | level + 1 => do
      let (first, ⟨rest, _⟩) ← binary level tokens
      let (whole, ⟨rest, _⟩) ← chain level first rest
      return (whole, ⟨rest, by omega⟩)
termination_by 12 * tokens.length + level + 3

def chain (level : Nat) (left : Expr) (tokens : List Placed) : Except Flaw (Expr × Remaining tokens) :=
  match tokens with
  | [] => return (left, ⟨[], by simp⟩)
  | (token, place) :: rest =>
      match operator? (level + 1) token with
      | none => return (left, ⟨(token, place) :: rest, by simp⟩)
      | some op => do
          let (right, ⟨rest', _⟩) ← binary level rest
          let (whole, ⟨rest'', _⟩) ← chain level (.binary op left right) rest'
          return (whole, ⟨rest'', by simp only [List.length_cons]; omega⟩)
termination_by 12 * tokens.length + level

def unary (tokens : List Placed) : Except Flaw (Expr × Shorter tokens) :=
  match tokens with
  | [] => applied []
  | (token, place) :: rest =>
      match unaryOperator? token with
      | some op => do
          let (operand, ⟨rest', _⟩) ← unary rest
          return (.unary op operand, ⟨rest', by simp only [List.length_cons]; omega⟩)
      | none => applied ((token, place) :: rest)
termination_by 12 * tokens.length + 2

def applied (tokens : List Placed) : Except Flaw (Expr × Shorter tokens) := do
  let (first, ⟨rest, _⟩) ← simple tokens
  let (whole, ⟨rest', _⟩) ← suffixes (column finish tokens) first rest
  return (whole, ⟨rest', by omega⟩)
termination_by 12 * tokens.length + 1

def suffixes (start : Nat) (target : Expr) (tokens : List Placed) :
    Except Flaw (Expr × Remaining tokens) :=
  match tokens with
  | (.openParen, _) :: rest =>
      match target with
      | .var name => do
          let (args, ⟨rest', _⟩) ← items .round rest
          let (whole, ⟨rest'', _⟩) ← suffixes start (.call name args) rest'
          return (whole, ⟨rest'', by simp only [List.length_cons]; omega⟩)
      | _ => .error ⟨start, .badCallee⟩
  | (.openBracket, place) :: rest => do
      let (indices, ⟨rest', _⟩) ← items .square rest
      if indices.length = 1 ∨ indices.length = 2 then
        let (whole, ⟨rest'', _⟩) ← suffixes start (.index target indices) rest'
        return (whole, ⟨rest'', by simp only [List.length_cons]; omega⟩)
      else .error ⟨place, .badIndexCount indices.length⟩
  | tokens => return (target, ⟨tokens, Nat.le_refl _⟩)
termination_by 12 * tokens.length

def items (bracket : Bracket) (tokens : List Placed) : Except Flaw (List Expr × Shorter tokens) :=
  match tokens with
  | [] => moreItems bracket []
  | (token, place) :: rest =>
      if token = bracket.close then return ([], ⟨rest, by simp⟩)
      else moreItems bracket ((token, place) :: rest)
termination_by 12 * tokens.length + 11

def moreItems (bracket : Bracket) (tokens : List Placed) : Except Flaw (List Expr × Shorter tokens) := do
  let (first, ⟨rest, shorter⟩) ← binary loosest tokens
  match rest, shorter with
  | (.comma, _) :: rest, shorter =>
      have : rest.length < tokens.length := by simp only [List.length_cons] at shorter; omega
      let (others, ⟨rest', _⟩) ← moreItems bracket rest
      return (first :: others, ⟨rest', by omega⟩)
  | rest, _ =>
      let ⟨rest', _⟩ ← expect finish bracket.close bracket.wanted rest
      return ([first], ⟨rest', by omega⟩)
termination_by 12 * tokens.length + 10
decreasing_by
  · simp only [loosest]
    omega
  · omega

def simple (tokens : List Placed) : Except Flaw (Expr × Shorter tokens) :=
  match tokens with
  | (.number value, _) :: rest => return (.number value, ⟨rest, by simp⟩)
  | (.text value, _) :: rest => return (.text value, ⟨rest, by simp⟩)
  | (.bool value, _) :: rest => return (.bool value, ⟨rest, by simp⟩)
  | (.name name, _) :: rest => return (.var name, ⟨rest, by simp⟩)
  | (.openParen, _) :: rest => do
      let (inner, ⟨rest', _⟩) ← binary loosest rest
      let ⟨rest'', _⟩ ← expect finish .closeParen .closeParen rest'
      return (inner, ⟨rest'', by simp only [List.length_cons]; omega⟩)
  | (.openBracket, _) :: rest => do
      let (found, ⟨rest', _⟩) ← items .square rest
      return (.array found, ⟨rest', by simp only [List.length_cons]; omega⟩)
  | tokens => .error (unexpected finish .expression tokens)
termination_by 12 * tokens.length
decreasing_by
  · simp only [List.length_cons, loosest]
    omega
  · simp only [List.length_cons]
    omega

end

def assignment (tokens : List Placed) : Except Flaw (Expr × Shorter tokens) := do
  let (target, ⟨rest, shorter⟩) ← binary finish loosest tokens
  match rest, shorter with
  | (.assign, _) :: rest, shorter =>
      have : rest.length < tokens.length := by simp only [List.length_cons] at shorter; omega
      if target.isPlace then
        let (value, ⟨rest', _⟩) ← assignment rest
        return (.assign target value, ⟨rest', by omega⟩)
      else .error ⟨column finish tokens, .badTarget⟩
  | rest, shorter => return (target, ⟨rest, shorter⟩)
termination_by tokens.length

def ended (tokens : List Placed) : Except Flaw Unit :=
  if tokens.isEmpty then .ok () else .error (unexpected finish .finish tokens)

def wholeExpr (tokens : List Placed) : Except Flaw Expr := do
  let (found, ⟨rest, _⟩) ← assignment finish tokens
  ended finish rest
  return found

def wholeAssignment (tokens : List Placed) : Except Flaw Expr := do
  let (found, ⟨rest, _⟩) ← assignment finish tokens
  match found with
  | .assign target value =>
      ended finish rest
      return .assign target value
  | _ => .error (unexpected finish .assign rest)

def wholeTarget (tokens : List Placed) : Except Flaw Expr := do
  let (found, ⟨rest, _⟩) ← binary finish loosest tokens
  ended finish rest
  if found.isPlace then return found else .error ⟨column finish tokens, .badTarget⟩

def wholeCall (tokens : List Placed) : Except Flaw (String × List Expr) := do
  let (found, ⟨rest, _⟩) ← binary finish loosest tokens
  ended finish rest
  match found with
  | .var name => return (name, [])
  | .call name args => return (name, args)
  | _ => .error ⟨column finish tokens, .expected .subchartCall none⟩

def takeName (tokens : List Placed) : Except Flaw (String × Shorter tokens) :=
  match tokens with
  | (.name name, _) :: rest => .ok (name, ⟨rest, by simp⟩)
  | tokens => .error (unexpected finish .name tokens)

def param (tokens : List Placed) : Except Flaw (Param × Shorter tokens) := do
  let (first, ⟨rest, _⟩) ← takeName finish tokens
  if first = "in" then
    let (second, ⟨rest', _⟩) ← takeName finish rest
    if second = "out" then
      let (third, ⟨rest'', _⟩) ← takeName finish rest'
      return (⟨third, .valueResult⟩, ⟨rest'', by omega⟩)
    else return (⟨second, .value⟩, ⟨rest', by omega⟩)
  else if first = "out" then
    let (second, ⟨rest', _⟩) ← takeName finish rest
    return (⟨second, .result⟩, ⟨rest', by omega⟩)
  else if first = "inout" then
    let (second, ⟨rest', _⟩) ← takeName finish rest
    return (⟨second, .valueResult⟩, ⟨rest', by omega⟩)
  else return (⟨first, .value⟩, ⟨rest, by omega⟩)

def params (tokens : List Placed) : Except Flaw (List Param × Shorter tokens) := do
  let (first, ⟨rest, shorter⟩) ← param finish tokens
  match rest, shorter with
  | (.comma, _) :: rest, shorter =>
      have : rest.length < tokens.length := by simp only [List.length_cons] at shorter; omega
      let (others, ⟨rest', _⟩) ← params rest
      return (first :: others, ⟨rest', by omega⟩)
  | rest, _ =>
      let ⟨rest', _⟩ ← expect finish .closeParen .closeParen rest
      return ([first], ⟨rest', by omega⟩)
termination_by tokens.length

def wholeHeader (tokens : List Placed) : Except Flaw Header := do
  let (name, ⟨rest, _⟩) ← takeName finish tokens
  match rest with
  | (.openParen, _) :: (.closeParen, _) :: rest =>
      ended finish rest
      return ⟨name, []⟩
  | (.openParen, _) :: rest =>
      let (found, ⟨rest, _⟩) ← params finish rest
      ended finish rest
      return ⟨name, found⟩
  | rest =>
      ended finish rest
      return ⟨name, []⟩

end Parser

def readWith {α : Type} (parse : Nat → List Placed → Except Flaw α) (source : String) : Except Error α := do
  let tokens ← tokenize source
  (parse source.toList.length tokens).mapError fun flaw => flaw.within source

def parseExpr : String → Except Error Expr := readWith wholeExpr

def parseAssignment : String → Except Error Expr := readWith wholeAssignment

def parseTarget : String → Except Error Expr := readWith wholeTarget

def parseCall : String → Except Error (String × List Expr) := readWith wholeCall

def parseHeader : String → Except Error Header := readWith wholeHeader

end Flowline.Label
