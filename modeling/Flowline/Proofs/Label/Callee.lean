import Flowline.Proofs.Label.Parses
import Mathlib.Tactic.SplitIfs

set_option autoImplicit false

namespace Flowline.Label

open Flowline.Text

def opens (c : Char) : Bool := isBlank c || c == '('

def callee (label : String) : List Char := (label.toList.dropWhile opens).takeWhile continuesName

section Tokens

open Grammar

inductive Named (name : String) : Expr → Prop where
  | alone : Named name (.var name)
  | called (args : List Expr) : Named name (.call name args)

def Opened (name : String) (tokens : List Token) : Prop :=
  ∃ count rest, tokens = List.replicate count .openParen ++ .name name :: rest

theorem opened_append (name : String) (tokens behind : List Token) (opened : Opened name tokens) :
    Opened name (tokens ++ behind) := by
  obtain ⟨count, rest, rfl⟩ := opened
  exact ⟨count, rest ++ behind, by simp⟩

theorem opened_paren (name : String) (tokens : List Token) (opened : Opened name tokens) :
    Opened name (.openParen :: tokens) := by
  obtain ⟨count, rest, rfl⟩ := opened
  exact ⟨count + 1, rest, rfl⟩

theorem opened_cons (name : String) (token : Token) (tokens : List Token) (opened : Opened name (token :: tokens)) :
    token = .name name ∨ token = .openParen ∧ Opened name tokens := by
  obtain ⟨count, rest, same⟩ := opened
  cases count with
  | zero =>
      cases same
      exact Or.inl rfl
  | succ count =>
      cases same
      exact Or.inr ⟨rfl, count, rest, rfl⟩

mutual

theorem operation_opened {level : Nat} {tokens : List Token} {expr : Expr} {name : String}
    (derived : Operation level tokens expr) (named : Named name expr) : Opened name tokens := by
  match derived with
  | .signed signs inner => cases named
  | .applied inner => exact application_opened inner named
  | .operand inner => exact operation_opened inner named
  | .joined before joins after => cases named

theorem application_opened {tokens : List Token} {expr : Expr} {name : String}
    (derived : Application tokens expr) (named : Named name expr) : Opened name tokens := by
  match derived with
  | .simple inner => exact simple_opened inner named
  | .call callee given =>
      have opened := simple_opened callee .alone
      cases named
      exact opened_append name _ _ opened
  | .index base given count => cases named

theorem simple_opened {tokens : List Token} {expr : Expr} {name : String} (derived : Simple tokens expr)
    (named : Named name expr) : Opened name tokens := by
  match derived with
  | .number value | .text value | .bool value | .array inner => cases named
  | .name given =>
      cases named
      exact ⟨0, [], rfl⟩
  | .group inner => exact opened_paren name _ (opened_append name _ _ (operation_opened inner named))

end

theorem call_opened (source name : String) (args : List Expr) (parsed : parseCall source = .ok (name, args)) :
    ∃ tokens, Scans source tokens ∧ Opened name tokens := by
  obtain ⟨tokens, scans, called | ⟨alone, _⟩⟩ := call_derived source name args parsed
  · exact ⟨tokens, scans, operation_opened called (.called args)⟩
  · exact ⟨tokens, scans, operation_opened alone .alone⟩

end Tokens

section Scanning

theorem continues_of_starts (c : Char) (starts : startsName c = true) : continuesName c = true := by
  unfold startsName at starts
  unfold continuesName isAlphanumeric
  rcases Bool.or_eq_true_iff.mp starts with letter | line
  · simp [letter]
  · simp [line]

theorem sign_cases (c : Char) (rest : List Char) (token : Token) (more : Nat)
    (found : sign? c rest = some (token, more)) :
    (∃ next, pair? c next = some token) ∨ single? c = some token ∧ more = 0 := by
  unfold sign? at found
  split at found
  · rename_i paired
    cases found
    obtain ⟨next, _, pair⟩ := Option.bind_eq_some_iff.mp paired
    exact Or.inl ⟨next, pair⟩
  · obtain ⟨_, single, same⟩ := Option.map_eq_some_iff.mp found
    cases same
    exact Or.inr ⟨single, rfl⟩

theorem sign_open (c : Char) (rest : List Char) (more : Nat) (found : sign? c rest = some (.openParen, more)) :
    c = '(' ∧ more = 0 := by
  rcases sign_cases c rest _ more found with ⟨next, pair⟩ | ⟨single, same⟩
  · unfold pair? at pair
    split at pair <;> cases pair
  · unfold single? at single
    split at single <;> cases single
    exact ⟨rfl, same⟩

theorem sign_not_name (c : Char) (rest : List Char) (name : String) (more : Nat) :
    sign? c rest ≠ some (.name name, more) := by
  intro found
  rcases sign_cases c rest _ more found with ⟨next, pair⟩ | ⟨single, _⟩
  · unfold pair? at pair
    split at pair <;> cases pair
  · unfold single? at single
    split at single <;> cases single

theorem sign_paren (rest : List Char) : sign? '(' rest ≠ none := by
  unfold sign?
  split <;> simp [single?]

theorem word_not_open (spelling : String) : word spelling ≠ .openParen := by
  unfold word
  split_ifs <;> nofun

theorem word_name (spelling name : String) (found : word spelling = .name name) : name = spelling := by
  unfold word at found
  split_ifs at found
  cases found
  rfl

inductive Lexed (c : Char) (rest : List Char) : Token → Nat → Prop where
  | sign (token : Token) (more : Nat) (found : sign? c rest = some (token, more)) : Lexed c rest token more
  | text (value : String) (more : Nat) : Lexed c rest (.text value) more
  | number (value : Number) (more : Nat) : Lexed c rest (.number value) more
  | word (unsigned : sign? c rest = none) (starts : startsName c = true) :
      Lexed c rest (word (String.ofList (lowerEach (c :: rest.takeWhile continuesName))))
        (rest.takeWhile continuesName).length

theorem lexeme_lexed (c : Char) (rest : List Char) (token : Token) (more : Nat)
    (found : lexeme c rest = .ok (token, more)) : Lexed c rest token more := by
  unfold lexeme at found
  split at found
  · rename_i signed
    cases found
    exact .sign token more signed
  · rename_i unsigned
    dsimp only at found
    split at found
    · split at found
      · cases found
        exact .text _ _
      · cases found
    · split at found
      · split at found
        · cases found
          exact .number _ _
        · cases found
      · split at found
        · rename_i starts
          cases found
          exact .word unsigned starts
        · cases found

theorem lexeme_open (c : Char) (rest : List Char) (more : Nat) (found : lexeme c rest = .ok (.openParen, more)) :
    c = '(' ∧ more = 0 := by
  have lexed := lexeme_lexed c rest _ more found
  generalize same : Token.openParen = token at lexed
  cases lexed with
  | sign _ _ signed => exact sign_open c rest more (same ▸ signed)
  | text | number => cases same
  | word => exact absurd same.symm (word_not_open _)

theorem lexeme_name (c : Char) (rest : List Char) (name : String) (more : Nat)
    (found : lexeme c rest = .ok (.name name, more)) :
    c ≠ '(' ∧ startsName c = true ∧ name = String.ofList (lowerEach (c :: rest.takeWhile continuesName)) := by
  have lexed := lexeme_lexed c rest _ more found
  generalize same : Token.name name = token at lexed
  cases lexed with
  | sign _ _ signed => exact absurd (same ▸ signed) (sign_not_name c rest name more)
  | text | number => cases same
  | word unsigned starts =>
      refine ⟨?_, starts, word_name _ name same.symm⟩
      rintro rfl
      exact sign_paren rest unsigned

theorem scan_next (column : Nat) (c : Char) (rest : List Char) (placed : List Placed)
    (shown : ¬ isBlank c = true) (scanned : scan column (c :: rest) = .ok placed) :
    ∃ token more others, lexeme c rest = .ok (token, more) ∧
      scan (column + 1 + more) (rest.drop more) = .ok others ∧ placed = (token, column) :: others := by
  rw [scan, if_neg shown] at scanned
  split at scanned
  · cases scanned
  · rename_i token more read
    split at scanned
    · cases scanned
    · rename_i others following
      cases scanned
      exact ⟨token, more, others, read, following, rfl⟩

theorem scan_opened (column : Nat) (text : List Char) (placed : List Placed) (name : String)
    (scanned : scan column text = .ok placed) (opened : Opened name (placed.map Prod.fst)) :
    name = String.ofList (lowerEach ((text.dropWhile opens).takeWhile continuesName)) := by
  induction text generalizing column placed with
  | nil =>
      rw [scan] at scanned
      cases scanned
      obtain ⟨count, rest, same⟩ := opened
      cases count <;> cases same
  | cons c rest ih =>
      by_cases blank : isBlank c = true
      · rw [scan, if_pos blank] at scanned
        rw [List.dropWhile_cons_of_pos (by simp [opens, blank])]
        exact ih (column + 1) placed scanned opened
      · obtain ⟨token, more, others, read, following, rfl⟩ := scan_next column c rest placed blank scanned
        rcases opened_cons name token _ opened with same | ⟨same, behind⟩
        · subst same
          obtain ⟨other, starts, spelt⟩ := lexeme_name c rest name more read
          have first : opens c = false := by simp [opens, blank, other]
          rw [List.dropWhile_cons_of_neg (by simp [first]),
            List.takeWhile_cons_of_pos (continues_of_starts c starts)]
          exact spelt
        · subst same
          obtain ⟨rfl, rfl⟩ := lexeme_open c rest more read
          rw [List.dropWhile_cons_of_pos (by simp [opens])]
          exact ih _ others following behind

theorem call_spelt (source name : String) (args : List Expr) (parsed : parseCall source = .ok (name, args)) :
    name = String.ofList (lowerEach (callee source)) := by
  obtain ⟨_, ⟨placed, scanned, rfl⟩, opened⟩ := call_opened source name args parsed
  unfold tokenize at scanned
  cases read : scan 0 source.toList with
  | error flaw =>
      rw [read] at scanned
      cases scanned
  | ok tokens =>
      rw [read] at scanned
      cases scanned
      exact scan_opened 0 source.toList placed name read opened

end Scanning

end Flowline.Label
