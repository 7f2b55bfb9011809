import Flowline.Label.Scan
import Mathlib.Data.List.Pairwise

set_option autoImplicit false

namespace Flowline

namespace Text

theorem within_some (ranges : List (Nat × Nat)) (point : Nat) (inside : within ranges point = true) :
    ∃ range ∈ ranges, ∃ more ≤ range.2 - range.1, point = range.1 + more := by
  induction ranges with
  | nil => cases inside
  | cons range rest ih =>
      obtain ⟨low, high⟩ := range
      simp only [within, Bool.and_eq_true, Bool.not_eq_true', decide_eq_false_iff_not, Bool.or_eq_true,
        decide_eq_true_eq] at inside
      rcases inside.2 with bounded | later
      · exact ⟨(low, high), List.mem_cons_self, point - low, by dsimp only; omega, by dsimp only; omega⟩
      · obtain ⟨range, member, found⟩ := ih later
        exact ⟨range, List.mem_cons_of_mem _ member, found⟩

theorem blank_points :
    ∀ range ∈ blankRanges, ∀ more ≤ range.2 - range.1,
      within alphabeticRanges (range.1 + more) = false ∧ within numericRanges (range.1 + more) = false ∧
        range.1 + more ≠ '_'.toNat ∧ (range.1 + more < '0'.toNat ∨ '9'.toNat < range.1 + more) := by
  decide +kernel

end Text

namespace Label

open Flowline.Text

section Blanks

variable (blank : Char) (white : isBlank blank = true)

include white

theorem blank_ends_name : continuesName blank = false := by
  obtain ⟨range, member, more, bound, same⟩ := within_some blankRanges blank.toNat white
  obtain ⟨letter, numeral, line, _⟩ := blank_points range member more bound
  have other : (blank == '_') = false := by
    refine beq_false_of_ne fun same_char => line ?_
    rw [← same, same_char]
  rw [← same] at letter numeral
  simp only [continuesName, isAlphanumeric, isAlphabetic, isNumeric, letter, numeral, other, Bool.or_false]

theorem blank_no_digit : blank.isDigit = false := by
  obtain ⟨range, member, more, bound, same⟩ := within_some blankRanges blank.toNat white
  have apart := (blank_points range member more bound).2.2.2
  rw [← same] at apart
  rw [← Bool.not_eq_true, Char.isDigit_iff_toNat]
  change ¬ (48 ≤ blank.toNat ∧ blank.toNat ≤ 57)
  change blank.toNat < 48 ∨ 57 < blank.toNat at apart
  omega

theorem blank_no_point : blank ≠ '.' := by
  rintro rfl
  cases white

theorem blank_no_pair (c : Char) : pair? c blank = none := by
  unfold pair?
  split
  case h_8 => rfl
  all_goals cases white

end Blanks

section Tokens

section Numerals

variable (text : List Char)

theorem numeral_pointed (rest : List Char) (behind : text.dropWhile Char.isDigit = '.' :: rest) :
    numeral text = (text.takeWhile Char.isDigit, some (rest.takeWhile Char.isDigit)) := by
  rw [numeral, behind]
  rfl

theorem numeral_plain (unpointed : ∀ rest, text.dropWhile Char.isDigit ≠ '.' :: rest) :
    numeral text = (text.takeWhile Char.isDigit, none) := by
  unfold numeral
  split
  · rename_i rest behind
    exact absurd behind (unpointed rest)
  · rfl

theorem numeral_length : (numeral text).1.length + (numeral text).2.elim 0 (fun digits => digits.length + 1) ≤ text.length := by
  have parts := congrArg List.length (@List.takeWhile_append_dropWhile _ Char.isDigit text)
  rw [List.length_append] at parts
  by_cases pointed : ∃ rest, text.dropWhile Char.isDigit = '.' :: rest
  · obtain ⟨rest, behind⟩ := pointed
    have short := (List.takeWhile_prefix (l := rest) Char.isDigit).length_le
    rw [numeral_pointed text rest behind]
    rw [behind, List.length_cons] at parts
    dsimp only [Option.elim]
    omega
  · rw [numeral_plain text fun rest behind => pointed ⟨rest, behind⟩]
    dsimp only [Option.elim]
    omega

end Numerals

theorem lexeme_within (c : Char) (rest : List Char) (token : Token) (more : Nat)
    (found : lexeme c rest = .ok (token, more)) : more ≤ rest.length := by
  unfold lexeme at found
  split at found
  · rename_i signed
    cases found
    unfold sign? at signed
    split at signed
    · rename_i paired
      cases signed
      obtain ⟨next, first, _⟩ := Option.bind_eq_some_iff.mp paired
      exact List.length_pos_of_mem (List.mem_of_mem_head? first)
    · obtain ⟨_, _, same⟩ := Option.map_eq_some_iff.mp signed
      cases same
      exact Nat.zero_le _
  · dsimp only at found
    split at found
    · split at found
      · rename_i closed
        cases found
        exact closed
      · cases found
    · split at found
      · have digits := numeral_length (c :: rest)
        split at found
        · cases found
          rw [List.length_cons] at digits
          omega
        · cases found
      · split at found
        · cases found
          exact (List.takeWhile_prefix continuesName).length_le
        · cases found

theorem take_while_ended (kind : Char → Bool) (text rest : List Char) (stop : Char) (ends : kind stop = false) :
    (text ++ stop :: rest).takeWhile kind = text.takeWhile kind := by
  rw [List.takeWhile_append, List.takeWhile_cons_of_neg (by simp [ends]), List.append_nil]
  split
  · rename_i whole
    exact ((List.takeWhile_prefix kind).eq_of_length whole).symm
  · rfl

theorem drop_while_ended (kind : Char → Bool) (text rest : List Char) (stop : Char) (ends : kind stop = false) :
    (text ++ stop :: rest).dropWhile kind = text.dropWhile kind ++ stop :: rest := by
  rw [List.dropWhile_append, List.dropWhile_cons_of_neg (by simp [ends])]
  split
  · rename_i empty
    rw [List.isEmpty_iff.mp empty]
    rfl
  · rfl

variable (blank : Char) (white : isBlank blank = true)

include white

theorem sign_blank (c : Char) (text rest : List Char) : sign? c (text ++ blank :: rest) = sign? c text := by
  cases text with
  | nil =>
      simp only [sign?, List.nil_append, List.head?_cons, Option.bind_some, blank_no_pair blank white, List.head?_nil,
        Option.bind_none]
  | cons next others => rfl

theorem numeral_blank (text rest : List Char) : numeral (text ++ blank :: rest) = numeral text := by
  have digit := blank_no_digit blank white
  have whole := take_while_ended Char.isDigit text rest blank digit
  have behind := drop_while_ended Char.isDigit text rest blank digit
  by_cases pointed : ∃ others, text.dropWhile Char.isDigit = '.' :: others
  · obtain ⟨others, point⟩ := pointed
    rw [point] at behind
    rw [numeral_pointed text others point, numeral_pointed _ (others ++ blank :: rest) behind, whole,
      take_while_ended _ _ _ _ digit]
  · have unpointed : ∀ others, text.dropWhile Char.isDigit ++ blank :: rest ≠ '.' :: others := by
      intro others same
      cases left : text.dropWhile Char.isDigit with
      | nil =>
          rw [left] at same
          exact blank_no_point blank white (List.head_eq_of_cons_eq same)
      | cons next later =>
          rw [left] at same
          exact pointed ⟨later, by rw [left, List.head_eq_of_cons_eq same]⟩
    rw [numeral_plain text fun others point => pointed ⟨others, point⟩,
      numeral_plain _ fun others point => unpointed others (behind ▸ point), whole]

theorem lexeme_blank (c : Char) (text rest : List Char) (token : Token) (more : Nat)
    (found : lexeme c text = .ok (token, more)) : lexeme c (text ++ blank :: rest) = .ok (token, more) := by
  unfold lexeme at found ⊢
  rw [sign_blank blank white]
  split at found
  · exact found
  · dsimp only at found ⊢
    by_cases quote : c = '"'
    · rw [if_pos quote] at found ⊢
      split at found
      · rename_i closed
        have body : (text ++ blank :: rest).takeWhile (· != '"') = text.takeWhile (· != '"') := by
          rw [List.takeWhile_append, if_neg (Nat.ne_of_lt closed)]
        have inside : (text.takeWhile (· != '"')).length < (text ++ blank :: rest).length := by
          rw [List.length_append]
          omega
        rw [body, if_pos inside]
        exact found
      · cases found
    · rw [if_neg quote] at found ⊢
      rw [← List.cons_append, numeral_blank blank white, take_while_ended _ _ _ _ (blank_ends_name blank white)]
      exact found

end Tokens

section Columns

-- What is found when a text begins at a later column.
def moved (offset : Nat) (tokens : List Placed) : List Placed :=
  tokens.map fun token => (token.1, token.2 + offset)

def movedScan (offset : Nat) : Except Flaw (List Placed) → Except Flaw (List Placed)
  | .ok tokens => .ok (moved offset tokens)
  | .error flaw => .error ⟨flaw.column + offset, flaw.fault⟩

theorem scan_moved (column offset : Nat) (text : List Char) :
    scan (column + offset) text = movedScan offset (scan column text) := by
  fun_induction scan column text with
  | case1 column =>
      rw [scan]
      rfl
  | case2 column c rest blank ih =>
      rw [scan, if_pos blank, Nat.add_right_comm]
      exact ih
  | case3 column c rest shown fault failed =>
      rw [scan, if_neg shown]
      simp only [failed]
      rfl
  | case4 column c rest shown token more read flaw failed ih =>
      rw [scan, if_neg shown]
      have place : column + offset + 1 + more = column + 1 + more + offset := by omega
      simp only [read, place, ih, failed]
      rfl
  | case5 column c rest shown token more read tokens done ih =>
      rw [scan, if_neg shown]
      have place : column + offset + 1 + more = column + 1 + more + offset := by omega
      simp only [read, place, ih, done]
      rfl

theorem scan_blank (column : Nat) (text rest : List Char) (blank : Char) (white : isBlank blank = true)
    (tokens : List Placed) (done : scan column text = .ok tokens) :
    scan column (text ++ blank :: rest) = (scan (column + text.length + 1) rest).map (tokens ++ ·) := by
  fun_induction scan column text generalizing tokens with
  | case1 column =>
      cases done
      rw [List.nil_append, scan, if_pos white, List.length_nil, Nat.add_zero]
      cases scan (column + 1) rest <;> rfl
  | case2 column c others empty ih =>
      rw [List.cons_append, scan, if_pos empty, ih tokens done, List.length_cons]
      congr 2
      omega
  | case3 column c others shown fault failed => cases done
  | case4 column c others shown token more read flaw failed ih => cases done
  | case5 column c others shown token more read later found ih =>
      cases done
      have inside := lexeme_within c others token more read
      rw [List.cons_append, scan, if_neg shown]
      simp only [lexeme_blank blank white c others rest token more read]
      rw [List.drop_append_of_le_length inside, ih later found]
      have place : column + 1 + more + (others.drop more).length + 1 = column + (c :: others).length + 1 := by
        rw [List.length_drop, List.length_cons]
        omega
      rw [place]
      cases scan (column + (c :: others).length + 1) rest <;> rfl

theorem moved_moved (first second : Nat) (tokens : List Placed) :
    moved second (moved first tokens) = moved (first + second) tokens := by
  simp only [moved, List.map_map]
  refine List.map_congr_left fun token _ => ?_
  simp only [Function.comp_apply, Nat.add_assoc]

theorem moved_columns (offset : Nat) (tokens : List Placed) :
    (moved offset tokens).map Prod.snd = (tokens.map Prod.snd).map (· + offset) := by
  simp only [moved, List.map_map]
  rfl

structure Marks (text : List Char) (tokens : List Placed) : Prop where
  ascending : (tokens.map Prod.snd).Pairwise (· < ·)
  shown : ∀ place ∈ tokens.map Prod.snd, ∃ c, text[place]? = some c ∧ isBlank c = false
  first : (tokens.map Prod.snd).head? = text.findIdx? fun c => !isBlank c

theorem marks_nil : Marks [] [] where
  ascending := List.Pairwise.nil
  shown := fun _ member => nomatch member
  first := rfl

section Marks

variable {text : List Char} {tokens : List Placed}

theorem moved_ascending (offset : Nat) (ascending : (tokens.map Prod.snd).Pairwise (· < ·)) :
    ((moved offset tokens).map Prod.snd).Pairwise (· < ·) := by
  rw [moved_columns, List.pairwise_map]
  exact ascending.imp fun less => Nat.add_lt_add_right less offset

theorem marks_blank (c : Char) (white : isBlank c = true) (marks : Marks text tokens) :
    Marks (c :: text) (moved 1 tokens) where
  ascending := moved_ascending 1 marks.ascending
  shown := by
    intro place member
    rw [moved_columns] at member
    obtain ⟨before, inside, rfl⟩ := List.mem_map.mp member
    exact marks.shown before inside
  first := by
    rw [moved_columns, List.head?_map, marks.first, List.findIdx?_cons, white]
    rfl

theorem marks_token (c : Char) (token : Token) (more : Nat) (shown : isBlank c = false)
    (marks : Marks (text.drop more) tokens) : Marks (c :: text) ((token, 0) :: moved (1 + more) tokens) where
  ascending := by
    rw [List.map_cons, List.pairwise_cons]
    refine ⟨fun place member => ?_, moved_ascending _ marks.ascending⟩
    rw [moved_columns] at member
    obtain ⟨before, _, rfl⟩ := List.mem_map.mp member
    dsimp only
    omega
  shown := by
    intro place member
    rw [List.map_cons, moved_columns] at member
    rcases List.mem_cons.mp member with rfl | later
    · exact ⟨c, rfl, shown⟩
    · obtain ⟨before, inside, rfl⟩ := List.mem_map.mp later
      obtain ⟨ink, found, plain⟩ := marks.shown before inside
      rw [List.getElem?_drop] at found
      have place : before + (1 + more) = more + before + 1 := by omega
      exact ⟨ink, by rw [place, List.getElem?_cons_succ, found], plain⟩
  first := by
    rw [List.findIdx?_cons, shown]
    rfl

end Marks

theorem scan_marks (column : Nat) (text : List Char) (tokens : List Placed) (done : scan column text = .ok tokens) :
    ∃ found, tokens = moved column found ∧ Marks text found := by
  fun_induction scan column text generalizing tokens with
  | case1 column =>
      cases done
      exact ⟨[], rfl, marks_nil⟩
  | case2 column c rest white ih =>
      obtain ⟨found, rfl, marks⟩ := ih tokens done
      exact ⟨moved 1 found, by rw [moved_moved, Nat.add_comm], marks_blank c white marks⟩
  | case3 column c rest shown fault failed => cases done
  | case4 column c rest shown token more read flaw failed ih => cases done
  | case5 column c rest shown token more read later behind ih =>
      cases done
      obtain ⟨found, rfl, marks⟩ := ih later behind
      refine ⟨(token, 0) :: moved (1 + more) found, ?_, marks_token c token more (Bool.not_eq_true _ ▸ shown) marks⟩
      have offset : 1 + more + column = column + 1 + more := by omega
      rw [← offset, ← moved_moved]
      simp only [moved, List.map_cons, Nat.zero_add]

end Columns

section Labels

theorem tokenize_ok (source : String) (tokens : List Placed) :
    tokenize source = .ok tokens ↔ scan 0 source.toList = .ok tokens := by
  unfold tokenize
  cases scan 0 source.toList with
  | ok found => exact ⟨fun done => congrArg _ (Except.ok.inj done), fun done => congrArg _ (Except.ok.inj done)⟩
  | error flaw => exact ⟨nofun, nofun⟩

/-- A label is scanned on both sides of a blank apart: behind the tokens of the text before it stand those of the text
behind it, or the flaw of that, with columns counted on from the blank. The columns of tokens ascend, each is that of a
character in the label that is not blank, and the first one is that of the first such character. -/
theorem tokens_apart :
    (∀ (before behind : String) (blank : Char) (tokens : List Placed),
        isBlank blank = true → tokenize before = .ok tokens →
          tokenize (before ++ String.singleton blank ++ behind) =
            match tokenize behind with
            | .ok others => .ok (tokens ++ moved (before.length + 1) others)
            | .error error =>
                .error ⟨before ++ String.singleton blank ++ behind, error.column + (before.length + 1), error.fault⟩) ∧
      ∀ (source : String) (tokens : List Placed), tokenize source = .ok tokens → Marks source.toList tokens := by
  constructor
  · intro before behind blank tokens white done
    have whole : (before ++ String.singleton blank ++ behind).toList = before.toList ++ blank :: behind.toList := by
      simp
    have scanned := scan_blank 0 before.toList behind.toList blank white tokens ((tokenize_ok before tokens).mp done)
    rw [Nat.add_assoc, scan_moved] at scanned
    unfold tokenize
    rw [whole, scanned]
    cases scan 0 behind.toList <;> rfl
  · intro source tokens done
    obtain ⟨found, rfl, marks⟩ := scan_marks 0 source.toList tokens ((tokenize_ok source tokens).mp done)
    have still : moved 0 found = found := by simp [moved]
    rw [still]
    exact marks

theorem tokenize_of_some (source : String) (tokens : List Placed) (found : (tokenize source).toOption = some tokens) :
    tokenize source = .ok tokens := by
  cases done : tokenize source with
  | ok others =>
      rw [done] at found
      exact congrArg Except.ok (Option.some.inj found)
  | error error =>
      rw [done] at found
      cases found

theorem tokens_apart_quotes :
    tokenize "n := \" 7 \"" = .ok [(.name "n", 0), (.assign, 2), (.text " 7 ", 5)] ∧
      tokenize "n := \" 7 \"\u3000+ x" =
        .ok [(.name "n", 0), (.assign, 2), (.text " 7 ", 5), (.plus, 11), (.name "x", 13)] ∧
      Marks "n := \" 7 \"".toList [(.name "n", 0), (.assign, 2), (.text " 7 ", 5)] := by
  have done := tokenize_of_some "n := \" 7 \"" [(.name "n", 0), (.assign, 2), (.text " 7 ", 5)] (by decide +kernel)
  have behind := tokenize_of_some "+ x" [(.plus, 0), (.name "x", 2)] (by decide +kernel)
  have joined := tokens_apart.1 "n := \" 7 \"" "+ x" '\u3000' _ (by decide) done
  rw [behind] at joined
  exact ⟨done, joined, tokens_apart.2 _ _ done⟩

end Labels

end Label

end Flowline
