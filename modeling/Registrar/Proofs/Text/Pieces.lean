import Registrar.Proofs.Python.Lexemes
import Registrar.Proofs.Validation.Braces

/-!
# Texts in pieces

A text is cut into literals between double quotes, words and other characters. The pieces of a text are the
text again, and a text that is followed by another has pieces of its own unless a word goes on behind it. So
words can be looked for, and changed, outside of literals alone.

## Implementation notes

A word is a row of characters that names and numbers are made of, so a number is one or more words, with the
marks of its sign and its point as pieces of their own.
-/

namespace Registrar

open Python (isNameChar)

/-- A literal between double quotes, a word, or any other character. -/
inductive Piece where
  | quoted (text : List Char)
  | word (text : List Char)
  | mark (c : Char)
  deriving DecidableEq, Repr

namespace Piece

/-- The text of a piece. -/
def text : Piece → List Char
  | .quoted text => text
  | .word text => text
  | .mark c => [c]

/-- A piece with another word, if it is a word. -/
def mapWord (change : List Char → List Char) : Piece → Piece
  | .word text => .word (change text)
  | other => other

/-- The word of a piece, if it is one that does not begin with a digit. -/
def identifier? : Piece → Option (List Char)
  | .word text => if (text.head?.map Char.isDigit).getD false then none else some text
  | _ => none

end Piece

/-- The pieces of a text from behind a number of characters on. -/
def piecesBehind : Nat → List Char → List Piece
  | _, [] => []
  | skipped + 1, _ :: rest => piecesBehind skipped rest
  | 0, c :: rest =>
      if c = '"' then
        match literalLength? rest with
        | some length => .quoted (c :: rest.take length) :: piecesBehind length rest
        | none => .mark c :: piecesBehind 0 rest
      else if isNameChar c then
        .word (c :: rest.takeWhile isNameChar) :: piecesBehind (rest.takeWhile isNameChar).length rest
      else .mark c :: piecesBehind 0 rest

/-- The pieces of a text. -/
def piecesOf (cs : List Char) : List Piece :=
  piecesBehind 0 cs

/-- A text with its words changed, outside of literals. -/
def mapWords (change : List Char → List Char) (text : String) : String :=
  .ofList (((piecesOf text.toList).map (Piece.mapWord change)).flatMap Piece.text)

/-- The words of a text outside of literals that do not begin with a digit. -/
def identifiersOf (text : String) : List String :=
  ((piecesOf text.toList).filterMap Piece.identifier?).map String.ofList

theorem piecesBehind_eq (skipped : Nat) (cs : List Char) :
    piecesBehind skipped cs = piecesOf (cs.drop skipped) := by
  induction cs generalizing skipped with
  | nil => cases skipped <;> rfl
  | cons c rest ih =>
      cases skipped with
      | zero => rfl
      | succ skipped => exact ih skipped

theorem flatMap_text_piecesBehind (skipped : Nat) (cs : List Char) :
    (piecesBehind skipped cs).flatMap Piece.text = cs.drop skipped := by
  induction cs generalizing skipped with
  | nil => cases skipped <;> rfl
  | cons c rest ih =>
      cases skipped with
      | succ skipped => exact ih skipped
      | zero =>
          rw [piecesBehind, List.drop_zero]
          split
          · split
            · rw [List.flatMap_cons, ih, Piece.text, List.cons_append, List.take_append_drop]
            · rw [List.flatMap_cons, ih]
              rfl
          · split
            · obtain ⟨behind, split⟩ := List.takeWhile_prefix (p := isNameChar) (l := rest)
              rw [List.flatMap_cons, ih, Piece.text, List.cons_append]
              nth_rewrite 3 [← split]
              rw [List.drop_left, split]
            · rw [List.flatMap_cons, ih]
              rfl

/-- The pieces of a text are the text. -/
theorem flatMap_text_piecesOf (cs : List Char) : (piecesOf cs).flatMap Piece.text = cs :=
  flatMap_text_piecesBehind 0 cs

/-- No word goes on at the front of a text. -/
def EndsWord (rest : List Char) : Prop :=
  ∀ c ∈ rest.head?, isNameChar c = false

/-- Whether a character is a piece by itself. -/
def isMark (c : Char) : Bool :=
  c ≠ '"' && !isNameChar c

/-- A text has some pieces, whatever follows it but more of a word. -/
def CutInto (cs : List Char) (pieces : List Piece) : Prop :=
  ∀ rest, EndsWord rest → piecesOf (cs ++ rest) = pieces ++ piecesOf rest

theorem endsWord_nil : EndsWord [] := by
  simp [EndsWord]

theorem endsWord_cons {c : Char} (mark : isMark c = true) (cs : List Char) : EndsWord (c :: cs) := by
  simp only [isMark, Bool.and_eq_true, Bool.not_eq_true'] at mark
  simpa [EndsWord] using mark.2

theorem EndsWord.append {cs rest : List Char} (front : EndsWord cs) (behind : EndsWord rest) :
    EndsWord (cs ++ rest) := by
  cases cs with
  | nil => exact behind
  | cons c cs => exact front

section Cut

variable {cs : List Char} {pieces : List Piece}

theorem CutInto.piecesOf_eq (cut : CutInto cs pieces) : piecesOf cs = pieces := by
  have whole := cut [] endsWord_nil
  rwa [List.append_nil, piecesOf, piecesOf, piecesBehind, List.append_nil] at whole

theorem cutInto_nil : CutInto [] [] :=
  fun _ _ => rfl

theorem piecesOf_mark {c : Char} (mark : isMark c = true) (cs : List Char) :
    piecesOf (c :: cs) = .mark c :: piecesOf cs := by
  simp only [isMark, Bool.and_eq_true, decide_eq_true_eq, Bool.not_eq_true'] at mark
  rw [piecesOf, piecesBehind, if_neg mark.1, mark.2]
  rfl

/-- A mark in front of a text is one more piece. -/
theorem CutInto.behind_mark {c : Char} (mark : isMark c = true) (behind : CutInto cs pieces) :
    CutInto (c :: cs) (.mark c :: pieces) := by
  intro rest ends
  rw [List.cons_append, piecesOf_mark mark, behind rest ends]
  rfl

/-- A quoted text in front of another is one more piece, whatever it holds. -/
theorem CutInto.behind_quoted (alphabet : Quoted.Alphabet) (text : String) (behind : CutInto cs pieces) :
    CutInto ((quoted alphabet text).toList ++ cs) (.quoted (quoted alphabet text).toList :: pieces) := by
  intro rest ends
  have length := literalLength?_of_escaped (Quoted.escaped_encode alphabet text.toList) (cs ++ rest)
  have whole : (Quoted.encode alphabet text.toList ++ '"' :: (cs ++ rest)) =
      (Quoted.encode alphabet text.toList ++ ['"']) ++ (cs ++ rest) := by
    rw [List.append_assoc]
    rfl
  have long : (Quoted.encode alphabet text.toList).length + 1 =
      (Quoted.encode alphabet text.toList ++ ['"']).length := by
    rw [List.length_append]
    rfl
  rw [whole, long] at length
  rw [toList_quoted, List.cons_append, List.cons_append, List.append_assoc, piecesOf, piecesBehind,
    if_pos rfl, length]
  simp only [List.take_left, piecesBehind_eq, List.drop_left, behind rest ends]
  rfl

/-- A word in front of a text that does not go on with it is one more piece. -/
theorem CutInto.behind_word {word : List Char} (nonempty : word ≠ [])
    (names : ∀ c ∈ word, isNameChar c = true) (ends : EndsWord cs) (behind : CutInto cs pieces) :
    CutInto (word ++ cs) (.word word :: pieces) := by
  intro rest ends'
  obtain ⟨first, more, rfl⟩ := List.exists_cons_of_ne_nil nonempty
  obtain ⟨here, others⟩ := List.forall_mem_cons.mp names
  have noQuote : first ≠ '"' := by
    rintro rfl
    revert here
    decide
  have row : (more ++ (cs ++ rest)).takeWhile isNameChar = more := by
    rw [List.takeWhile_append_of_pos others]
    have front := ends.append ends'
    cases whole : cs ++ rest with
    | nil => simp
    | cons c tail =>
        rw [whole] at front
        rw [List.takeWhile_cons, front c rfl]
        simp
  rw [List.cons_append, List.cons_append, List.append_assoc, piecesOf, piecesBehind, if_neg noQuote,
    if_pos here, row]
  simp only [piecesBehind_eq, List.drop_left, behind rest ends']
  rfl

theorem CutInto.append {ds : List Char} {others : List Piece} (cut : CutInto cs pieces)
    (behind : CutInto ds others) (ends : EndsWord ds) : CutInto (cs ++ ds) (pieces ++ others) := by
  intro rest ends'
  rw [List.append_assoc, cut _ (ends.append ends'), behind rest ends', List.append_assoc]

/-- A word is one piece. -/
theorem cutInto_word {word : List Char} (nonempty : word ≠ []) (names : ∀ c ∈ word, isNameChar c = true) :
    CutInto word [.word word] := by
  have whole := cutInto_nil.behind_word nonempty names endsWord_nil
  rwa [List.append_nil] at whole

end Cut

/-- Whether a piece can stand in a number: a word that begins with a digit, or a mark. -/
def Piece.isNumeral : Piece → Bool
  | .quoted _ => false
  | .word text => (text.head?.map Char.isDigit).getD false
  | .mark _ => true

theorem Piece.identifier?_of_isNumeral {piece : Piece} (numeral : piece.isNumeral = true) :
    piece.identifier? = none := by
  cases piece with
  | quoted => rfl
  | word text => exact if_pos numeral
  | mark => rfl

theorem isNameChar_of_isDigit {c : Char} (digit : c.isDigit = true) : isNameChar c = true := by
  simp [isNameChar, Char.isAlphanum, digit]

theorem isNumeral_append {cs : List Char} (digits : IsDigits cs) (behind : List Char) :
    (Piece.word (cs ++ behind)).isNumeral = true := by
  obtain ⟨c, rest, rfl⟩ := List.exists_cons_of_ne_nil digits.nonempty
  exact digits.digits c List.mem_cons_self

theorem isNumeral_digits {cs : List Char} (digits : IsDigits cs) : (Piece.word cs).isNumeral = true := by
  simpa using isNumeral_append digits []

theorem CutInto.behind_digits {digits cs : List Char} {pieces : List Piece} (before : IsDigits digits)
    (ends : EndsWord cs) (behind : CutInto cs pieces) : CutInto (digits ++ cs) (.word digits :: pieces) :=
  behind.behind_word before.nonempty (fun c member => isNameChar_of_isDigit (before.digits c member)) ends

theorem cutInto_digits {cs : List Char} (digits : IsDigits cs) : CutInto cs [.word cs] :=
  cutInto_word digits.nonempty fun c member => isNameChar_of_isDigit (digits.digits c member)

/-- Digits with an exponent behind them are a word, the sign of the exponent, and a word. -/
theorem cutInto_exponent {digits power : List Char} {sign : Char} (before : IsDigits digits)
    (signed : sign = '+' ∨ sign = '-') (raised : IsDigits power) :
    CutInto (digits ++ 'e' :: sign :: power) [.word (digits ++ ['e']), .mark sign, .word power] := by
  have mark : isMark sign = true := by
    rcases signed with rfl | rfl <;> decide
  have names : ∀ c ∈ digits ++ ['e'], isNameChar c = true := by
    intro c member
    rcases List.mem_append.mp member with digit | letter
    · exact isNameChar_of_isDigit (before.digits c digit)
    · rw [List.mem_singleton.mp letter]
      decide
  have whole := ((cutInto_digits raised).behind_mark mark).behind_word (by simp) names
    (endsWord_cons mark power)
  simpa using whole

/-- A number without words is made of marks and of words that begin with a digit. -/
theorem exists_pieces_number {cs : List Char} (number : NumberText [] cs) :
    ∃ pieces, CutInto cs pieces ∧ ∀ piece ∈ pieces, piece.isNumeral = true := by
  have unsigned {cs : List Char} (number : Unsigned [] cs) :
      ∃ pieces, CutInto cs pieces ∧ ∀ piece ∈ pieces, piece.isNumeral = true := by
    cases number with
    | word known => cases known
    | whole digits => exact ⟨_, cutInto_digits digits, by simpa using isNumeral_digits digits⟩
    | fraction digits =>
        have point : isMark '.' = true := by decide
        cases digits with
        | point before behind =>
            refine ⟨_, ((cutInto_digits behind).behind_mark point).behind_digits before
              (endsWord_cons point _), ?_⟩
            simpa using ⟨isNumeral_digits before, rfl, isNumeral_digits behind⟩
        | exponent before signed raised =>
            refine ⟨_, cutInto_exponent before signed raised, ?_⟩
            simpa using ⟨isNumeral_append before ['e'], rfl, isNumeral_digits raised⟩
        | pointExponent before behind signed raised =>
            refine ⟨_, ((cutInto_exponent behind signed raised).behind_mark point).behind_digits before
              (endsWord_cons point _), ?_⟩
            simpa using ⟨isNumeral_digits before, rfl, isNumeral_append behind ['e'], rfl,
              isNumeral_digits raised⟩
  cases number with
  | positive number => exact unsigned number
  | negative number =>
      obtain ⟨pieces, cut, numerals⟩ := unsigned number
      exact ⟨_, cut.behind_mark (by decide), List.forall_mem_cons.mpr ⟨rfl, numerals⟩⟩

end Registrar
