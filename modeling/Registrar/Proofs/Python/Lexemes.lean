import Registrar.Proofs.Naming.ClassName
import Registrar.Proofs.Number.Numerals
import Registrar.Proofs.Python.Scanning
import Registrar.Proofs.Text.Escaping

/-!
# Tokens at the front of a text

What the scanner reads at a word, a mark, a quoted text and a number, each in front of a character that
ends it. Quoted texts are read whatever stands between the quotes, as it is written in one of the forms
of `Quoted.Escaped`.
-/

namespace Registrar.Python

/-- No literal begins where something other than a quote stands behind the letters. -/
theorem literalStart?_eq_none {cs : List Char}
    (noQuote : ∀ c rest, cs.dropWhile Char.isAlpha = c :: rest → c ≠ '\'' ∧ c ≠ '"') :
    literalStart? cs = none := by
  have behind : cs.drop (kindLetters cs).length = cs.dropWhile Char.isAlpha := by
    rw [kindLetters, List.length_map]
    calc
      cs.drop (cs.takeWhile Char.isAlpha).length
      _ = (cs.takeWhile Char.isAlpha ++ cs.dropWhile Char.isAlpha).drop
            (cs.takeWhile Char.isAlpha).length := by rw [List.takeWhile_append_dropWhile]
      _ = cs.dropWhile Char.isAlpha := List.drop_left
  rw [literalStart?, behind]
  cases left : cs.dropWhile Char.isAlpha with
  | nil => rfl
  | cons c rest =>
      obtain ⟨single, double⟩ := noQuote c rest left
      simp [single, double]

theorem literalStart?_cons_eq_none {c : Char} (letter : c.isAlpha = false) (single : c ≠ '\'')
    (double : c ≠ '"') (rest : List Char) : literalStart? (c :: rest) = none := by
  apply literalStart?_eq_none
  intro first behind same
  rw [List.dropWhile_cons, letter] at same
  obtain ⟨rfl, -⟩ := List.cons.inj same
  exact ⟨single, double⟩

/-- The characters of words in ASCII. -/
def isPlainPart (c : Char) : Bool :=
  c.isAlphanum || c == '_'

/-- Whether characters are a word in ASCII that does not begin with a digit. -/
def isPlainWord : List Char → Bool
  | [] => false
  | c :: cs => (c.isAlpha || c == '_') && cs.all isPlainPart

/-- Whether a word ends in front of a character, and is not the begin of a literal. -/
def endsWord (c : Char) : Bool :=
  !isNameChar c && c ≠ '\'' && c ≠ '"'

theorem toNat_lt_of_isAlphanum {c : Char} (h : c.isAlphanum = true) : c.toNat < 0x80 := by
  rw [← isWordChar_eq_isAlphanum] at h
  simp only [isWordChar, Bool.or_eq_true, Bool.and_eq_true, decide_eq_true_eq] at h
  omega

theorem toNat_lt_of_isPlainPart {c : Char} (part : isPlainPart c = true) : c.toNat < 0x80 := by
  rcases Bool.or_eq_true_iff.mp part with letter | line
  · exact toNat_lt_of_isAlphanum letter
  · rw [beq_iff_eq.mp line]
    decide

/-- The first character of a word is none of the others that a word may have. -/
theorem isPlainWord_cons {c : Char} {cs : List Char} (plain : isPlainWord (c :: cs) = true) :
    (c.isAlpha = true ∨ c = '_') ∧ ∀ d ∈ c :: cs, isPlainPart d = true := by
  simp only [isPlainWord, Bool.and_eq_true, Bool.or_eq_true, beq_iff_eq, List.all_eq_true] at plain
  refine ⟨plain.1, List.forall_mem_cons.mpr ⟨?_, plain.2⟩⟩
  rcases plain.1 with letter | line
  · simp [isPlainPart, Char.isAlphanum, letter]
  · simp [isPlainPart, line]

theorem isIdentifier_of_isPlainWord {word : List Char} (plain : isPlainWord word = true) :
    isIdentifier word = true := by
  cases word with
  | nil => simp [isPlainWord] at plain
  | cons c cs =>
      obtain ⟨first, parts⟩ := isPlainWord_cons plain
      obtain ⟨here, others⟩ := List.forall_mem_cons.mp parts
      rw [isIdentifier, isIdentifierStart, if_pos (toNat_lt_of_isPlainPart here), Bool.and_eq_true,
        List.all_eq_true]
      refine ⟨by simpa using first, fun d member => ?_⟩
      rw [isIdentifierPart, if_pos (toNat_lt_of_isPlainPart (others d member))]
      exact others d member

theorem isNameChar_of_isPlainPart {c : Char} (part : isPlainPart c = true) : isNameChar c = true := by
  simp only [isPlainPart, isNameChar, Bool.or_eq_true] at part ⊢
  exact .inl part

theorem noQuote_of_isPlainPart {c : Char} (part : isPlainPart c = true) : c ≠ '\'' ∧ c ≠ '"' := by
  constructor <;> rintro rfl <;> revert part <;> decide

/-- Letters are passed over up to a character of the word that is none, or to the one that ends it. -/
theorem noQuote_behind_letters {word : List Char} (parts : ∀ d ∈ word, isPlainPart d = true) {c : Char}
    (ends : endsWord c = true) (rest : List Char) :
    ∀ d behind, (word ++ c :: rest).dropWhile Char.isAlpha = d :: behind → d ≠ '\'' ∧ d ≠ '"' := by
  simp only [endsWord, Bool.and_eq_true, Bool.not_eq_true', decide_eq_true_eq] at ends
  obtain ⟨⟨name, single⟩, double⟩ := ends
  have letter : c.isAlpha = false := by
    simp only [isNameChar, Char.isAlphanum, Bool.or_eq_false_iff] at name
    exact name.1.1.1
  intro d behind
  induction word with
  | nil =>
      rw [List.nil_append, List.dropWhile_cons, letter]
      intro same
      obtain ⟨rfl, -⟩ := List.cons.inj same
      exact ⟨single, double⟩
  | cons first word ih =>
      obtain ⟨here, others⟩ := List.forall_mem_cons.mp parts
      rw [List.cons_append, List.dropWhile_cons]
      split
      · exact ih others
      · intro same
        obtain ⟨rfl, -⟩ := List.cons.inj same
        exact noQuote_of_isPlainPart here

/-- A word is read as a whole. -/
theorem lexeme?_word {word : List Char} (plain : isPlainWord word = true) {c : Char}
    (ends : endsWord c = true) (rest : List Char) :
    lexeme? (word ++ c :: rest) = some (.ofWord word, c :: rest) := by
  obtain ⟨first, more, rfl⟩ : ∃ first more, word = first :: more := by
    cases word with
    | nil => simp [isPlainWord] at plain
    | cons first more => exact ⟨first, more, rfl⟩
  obtain ⟨begins, parts⟩ := isPlainWord_cons plain
  have starts : isNameStart first = true := by
    simp only [isNameStart, Bool.or_eq_true, beq_iff_eq]
    exact .inl begins
  have names : ∀ d ∈ first :: more, isNameChar d = true := fun d member =>
    isNameChar_of_isPlainPart (parts d member)
  have stops : isNameChar c = false := by
    simp only [endsWord, Bool.and_eq_true, Bool.not_eq_true'] at ends
    exact ends.1.1
  have whole : (first :: more ++ c :: rest).takeWhile isNameChar = first :: more := by
    rw [List.takeWhile_append_of_pos names]
    simp [stops]
  have left : (first :: more ++ c :: rest).dropWhile isNameChar = c :: rest := by
    rw [List.dropWhile_append_of_pos names]
    simp [stops]
  have noLiteral := literalStart?_eq_none (noQuote_behind_letters parts ends rest)
  unfold lexeme?
  rw [noLiteral]
  simp only [List.cons_append] at whole left ⊢
  simp only [starts, if_true, word?, whole, left, isIdentifier_of_isPlainWord plain]

/-- The characters that begin an operator of a generated module. -/
def marks : List Char :=
  ['(', ')', '[', ']', '\x7b', '\x7d', ',', ':', '.', '=', '-']

/-- An operator is read at a mark that begins no number. -/
theorem lexeme?_mark {c : Char} (mark : c ∈ marks) {rest : List Char}
    (noNumeral : startsNumeral (c :: rest) = false) :
    lexeme? (c :: rest) =
      (operator? c rest).map fun (operator, after) => (.op operator, after) := by
  have plain : ∀ c ∈ marks, c.isAlpha = false ∧ c ≠ '\'' ∧ c ≠ '"' ∧ isNameStart c = false := by decide
  obtain ⟨letter, single, double, name⟩ := plain c mark
  rw [lexeme?, literalStart?_cons_eq_none letter single double]
  simp [name, noNumeral]

theorem startsNumeral_cons {c : Char} (point : c ≠ '.') (rest : List Char) :
    startsNumeral (c :: rest) = c.isDigit := by
  rw [startsNumeral]
  simp [point]

theorem singleQuoted_plain {c : Char} (visible : ' ' ≤ c) (quote : c ≠ '"') (backslash : c ≠ '\\')
    (cs : List Char) : singleQuoted '"' (c :: cs) =
      (singleQuoted '"' cs).map fun (inside, after) => (c :: inside, after) := by
  have noLineEnd : c ≠ '\n' := by
    rintro rfl
    revert visible
    decide
  rw [singleQuoted]
  · simp [quote]
  · exact noLineEnd
  · simp [backslash]

/-- The inside of a written text ends where the text does. -/
theorem singleQuoted_of_escaped {inside : List Char} (escaped : Quoted.Escaped inside)
    (rest : List Char) : singleQuoted '"' (inside ++ '"' :: rest) = some (inside, rest) := by
  induction escaped with
  | nil => rfl
  | plain visible quote backslash _ ih =>
      rw [List.cons_append, singleQuoted_plain visible quote backslash, ih]
      rfl
  | letter _ _ ih =>
      rw [List.cons_append, List.cons_append, singleQuoted, ih]
      rfl
  | unit n _ ih =>
      obtain ⟨a, b, c, d, written, digits⟩ := Quoted.unitEscape_eq n
      have plain : ∀ c ∈ "0123456789abcdef".toList, ' ' ≤ c ∧ c ≠ '"' ∧ c ≠ '\\' := by decide
      have each (digit : Char) (member : digit ∈ [a, b, c, d]) (cs : List Char) :=
        have ⟨visible, quote, backslash⟩ := plain digit (digits digit member)
        singleQuoted_plain visible quote backslash cs
      rw [written, List.append_assoc]
      simp only [List.cons_append, List.nil_append]
      rw [singleQuoted, each _ (by simp), each _ (by simp), each _ (by simp), each _ (by simp), ih]
      rfl

/-- The escapes of a written text are complete. -/
theorem hasEscapes_of_escaped {inside : List Char} (escaped : Quoted.Escaped inside) :
    hasEscapes false inside = true := by
  have plain {c : Char} (backslash : c ≠ '\\') (cs : List Char) :
      hasEscapes false (c :: cs) = hasEscapes false cs := by
    rw [hasEscapes]
    simp [backslash]
  induction escaped with
  | nil => rfl
  | plain _ _ backslash _ ih => rw [plain backslash, ih]
  | @letter l rest known _ ih =>
      have complete : ∀ l ∈ Quoted.escapeLetters, isEscape false l rest = true := by
        simp [Quoted.escapeLetters, isEscape]
      rw [hasEscapes, complete l known, ih]
      rfl
  | @unit rest n _ ih =>
      obtain ⟨a, b, c, d, written, digits⟩ := Quoted.unitEscape_eq n
      have each : ∀ c ∈ "0123456789abcdef".toList, isHexDigit c = true ∧
          (if c.isDigit then c.toNat - 48 else c.toLower.toNat - 87) < 16 ∧ c ≠ '\\' := by decide
      obtain ⟨ha, hb, hc, hd⟩ : _ ∧ _ ∧ _ ∧ _ :=
        ⟨each a (digits a (by simp)), each b (digits b (by simp)), each c (digits c (by simp)),
          each d (digits d (by simp))⟩
      have complete : isEscape false 'u' (a :: b :: c :: d :: rest) = true := by
        have small : hexNumber [a, b, c, d] < 0x10000 := by
          simp only [hexNumber, List.foldl_cons, List.foldl_nil]
          omega
        simp [isEscape, hasHexDigits, ha.1, hb.1, hc.1, hd.1, small]
      rw [written]
      simp only [List.cons_append, List.nil_append]
      rw [hasEscapes, complete, plain ha.2.2, plain hb.2.2, plain hc.2.2, plain hd.2.2, ih]
      rfl

/-- The quote of a written text is not the first of three. -/
theorem quotedInside?_of_escaped {inside : List Char} (escaped : Quoted.Escaped inside) {c : Char}
    (other : c ≠ '"') (rest : List Char) :
    quotedInside? ('"' :: (inside ++ '"' :: c :: rest)) =
      singleQuoted '"' (inside ++ '"' :: c :: rest) := by
  have begins {second : Char} (noQuote : second ≠ '"') (more : List Char) :
      quotedInside? ('"' :: (second :: more ++ '"' :: c :: rest)) =
        singleQuoted '"' (second :: more ++ '"' :: c :: rest) := by
    cases more <;> simp [quotedInside?, noQuote]
  cases escaped with
  | nil => simp [quotedInside?, other]
  | plain _ quote _ _ => exact begins quote _
  | letter _ _ => exact begins (by decide) _
  | unit n _ => exact begins (by decide) _

/-- A written text is read as a whole, whatever it holds. -/
theorem lexeme?_quoted (alphabet : Quoted.Alphabet) (text : String) {c : Char} (other : c ≠ '"')
    (rest : List Char) :
    lexeme? ((quoted alphabet text).toList ++ c :: rest) = some (.literal false [], c :: rest) := by
  have escaped := Quoted.escaped_encode alphabet text.toList
  rw [toList_quoted, List.cons_append, List.append_assoc, List.singleton_append]
  generalize Quoted.encode alphabet text.toList = inside at escaped
  have kind : literalStart? ('"' :: (inside ++ '"' :: c :: rest)) =
      some (⟨false, false, false⟩, '"' :: (inside ++ '"' :: c :: rest)) := by
    simp [literalStart?, kindLetters, literalKind?]
  have plain : isPlainInside ⟨false, false, false⟩ inside = true := by
    simp [isPlainInside, hasEscapes_of_escaped escaped]
  rw [lexeme?, kind]
  simp [literal?, quotedInside?_of_escaped escaped other, singleQuoted_of_escaped escaped, literalOf?, plain]

/-- Whether a number ends in front of a character, whatever digits it has. -/
def endsNumber (c : Char) : Bool :=
  !isNameChar c && c ≠ '.'

theorem ne_of_endsNumber {c : Char} (ends : endsNumber c = true) :
    isNameChar c = false ∧ c.isDigit = false ∧
      ∀ mark ∈ ['_', '.', 'e', 'E', 'j', 'J', 'x', 'X', 'o', 'O', 'b', 'B'], c ≠ mark := by
  refine ⟨?_, ?_, ?_⟩
  · simp_all [endsNumber]
  · simp_all [endsNumber, isNameChar, Char.isAlphanum]
  · rintro mark member rfl
    have marks : ∀ mark ∈ ['_', '.', 'e', 'E', 'j', 'J', 'x', 'X', 'o', 'O', 'b', 'B'],
        endsNumber mark = false := by decide
    rw [marks c member] at ends
    exact Bool.false_ne_true ends

theorem skipDigits_of_isDigits {digits : List Char} (all : ∀ c ∈ digits, c.isDigit = true) {c : Char}
    (digit : c.isDigit = false) (line : c ≠ '_') (rest : List Char) :
    skipDigits Char.isDigit (digits ++ c :: rest) = some (c :: rest) := by
  induction digits with
  | nil =>
      rw [List.nil_append, skipDigits]
      · simp [digit]
      · exact fun same => line same
  | cons d digits ih =>
      obtain ⟨here, others⟩ := List.forall_mem_cons.mp all
      have plain : d ≠ '_' := by
        rintro rfl
        revert here
        decide
      rw [List.cons_append, skipDigits_cons plain here, ih others]

theorem imaginaryEnd_of_endsNumber {c : Char} (ends : endsNumber c = true) (rest : List Char) :
    imaginaryEnd (c :: rest) = some (false, c :: rest) := by
  obtain ⟨name, -, other⟩ := ne_of_endsNumber ends
  simp [imaginaryEnd, mayFollowNumber, name, other]

theorem exponentEnd_of_endsNumber {c : Char} (ends : endsNumber c = true) (rest : List Char) :
    exponentEnd (c :: rest) = some (false, c :: rest) := by
  obtain ⟨-, -, other⟩ := ne_of_endsNumber ends
  simp [exponentEnd, other, imaginaryEnd_of_endsNumber ends]

/-- An exponent with a sign is read to its end. -/
theorem exponentEnd_of_isDigits {power : List Char} (raised : IsDigits power) {sign : Char}
    (signed : sign = '+' ∨ sign = '-') {c : Char} (ends : endsNumber c = true) (rest : List Char) :
    exponentEnd ('e' :: sign :: (power ++ c :: rest)) = some (false, c :: rest) := by
  obtain ⟨-, digit, other⟩ := ne_of_endsNumber ends
  obtain ⟨first, more, rfl⟩ := List.exists_cons_of_ne_nil raised.nonempty
  obtain ⟨here, others⟩ := List.forall_mem_cons.mp raised.digits
  have skipped := skipDigits_of_isDigits others digit (other _ (by simp)) rest
  simp [exponentEnd, signed, here, skipped, imaginaryEnd_of_endsNumber ends]

/-- A row of digits behind the point is passed over. -/
theorem decimalEnd_point (zeroLed : Bool) {fraction : List Char} (behind : IsDigits fraction) {c : Char}
    (digit : c.isDigit = false) (line : c ≠ '_') (rest : List Char) :
    decimalEnd zeroLed ('.' :: (fraction ++ c :: rest)) = exponentEnd (c :: rest) := by
  have skipped := skipDigits_of_isDigits behind.digits digit line rest
  obtain ⟨first, more, rfl⟩ := List.exists_cons_of_ne_nil behind.nonempty
  have here := behind.digits first List.mem_cons_self
  simp only [List.cons_append] at skipped ⊢
  simp [decimalEnd, here, skipped]

theorem decimalEnd_whole {c : Char} (ends : endsNumber c = true) (rest : List Char) :
    decimalEnd false (c :: rest) = some (false, c :: rest) := by
  obtain ⟨-, -, other⟩ := ne_of_endsNumber ends
  have point : c ≠ '.' := other _ (by simp)
  rw [decimalEnd]
  · simp [other, imaginaryEnd_of_endsNumber ends]
  · exact fun d cs same _ => point same
  · exact fun same _ => point same

/-- Digits are read as a decimal number unless the letter of another base is behind the first. -/
theorem numeral?_of_isDigits {digits : List Char} (row : IsDigits digits) {c : Char}
    (base : c ∉ ['x', 'X', 'o', 'O', 'b', 'B']) (digit : c.isDigit = false) (line : c ≠ '_')
    (rest : List Char) :
    numeral? (digits ++ c :: rest) =
      decimalEnd (isZeroLed (digits ++ c :: rest)) (c :: rest) := by
  have skipped := skipDigits_of_isDigits row.digits digit line rest
  obtain ⟨first, more, rfl⟩ := List.exists_cons_of_ne_nil row.nonempty
  obtain ⟨here, others⟩ := List.forall_mem_cons.mp row.digits
  have point : first ≠ '.' := by
    rintro rfl
    revert here
    decide
  obtain ⟨second, behind, split, letters⟩ : ∃ second behind, more ++ c :: rest = second :: behind ∧
      second ∉ ['x', 'X', 'o', 'O', 'b', 'B'] := by
    cases more with
    | nil => exact ⟨c, rest, rfl, base⟩
    | cons second more =>
        refine ⟨second, more ++ c :: rest, rfl, fun member => ?_⟩
        have noDigit : ∀ mark ∈ ['x', 'X', 'o', 'O', 'b', 'B'], mark.isDigit = false := by decide
        exact Bool.false_ne_true ((noDigit second member).symm.trans (others second List.mem_cons_self))
  rw [List.cons_append, split] at skipped ⊢
  simp only [List.mem_cons, List.not_mem_nil, or_false, not_or] at letters
  by_cases zero : first = '0'
  · subst zero
    simp [numeral?, letters, skipped]
  · rw [numeral?]
    · simp [skipped]
    · exact fun _ same => point (List.cons.inj same).1
    · exact fun _ _ same => zero (List.cons.inj same).1

/-- Digits without a zero in front are not taken for digits behind a zero. -/
theorem isZeroLed_of_noLeadingZero {digits : List Char} (row : IsDigits digits) (led : NoLeadingZero digits)
    {c : Char} (digit : c.isDigit = false) (line : c ≠ '_') (rest : List Char) :
    isZeroLed (digits ++ c :: rest) = false := by
  obtain ⟨first, more, rfl⟩ := List.exists_cons_of_ne_nil row.nonempty
  by_cases zero : first = '0'
  · subst zero
    obtain rfl := led more rfl
    have other : c ≠ '0' := by
      rintro rfl
      revert digit
      decide
    simp [isZeroLed, line, other, digit]
  · rw [List.cons_append, isZeroLed]
    exact fun _ same => zero (List.cons.inj same).1

/-- A digit begins nothing but a number. -/
theorem plain_of_isDigit {c : Char} (digit : c.isDigit = true) :
    c.isAlpha = false ∧ c ≠ '\'' ∧ c ≠ '"' ∧ isNameStart c = false ∧ c ≠ '.' := by
  have each : ∀ n < 58, 48 ≤ n → (Char.ofNat n).isAlpha = false ∧ Char.ofNat n ≠ '\'' ∧
      Char.ofNat n ≠ '"' ∧ isNameStart (Char.ofNat n) = false ∧ Char.ofNat n ≠ '.' := by decide
  obtain ⟨low, high⟩ := Char.isDigit_iff_toNat.mp digit
  change 48 ≤ c.toNat at low
  change c.toNat ≤ 57 at high
  rw [← Char.ofNat_toNat c]
  exact each c.toNat (by omega) low

/-- A row of digits is read where a number is looked for, at its first digit. -/
theorem lexeme?_of_isDigits {digits : List Char} (row : IsDigits digits) (rest : List Char) :
    lexeme? (digits ++ rest) =
      (numeral? (digits ++ rest)).map fun (imaginary, after) => (.number imaginary, after) := by
  obtain ⟨first, more, rfl⟩ := List.exists_cons_of_ne_nil row.nonempty
  have here := row.digits first List.mem_cons_self
  obtain ⟨letter, single, double, name, point⟩ := plain_of_isDigit here
  unfold lexeme?
  rw [List.cons_append, literalStart?_cons_eq_none letter single double]
  simp [name, startsNumeral_cons point, here]

/-- A number is read as a whole. -/
theorem lexeme?_whole {digits : List Char} (row : IsDigits digits) (led : NoLeadingZero digits) {c : Char}
    (ends : endsNumber c = true) (rest : List Char) :
    lexeme? (digits ++ c :: rest) = some (.number false, c :: rest) := by
  obtain ⟨-, digit, other⟩ := ne_of_endsNumber ends
  have line : c ≠ '_' := other _ (by simp)
  have base : c ∉ ['x', 'X', 'o', 'O', 'b', 'B'] := fun member => other c (by simp_all) rfl
  rw [lexeme?_of_isDigits row, numeral?_of_isDigits row base digit line,
    isZeroLed_of_noLeadingZero row led digit line, decimalEnd_whole ends]
  rfl

theorem lexeme?_fractional {cs : List Char} (number : Fractional cs) {c : Char}
    (ends : endsNumber c = true) (rest : List Char) :
    lexeme? (cs ++ c :: rest) = some (.number false, c :: rest) := by
  obtain ⟨-, digit, other⟩ := ne_of_endsNumber ends
  have line : c ≠ '_' := other _ (by simp)
  cases number with
  | @point whole fraction before behind =>
      rw [List.append_assoc, List.cons_append, lexeme?_of_isDigits before,
        numeral?_of_isDigits before (by decide) (by decide) (by decide),
        decimalEnd_point _ behind digit line, exponentEnd_of_endsNumber ends]
      rfl
  | @exponent whole power sign before signed raised =>
      rw [List.append_assoc, List.cons_append, List.cons_append, lexeme?_of_isDigits before,
        numeral?_of_isDigits before (by decide) (by decide) (by decide)]
      have marked (zeroLed : Bool) (cs : List Char) :
          decimalEnd zeroLed ('e' :: cs) = exponentEnd ('e' :: cs) := by
        simp [decimalEnd]
      rw [marked, exponentEnd_of_isDigits raised signed ends]
      rfl
  | @pointExponent whole fraction power sign before behind signed raised =>
      rw [List.append_assoc, List.cons_append, List.append_assoc, List.cons_append, List.cons_append,
        lexeme?_of_isDigits before,
        numeral?_of_isDigits before (by decide) (by decide) (by decide),
        decimalEnd_point _ behind (by decide) (by decide), exponentEnd_of_isDigits raised signed ends]
      rfl

variable {blocks : List Columns} {due : List Operator}

theorem dueBehind_ofWord (word : List Char) : dueBehind due (.ofWord word) = some due := by
  unfold Token.ofWord
  split <;> rfl

theorem isVisible_of_isPlainPart {c : Char} (part : isPlainPart c = true) : isVisible c = true := by
  have noPart : ∀ c ∈ [' ', '\t', '\x0c', '\n', '#', '\\'], isPlainPart c = false := by decide
  rw [isVisible, decide_eq_true_eq]
  intro member
  rw [noPart c member] at part
  exact Bool.false_ne_true part

theorem isVisible_of_isDigit {c : Char} (digit : c.isDigit = true) : isVisible c = true := by
  apply isVisible_of_isPlainPart
  simp [isPlainPart, Char.isAlphanum, digit]

/-- A word is one token. -/
theorem scans_word {word : List Char} (plain : isPlainWord word = true) {c : Char}
    (ends : endsWord c = true) (rest : List Char) :
    Scans ⟨false, blocks, due⟩ (word ++ c :: rest) [.ofWord word] ⟨false, blocks, due⟩ (c :: rest) := by
  have read := lexeme?_word plain ends rest
  cases word with
  | nil => simp [isPlainWord] at plain
  | cons first more =>
      have part := (isPlainWord_cons plain).2 first List.mem_cons_self
      exact scans_lexeme (isVisible_of_isPlainPart part) read (by simp) (dueBehind_ofWord _)

/-- A written text is one token. -/
theorem scans_quoted (alphabet : Quoted.Alphabet) (text : String) {c : Char} (other : c ≠ '"')
    (rest : List Char) :
    Scans ⟨false, blocks, due⟩ ((quoted alphabet text).toList ++ c :: rest) [.literal false []]
      ⟨false, blocks, due⟩ (c :: rest) := by
  have read := lexeme?_quoted alphabet text other rest
  rw [toList_quoted] at read ⊢
  exact scans_lexeme (by decide) read (by simp; omega) rfl

/-- A number that begins with a digit is one token. -/
theorem scans_number {digits behind : List Char} (row : IsDigits digits) {c : Char} {rest : List Char}
    (read : lexeme? (digits ++ behind ++ c :: rest) = some (.number false, c :: rest)) :
    Scans ⟨false, blocks, due⟩ (digits ++ behind ++ c :: rest) [.number false]
      ⟨false, blocks, due⟩ (c :: rest) := by
  obtain ⟨first, more, rfl⟩ := List.exists_cons_of_ne_nil row.nonempty
  have here := row.digits first List.mem_cons_self
  exact scans_lexeme (isVisible_of_isDigit here) read (by simp; omega) rfl

theorem scans_whole {digits : List Char} (row : IsDigits digits) (led : NoLeadingZero digits) {c : Char}
    (ends : endsNumber c = true) (rest : List Char) :
    Scans ⟨false, blocks, due⟩ (digits ++ c :: rest) [.number false] ⟨false, blocks, due⟩ (c :: rest) := by
  have run : Scans ⟨false, blocks, due⟩ (digits ++ [] ++ c :: rest) [.number false]
      ⟨false, blocks, due⟩ (c :: rest) :=
    scans_number row (by simpa using lexeme?_whole row led ends rest)
  simpa using run

theorem scans_fractional {cs : List Char} (number : Fractional cs) {c : Char}
    (ends : endsNumber c = true) (rest : List Char) :
    Scans ⟨false, blocks, due⟩ (cs ++ c :: rest) [.number false] ⟨false, blocks, due⟩ (c :: rest) := by
  have read := lexeme?_fractional number ends rest
  cases number with
  | point before _ => exact scans_number before read
  | exponent before _ _ => exact scans_number before read
  | pointExponent before _ _ _ => exact scans_number before read

/-- A mark is one token, if it is one operator. -/
theorem scans_mark {c : Char} (mark : c ∈ marks) {rest behind : List Char} {operator : Operator}
    {inner : List Operator} (noNumeral : startsNumeral (c :: rest) = false)
    (found : operator? c rest = some (operator, behind)) (shorter : behind.length ≤ rest.length)
    (next : dueBehind due (.op operator) = some inner) :
    Scans ⟨false, blocks, due⟩ (c :: rest) [.op operator] ⟨false, blocks, inner⟩ behind := by
  have visible : ∀ c ∈ marks, isVisible c = true := by decide
  refine scans_lexeme (visible c mark) ?_ shorter next
  rw [lexeme?_mark mark noNumeral, found]
  rfl

end Registrar.Python
