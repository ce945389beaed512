import Registrar.Proofs.Python.Statements

/-!
# Scanning statements

The lines of a generated module are read as the tokens of its statements: imports, the assignment of the
schema, the head of the registration function, and the calls in it.
-/

namespace Registrar.Python

variable {blocks : List Columns} {due : List Operator}

/-- A word in front of a blank. -/
theorem scans_wordBlank {word : List Char} {token : Token} (plain : isPlainWord word = true)
    (same : Token.ofWord word = token) (rest : List Char) :
    Scans ⟨false, blocks, due⟩ (word ++ ' ' :: rest) [token] ⟨false, blocks, due⟩ rest := by
  subst same
  exact (scans_word plain (by decide) _).trans (scans_blank rest)

/-- A point in front of something that is neither a digit nor another point. -/
theorem scans_dot {c : Char} (digit : c.isDigit = false) (point : c ≠ '.') (rest : List Char) :
    Scans ⟨false, blocks, due⟩ ('.' :: c :: rest) [.op .dot] ⟨false, blocks, due⟩ (c :: rest) := by
  have one : operator? '.' (c :: rest) = some (.dot, c :: rest) := by
    simp [operator?, point]
  exact scans_mark (by decide) digit one (Nat.le_refl _) rfl

theorem scans_openParen (room : due.length < greatestDepth) (rest : List Char) :
    Scans ⟨false, blocks, due⟩ ('(' :: rest) [.op .openParen] ⟨false, blocks, .closeParen :: due⟩ rest :=
  scans_opening (by decide) (by decide) (by decide) (fun _ => rfl) rfl room rest

theorem scans_closeParen (rest : List Char) :
    Scans ⟨false, blocks, .closeParen :: due⟩ (')' :: rest) [.op .closeParen] ⟨false, blocks, due⟩ rest :=
  scans_closing (by decide) (by decide) (by decide) (fun _ => rfl) rfl rfl rest

/-- Whether characters are a name in ASCII. -/
def isPlainName (word : List Char) : Bool :=
  isPlainWord word && (keyword? word).isNone

theorem ofWord_of_isPlainName {word : List Char} (name : isPlainName word = true) :
    isPlainWord word = true ∧ Token.ofWord word = .name word := by
  simp only [isPlainName, Bool.and_eq_true, Option.isNone_iff_eq_none] at name
  exact ⟨name.1, by rw [Token.ofWord, name.2]⟩

theorem scans_name {word : List Char} (name : isPlainName word = true) {c : Char}
    (ends : endsWord c = true) (rest : List Char) :
    Scans ⟨false, blocks, due⟩ (word ++ c :: rest) [.name word] ⟨false, blocks, due⟩ (c :: rest) := by
  obtain ⟨plain, same⟩ := ofWord_of_isPlainName name
  rw [← same]
  exact scans_word plain ends rest

theorem ne_nil_of_isPlainName {word : List Char} (name : isPlainName word = true) : word ≠ [] := by
  rintro rfl
  revert name
  decide

theorem visible_name {word : List Char} (name : isPlainName word = true) (rest : List Char) :
    ∃ c behind, word ++ rest = c :: behind ∧ isVisible c = true := by
  obtain ⟨plain, -⟩ := ofWord_of_isPlainName name
  cases word with
  | nil => simp [isPlainWord] at plain
  | cons c more =>
      have part := (isPlainWord_cons plain).2 c List.mem_cons_self
      exact ⟨c, more ++ rest, rfl, isVisible_of_isPlainPart part⟩

/-- A word behind a point. -/
theorem scans_dotWord {word : List Char} (plain : isPlainWord word = true) {c : Char}
    (ends : endsWord c = true) (rest : List Char) :
    Scans ⟨false, blocks, due⟩ ('.' :: (word ++ c :: rest)) [.op .dot, .ofWord word]
      ⟨false, blocks, due⟩ (c :: rest) := by
  have run : Scans ⟨false, blocks, due⟩ (word ++ c :: rest) [.ofWord word] ⟨false, blocks, due⟩
      (c :: rest) := scans_word plain ends rest
  cases word with
  | nil => simp [isPlainWord] at plain
  | cons first more =>
      obtain ⟨begins, -⟩ := isPlainWord_cons plain
      have digit : first.isDigit = false := by
        rw [Bool.eq_false_iff]
        intro digit
        have other := (plain_of_isDigit digit).2.2.2.1
        simp only [isNameStart, Bool.or_eq_false_iff, beq_eq_false_iff_ne] at other
        rcases begins with letter | line
        · exact Bool.false_ne_true (other.1.1.symm.trans letter)
        · exact other.1.2 line
      have point : first ≠ '.' := by
        rintro rfl
        revert begins
        decide
      exact (scans_dot digit point _).trans run

theorem scans_dotName {word : List Char} (name : isPlainName word = true) {c : Char}
    (ends : endsWord c = true) (rest : List Char) :
    Scans ⟨false, blocks, due⟩ ('.' :: (word ++ c :: rest)) [.op .dot, .name word]
      ⟨false, blocks, due⟩ (c :: rest) := by
  obtain ⟨plain, same⟩ := ofWord_of_isPlainName name
  rw [← same]
  exact scans_dotWord plain ends rest

/-- A package by the words of its name. -/
def packageText : List (List Char) → List Char
  | [] => []
  | word :: words => word ++ words.flatMap ('.' :: ·)

/-- The tokens of a package. -/
def packageTokens : List (List Char) → List Token
  | [] => []
  | word :: words => .name word :: words.flatMap fun word => [.op .dot, .name word]

theorem scans_attributes {words : List (List Char)} (names : ∀ word ∈ words, isPlainName word = true)
    (rest : List Char) :
    Scans ⟨false, blocks, due⟩ (words.flatMap ('.' :: ·) ++ '.' :: rest)
      (words.flatMap fun word => [.op .dot, .name word]) ⟨false, blocks, due⟩ ('.' :: rest) := by
  induction words with
  | nil => exact Scans.refl _ _
  | cons word words ih =>
      obtain ⟨here, others⟩ := List.forall_mem_cons.mp names
      obtain ⟨behind, next⟩ : ∃ behind, words.flatMap ('.' :: ·) ++ '.' :: rest = '.' :: behind := by
        cases words <;> exact ⟨_, rfl⟩
      have onward := ih others
      rw [next] at onward
      have run := (scans_dotName here (by decide : endsWord '.' = true) behind).trans onward
      simpa [next] using run

/-- The name of a package is read up to the point behind it. -/
theorem scans_package {words : List (List Char)} (names : ∀ word ∈ words, isPlainName word = true)
    (rest : List Char) :
    Scans ⟨false, blocks, due⟩ (packageText words ++ '.' :: rest) (packageTokens words)
      ⟨false, blocks, due⟩ ('.' :: rest) := by
  cases words with
  | nil => exact Scans.refl _ _
  | cons word words =>
      obtain ⟨here, others⟩ := List.forall_mem_cons.mp names
      obtain ⟨behind, next⟩ : ∃ behind, words.flatMap ('.' :: ·) ++ '.' :: rest = '.' :: behind := by
        cases words <;> exact ⟨_, rfl⟩
      have onward : Scans ⟨false, blocks, due⟩ _ _ ⟨false, blocks, due⟩ _ := scans_attributes others rest
      rw [next] at onward
      have run := (scans_name here (by decide : endsWord '.' = true) behind).trans onward
      simpa [packageText, packageTokens, next] using run

/-- An import from a place is read up to the point in front of the last word of the place. -/
theorem scans_from {words : List (List Char)} (names : ∀ word ∈ words, isPlainName word = true)
    (rest : List Char) :
    Scans ⟨true, [], []⟩ ("from ".toList ++ (packageText words ++ '.' :: rest))
      (.keyword .from_ :: packageTokens words) ⟨false, [], []⟩ ('.' :: rest) := by
  have keyword : Scans ⟨false, [], []⟩ ("from".toList ++ ' ' :: (packageText words ++ '.' :: rest))
      [.keyword .from_] ⟨false, [], []⟩ (packageText words ++ '.' :: rest) :=
    scans_wordBlank (by decide) (by decide) _
  simpa using (keyword.trans (scans_package names rest)).onMargin ⟨'f', _, rfl, by decide⟩

/-- The tokens of the last word of a place, which may be missing. -/
def memberTokens (word : List Char) : List Token :=
  if word = [] then [.op .dot] else [.op .dot, .name word]

theorem scans_member {word : List Char} (named : word = [] ∨ isPlainName word = true) (rest : List Char) :
    Scans ⟨false, blocks, due⟩ ('.' :: (word ++ ' ' :: rest)) (memberTokens word)
      ⟨false, blocks, due⟩ rest := by
  rcases named with rfl | name
  · exact (scans_dot (by decide) (by decide) rest).trans (scans_blank rest)
  · have run : Scans ⟨false, blocks, due⟩ _ _ ⟨false, blocks, due⟩ _ :=
      (scans_dotName name (by decide : endsWord ' ' = true) rest).trans (scans_blank rest)
    simpa [memberTokens, ne_nil_of_isPlainName name] using run

/-- A new name with the word in front of it, if there is one. -/
def aliasText (word : List Char) : List Char :=
  if word = [] then [] else " as ".toList ++ word

/-- The names that are imported from a place are read up to the end of the line. -/
theorem scans_imported {function word : List Char} (name : isPlainName function = true)
    (named : word = [] ∨ isPlainName word = true) (rest : List Char) :
    Scans ⟨false, [], []⟩ ("import ".toList ++ (function ++ (aliasText word ++ '\n' :: rest)))
      (.keyword .import_ :: .name function :: (aliasTokens word ++ [.newline])) ⟨true, [], []⟩ rest := by
  have keyword : Scans ⟨false, [], []⟩
      ("import".toList ++ ' ' :: (function ++ (aliasText word ++ '\n' :: rest)))
      [.keyword .import_] ⟨false, [], []⟩ (function ++ (aliasText word ++ '\n' :: rest)) :=
    scans_wordBlank (by decide) (by decide) _
  have onward : Scans ⟨false, [], []⟩ (function ++ (aliasText word ++ '\n' :: rest))
      (.name function :: (aliasTokens word ++ [.newline])) ⟨true, [], []⟩ rest := by
    rcases named with rfl | other
    · have run : Scans ⟨false, [], []⟩ _ _ ⟨true, [], []⟩ rest :=
        (scans_name name (by decide) rest).trans (scans_lineEnd rest)
      simpa [aliasText, aliasTokens] using run
    · have as_ : Scans ⟨false, [], []⟩ ("as".toList ++ ' ' :: (word ++ '\n' :: rest))
          [.keyword .as_] ⟨false, [], []⟩ (word ++ '\n' :: rest) :=
        scans_wordBlank (by decide) (by decide) _
      have renamed : Scans ⟨false, [], []⟩ _ _ ⟨true, [], []⟩ rest :=
        as_.trans ((scans_name other (by decide) rest).trans (scans_lineEnd rest))
      have run := (scans_name name (by decide : endsWord ' ' = true) _).trans
        ((scans_blank _).trans renamed)
      simpa [aliasText, aliasTokens, ne_nil_of_isPlainName other] using run
  simpa using keyword.trans onward

/-- The line that imports a function from a member of a package, under another name if that is not
empty. -/
def importText (words : List (List Char)) (member function word : List Char) : List Char :=
  "from ".toList ++ (packageText words ++ '.' :: (member ++ ' ' ::
    ("import ".toList ++ (function ++ (aliasText word ++ ['\n'])))))

/-- An import is read to the end of its line. -/
theorem scans_import {words : List (List Char)} (names : ∀ word ∈ words, isPlainName word = true)
    {member function word : List Char} (place : member = [] ∨ isPlainName member = true)
    (name : isPlainName function = true) (named : word = [] ∨ isPlainName word = true)
    (rest : List Char) :
    Scans ⟨true, [], []⟩ (importText words member function word ++ rest)
      (importTokens (packageTokens words ++ memberTokens member) function word) ⟨true, [], []⟩ rest := by
  have run := ((scans_from names _).trans (scans_member place _)).trans (scans_imported name named rest)
  simpa [importText, importTokens] using run

/-- The assignment of the schema is read up to its value. -/
theorem scans_assignment (rest : List Char) :
    Scans ⟨true, [], []⟩ ("schema: dict = ".toList ++ rest)
      [.name "schema".toList, .op .colon, .name "dict".toList, .op .assign] ⟨false, [], []⟩ rest := by
  have assign : Scans ⟨false, [], []⟩ ('=' :: ' ' :: rest) [.op .assign] ⟨false, [], []⟩ rest :=
    (scans_mark (by decide) (startsNumeral_cons (by decide) _) rfl (Nat.le_refl _) rfl).trans
      (scans_blank rest)
  have type : Scans ⟨false, [], []⟩ ("dict".toList ++ ' ' :: '=' :: ' ' :: rest) [.name "dict".toList]
      ⟨false, [], []⟩ ('=' :: ' ' :: rest) := scans_wordBlank (by decide) (by decide) _
  have name (cs : List Char) : Scans ⟨false, [], []⟩ ("schema".toList ++ ':' :: cs)
      [.name "schema".toList] ⟨false, [], []⟩ (':' :: cs) := scans_name (by decide) (by decide) cs
  have run := (name _).trans ((scans_colon _).trans (type.trans assign))
  simpa using run.onMargin ⟨'s', _, rfl, by decide⟩

/-- The head of a function is read to the end of its line. -/
theorem scans_functionHead {name : List Char} (plain : isPlainName name = true) (rest : List Char) :
    Scans ⟨true, [], []⟩ ("def ".toList ++ (name ++ ("() -> None:\n".toList ++ rest)))
      [.keyword .def_, .name name, .op .openParen, .op .closeParen, .op .arrow, .keyword .none_, .op .colon,
        .newline] ⟨true, [], []⟩ rest := by
  have colon : Scans ⟨false, [], []⟩ (':' :: '\n' :: rest) [.op .colon, .newline] ⟨true, [], []⟩ rest :=
    (scans_mark (by decide) (startsNumeral_cons (by decide) _) rfl (Nat.le_refl _) rfl).trans
      (scans_lineEnd rest)
  have nothing : Scans ⟨false, [], []⟩ ("None".toList ++ ':' :: '\n' :: rest) [.keyword .none_]
      ⟨false, [], []⟩ (':' :: '\n' :: rest) := scans_word (by decide) (by decide) _
  have arrow : Scans ⟨false, [], []⟩ ('-' :: '>' :: ' ' :: ("None".toList ++ ':' :: '\n' :: rest)) [.op .arrow]
      ⟨false, [], []⟩ ("None".toList ++ ':' :: '\n' :: rest) :=
    (scans_mark (by decide) (startsNumeral_cons (by decide) _) rfl (by simp) rfl).trans (scans_blank _)
  have parentheses := (scans_openParen (by decide) _).trans ((scans_closeParen _).trans
    ((scans_blank _).trans (arrow.trans (nothing.trans colon))))
  have keyword (cs : List Char) : Scans ⟨false, [], []⟩ ("def".toList ++ ' ' :: cs) [.keyword .def_]
      ⟨false, [], []⟩ cs := scans_wordBlank (by decide) (by decide) cs
  have run := (keyword _).trans ((scans_name plain (by decide) _).trans parentheses)
  simpa using run.onMargin ⟨'d', _, rfl, by decide⟩

/-- Where a line of a function begins: with the block, or within it. -/
structure BodyLine (blocks : List Columns) (before : List Token) : Prop where
  changed : blocksAt ⟨4, 4⟩ blocks = some (before, [⟨4, 4⟩])
  few : before.length ≤ 4

theorem bodyLine_first : BodyLine [] [.indent] := ⟨by decide, by decide⟩

theorem bodyLine_next : BodyLine [⟨4, 4⟩] [] := ⟨by decide, by decide⟩

/-- A run may begin with a line of a function. -/
theorem Scans.inBody {before : List Token} (line : BodyLine blocks before) {cs rest : List Char}
    {tokens : List Token} {position : Position}
    (run : Scans ⟨false, [⟨4, 4⟩], []⟩ cs tokens position rest)
    (visible : ∃ c behind, cs = c :: behind ∧ isVisible c = true) :
    Scans ⟨true, blocks, []⟩ ("    ".toList ++ cs) (before ++ tokens) position rest := by
  obtain ⟨c, behind, rfl, visible⟩ := visible
  have begins : Scans ⟨true, blocks, []⟩ (List.replicate 4 ' ' ++ c :: behind) before
      ⟨false, [⟨4, 4⟩], []⟩ (c :: behind) := scans_lineBegin 4 visible behind line.changed line.few
  exact begins.trans run

/-- The line that calls a function without arguments. -/
def callText (name : List Char) : List Char :=
  "    ".toList ++ (name ++ "()\n".toList)

/-- A call is read to the end of its line. -/
theorem scans_call {before : List Token} (line : BodyLine blocks before) {name : List Char}
    (named : name = [] ∨ isPlainName name = true) (rest : List Char) :
    Scans ⟨true, blocks, []⟩ (callText name ++ rest) (before ++ callTokens name) ⟨true, [⟨4, 4⟩], []⟩ rest := by
  have call : Scans ⟨false, [⟨4, 4⟩], []⟩ ('(' :: ')' :: '\n' :: rest)
      [.op .openParen, .op .closeParen, .newline] ⟨true, [⟨4, 4⟩], []⟩ rest :=
    (scans_openParen (by decide) _).trans ((scans_closeParen _).trans (scans_lineEnd rest))
  rcases named with rfl | plain
  · simpa [callText, callTokens] using call.inBody line ⟨'(', _, rfl, by decide⟩
  · have nonempty := ne_nil_of_isPlainName plain
    have run := ((scans_name plain (by decide) _).trans call).inBody line (visible_name plain _)
    simpa [callText, callTokens, nonempty] using run

/-- The line that registers the schema under an id. -/
def registrationText (id : String) : List Char :=
  "    ".toList ++ ("register(".toList ++ ((quoted .ascii id).toList ++ ", schema)\n".toList))

/-- The registration of the schema is read to the end of its line. -/
theorem scans_registration {before : List Token} (line : BodyLine blocks before) (id : String)
    (rest : List Char) :
    Scans ⟨true, blocks, []⟩ (registrationText id ++ rest)
      (before ++ registrationTokens "register".toList "schema".toList) ⟨true, [⟨4, 4⟩], []⟩ rest := by
  have closing : Scans ⟨false, [⟨4, 4⟩], [.closeParen]⟩ ("schema".toList ++ ')' :: '\n' :: rest)
      [.name "schema".toList, .op .closeParen, .newline] ⟨true, [⟨4, 4⟩], []⟩ rest :=
    (scans_name (by decide) (by decide) _).trans ((scans_closeParen _).trans (scans_lineEnd rest))
  have arguments := (scans_quoted .ascii id (by decide) _).trans
    ((scans_comma _).trans ((scans_blank _).trans closing))
  have function (cs : List Char) : Scans ⟨false, [⟨4, 4⟩], []⟩ ("register".toList ++ '(' :: cs)
      [.name "register".toList] ⟨false, [⟨4, 4⟩], []⟩ ('(' :: cs) := scans_name (by decide) (by decide) cs
  have run := ((function _).trans ((scans_openParen (by decide) _).trans arguments)).inBody line
    ⟨'r', _, rfl, by decide⟩
  simpa [registrationText, registrationTokens] using run

/-- The calls and the registration of a function are read to their end. -/
theorem scans_body {before : List Token} (line : BodyLine blocks before) {names : List (List Char)}
    (named : ∀ name ∈ names, name = [] ∨ isPlainName name = true) (id : String) (rest : List Char) :
    Scans ⟨true, blocks, []⟩ (names.flatMap callText ++ (registrationText id ++ rest))
      (before ++ (names.map callTokens ++ [registrationTokens "register".toList "schema".toList]).flatten)
      ⟨true, [⟨4, 4⟩], []⟩ rest := by
  induction names generalizing blocks before with
  | nil => simpa using scans_registration line id rest
  | cons name names ih =>
      obtain ⟨here, others⟩ := List.forall_mem_cons.mp named
      have run := (scans_call line here _).trans (ih bodyLine_next others)
      simpa using run

end Registrar.Python
