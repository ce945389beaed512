import Registrar.Proofs.Python.Values
import Registrar.Python.Program

/-!
# Reading values

The tokens of a value are an expression. In front of a token that ends it, the expression is read to that
token, in a number of steps for each of its tokens. What is read of it besides, its form, decides nothing
where a value stands.
-/

namespace Registrar.Python

/-- A part of the grammar is read at some tokens in a number of steps, up to the tokens that are left. -/
def Reads (steps : Nat) (goal : Goal) (tokens rest : List Token) : Prop :=
  ∃ form, reads steps goal tokens = some (form, rest)

theorem Reads.behind {steps : Nat} {goal : Goal} {tokens rest : List Token}
    (read : Reads steps goal tokens rest) : behind (reads steps) goal tokens = some rest := by
  obtain ⟨form, same⟩ := read
  simp [Python.behind, same]

/-- The tokens in front of which an expression ends where a value stands. -/
inductive EndsExpression : List Token → Prop
  | newline rest : EndsExpression (.newline :: rest)
  | comma rest : EndsExpression (.op .comma :: rest)
  | colon rest : EndsExpression (.op .colon :: rest)
  | closeBracket rest : EndsExpression (.op .closeBracket :: rest)
  | closeBrace rest : EndsExpression (.op .closeBrace :: rest)
  | closeParen rest : EndsExpression (.op .closeParen :: rest)

/-- A value is one token or begins with an operator. -/
theorem ValueTokens.begins {tokens : List Token} (value : ValueTokens tokens) :
    (∃ token, isAtom token = true ∧ tokens = [token]) ∨
      ∃ operator more, operator ∈ [Operator.minus, .openBracket, .openBrace] ∧
        tokens = .op operator :: more := by
  cases value with
  | atom known => exact .inl ⟨_, known, rfl⟩
  | negative known => exact .inr ⟨.minus, _, by simp, rfl⟩
  | noItems => exact .inr ⟨.openBracket, _, by simp, rfl⟩
  | items _ _ => exact .inr ⟨.openBracket, _, by simp, rfl⟩
  | noFields => exact .inr ⟨.openBrace, _, by simp, rfl⟩
  | fields _ _ => exact .inr ⟨.openBrace, _, by simp, rfl⟩

variable {steps : Nat} {tokens rest : List Token}

/-- An atom in front of the end of an expression is a primary expression. -/
theorem Reads.primary (read : Reads (steps + 1) .atom tokens rest) (ends : EndsExpression rest) :
    Reads (steps + 2) .primary tokens rest := by
  obtain ⟨form, same⟩ := read
  refine ⟨form, ?_⟩
  simp only [reads_succ, rules, primaryRule] at same ⊢
  simp only [same]
  cases ends <;> rfl

/-- An operand in front of the end of an expression is compared with nothing. -/
theorem Reads.comparison (read : Reads (steps + 1) .operand tokens rest) (ends : EndsExpression rest) :
    Reads (steps + 3) .comparison tokens rest := by
  obtain ⟨form, same⟩ := read
  refine ⟨form, ?_⟩
  simp only [reads_succ, rules, comparisonRule, arithmeticRule] at same ⊢
  simp only [same]
  cases ends <;> rfl

theorem inversionRule_of_ne (read : Goal → Rule) {token : Token} (other : token ≠ .keyword .not_)
    (more : List Token) : inversionRule read (token :: more) = read .comparison (token :: more) := by
  unfold inversionRule
  split <;> simp_all

theorem expressionRule_of_ne (read : Goal → Rule) {token : Token} (other : token ≠ .keyword .lambda_)
    {more behind : List Token} {form : Form} (ends : EndsExpression behind)
    (same : read .disjunction (token :: more) = some (form, behind)) :
    expressionRule read (token :: more) = some (form, behind) := by
  unfold expressionRule
  split
  · simp_all
  · simp only [same]
    cases ends <;> rfl

/-- An operand in front of the end of an expression is an expression. -/
theorem Reads.expression {token : Token} {more : List Token}
    (read : Reads (steps + 1) .operand (token :: more) rest) (ends : EndsExpression rest)
    (noWord : token ≠ .keyword .not_ ∧ token ≠ .keyword .lambda_) :
    Reads (steps + 6) .expression (token :: more) rest := by
  obtain ⟨form, same⟩ := read.comparison ends
  have inversion : reads (steps + 4) .inversion (token :: more) = some (form, rest) := by
    rw [reads_succ, rules, inversionRule_of_ne _ noWord.1, same]
  have disjunction : reads (steps + 5) .disjunction (token :: more) = some (form, rest) := by
    rw [reads_succ, rules]
    simp only [disjunctionRule, inversion]
    cases ends <;> rfl
  refine ⟨form, ?_⟩
  rw [reads_succ, rules, expressionRule_of_ne _ noWord.2 ends disjunction]

/-- A token that is an expression by itself is read as an atom. -/
theorem reads_atom {token : Token} (known : isAtom token = true) (ends : EndsExpression rest) :
    Reads (steps + 1) .atom (token :: rest) rest := by
  cases token with
  | name word => exact ⟨_, rfl⟩
  | number imaginary => exact ⟨_, rfl⟩
  | literal bytes fields =>
      cases fields with
      | cons field more => simp [isAtom] at known
      | nil =>
          refine ⟨.other, ?_⟩
          simp only [reads_succ, rules, atomRule, literalsRule, hasExpressions]
          cases ends <;> simp [literalsRule]
  | keyword word =>
      simp only [isAtom, Bool.decide_or, Bool.or_eq_true, decide_eq_true_eq] at known
      rcases known with rfl | rfl | rfl <;> exact ⟨_, rfl⟩
  | op operator => simp [isAtom] at known
  | newline => simp [isAtom] at known
  | indent => simp [isAtom] at known
  | dedent => simp [isAtom] at known

theorem Reads.operand {token : Token} {more : List Token}
    (read : Reads (steps + 1) .primary (token :: more) rest)
    (noSign : token ∉ [Token.op .plus, .op .minus, .op .tilde, .keyword .await_]) :
    Reads (steps + 2) .operand (token :: more) rest := by
  obtain ⟨form, same⟩ := read
  simp only [List.mem_cons, List.not_mem_nil, or_false, not_or] at noSign
  have rule (read : Goal → Rule) : operandRule read (token :: more) = read .primary (token :: more) := by
    unfold operandRule
    split <;> simp_all
  exact ⟨form, by rw [reads_succ, rules, rule, same]⟩

theorem Reads.negative (read : Reads (steps + 1) .operand tokens rest) :
    Reads (steps + 2) .operand (.op .minus :: tokens) rest := by
  refine ⟨.other, ?_⟩
  rw [reads_succ, rules, operandRule, plainly, read.behind]
  rfl

/-- A token that is an expression by itself is an operand. -/
theorem reads_operand_of_atom {token : Token} (known : isAtom token = true) (ends : EndsExpression rest) :
    Reads (steps + 3) .operand (token :: rest) rest := by
  apply ((reads_atom known ends).primary ends).operand
  rintro sign
  have noAtom : ∀ token ∈ [Token.op .plus, .op .minus, .op .tilde, .keyword .await_],
      isAtom token = false := by decide
  rw [noAtom token sign] at known
  exact Bool.false_ne_true known

/-- What stands in brackets is an expression, if the rule for the brackets reads it. -/
theorem Reads.brackets {opening : Operator} {goal : Goal} (read : Reads (steps + 1) goal tokens rest)
    (rule : (read : Goal → Rule) → atomRule read (.op opening :: tokens) = read goal tokens)
    (noSign : opening ∉ [Operator.plus, .minus, .tilde]) (ends : EndsExpression rest) :
    Reads (steps + 9) .expression (.op opening :: tokens) rest := by
  obtain ⟨form, same⟩ := read
  have atom : Reads (steps + 2) .atom (.op opening :: tokens) rest :=
    ⟨form, by rw [reads_succ, rules, rule, same]⟩
  exact ((atom.primary ends).operand (by simpa using noSign)).expression ends (by simp)

/-- A value has no star in front. -/
theorem starOr_of_value (read : Goal → Rule) (goal : Goal) {item : List Token} (value : ValueTokens item)
    (behind : List Token) : starOr read goal (item ++ behind) = read goal (item ++ behind) := by
  rcases value.begins with ⟨token, known, rfl⟩ | ⟨operator, more, opening, rfl⟩
  · unfold starOr
    split
    · simp_all [isAtom]
    · rfl
  · simp only [List.mem_cons, List.not_mem_nil, or_false] at opening
    rcases opening with rfl | rfl | rfl <;> rfl

/-- A value in front of the end of an expression is given no name. -/
theorem namedRule_of_value (read : Goal → Rule) {item : List Token} (value : ValueTokens item)
    (ends : EndsExpression rest) : namedRule read (item ++ rest) = read .expression (item ++ rest) := by
  have noWalrus (behind : List Token) : rest ≠ .op .walrus :: behind := by
    rintro rfl
    cases ends
  rcases value.begins with ⟨token, known, rfl⟩ | ⟨operator, more, opening, rfl⟩
  · unfold namedRule
    split <;> simp_all
  · simp only [List.mem_cons, List.not_mem_nil, or_false] at opening
    rcases opening with rfl | rfl | rfl <;> rfl

theorem Reads.item {item : List Token} (value : ValueTokens item)
    (read : Reads steps .expression (item ++ rest) rest) (ends : EndsExpression rest) :
    Reads (steps + 2) .starNamed (item ++ rest) rest := by
  obtain ⟨form, same⟩ := read
  refine ⟨form, ?_⟩
  rw [reads_succ, rules, starOr_of_value _ _ value, reads_succ, rules, namedRule_of_value _ value ends, same]

theorem startsItem_of_value {item : List Token} (value : ValueTokens item) (behind : List Token) :
    startsItem (item ++ behind) = true := by
  rcases value.begins with ⟨token, known, rfl⟩ | ⟨operator, more, opening, rfl⟩
  · cases token with
    | keyword word =>
        simp only [isAtom, Bool.decide_or, Bool.or_eq_true, decide_eq_true_eq] at known
        rcases known with rfl | rfl | rfl <;> rfl
    | op operator => simp [isAtom] at known
    | newline => simp [isAtom] at known
    | indent => simp [isAtom] at known
    | dedent => simp [isAtom] at known
    | _ => rfl
  · simp only [List.mem_cons, List.not_mem_nil, or_false] at opening
    rcases opening with rfl | rfl | rfl <;> rfl

/-- Behind an item there is a comma or the closing bracket. -/
theorem endsExpression_items (more : List (List Token)) {closing : Operator}
    (closes : closing ∈ [Operator.closeBracket, .closeBrace]) (rest : List Token) :
    EndsExpression (behindCommas more ++ .op closing :: rest) := by
  cases more with
  | nil =>
      simp only [List.mem_cons, List.not_mem_nil, or_false] at closes
      rcases closes with rfl | rfl
      · exact .closeBracket rest
      · exact .closeBrace rest
  | cons item more =>
      rw [behindCommas_cons]
      exact .comma _

/-- Steps for each token are enough for the value that they are. -/
def IsReadable (tokens : List Token) : Prop :=
  ∀ steps rest, 12 * tokens.length ≤ steps → EndsExpression rest →
    Reads steps .expression (tokens ++ rest) rest

/-- Items with commas between them are read up to the closing bracket. -/
theorem reads_moreNamed {first : List Token} {more : List (List Token)}
    (items : ∀ item ∈ first :: more, ValueTokens item ∧ IsReadable item) (rest : List Token)
    (enough : 12 * (first ++ behindCommas more).length + 3 ≤ steps) :
    Reads steps .moreNamed (first ++ (behindCommas more ++ .op .closeBracket :: rest))
      (.op .closeBracket :: rest) := by
  induction more generalizing first steps with
  | nil =>
      obtain ⟨value, readable⟩ := items first List.mem_cons_self
      have ends : EndsExpression (.op .closeBracket :: rest) := .closeBracket rest
      obtain ⟨steps, rfl⟩ : ∃ before, steps = before + 3 := ⟨steps - 3, by omega⟩
      obtain ⟨form, same⟩ := (readable steps _ (by simp at enough; omega) ends).item value ends
      refine ⟨.tuple [form], ?_⟩
      rw [reads_succ, rules, itemsRule, behindCommas_nil, List.nil_append, startsItem_of_value value]
      simp [same]
  | cons second more ih =>
      obtain ⟨value, readable⟩ := items first List.mem_cons_self
      have ends := endsExpression_items (second :: more) (by simp : Operator.closeBracket ∈ _) rest
      rw [behindCommas_cons, List.length_append, List.length_cons] at enough
      obtain ⟨steps, rfl⟩ : ∃ before, steps = before + 3 := ⟨steps - 3, by omega⟩
      obtain ⟨form, same⟩ := (readable steps _ (by omega) ends).item value ends
      obtain ⟨others, last⟩ : Reads (steps + 2) .moreNamed _ _ :=
        ih (fun item member => items item (List.mem_cons_of_mem _ member)) (by omega)
      refine ⟨.tuple (form :: others.items), ?_⟩
      rw [reads_succ, rules, itemsRule, startsItem_of_value value, same]
      simp [behindCommas_cons, last]

/-- A list is read behind its opening bracket. -/
theorem reads_bracketed {first : List Token} {more : List (List Token)}
    (items : ∀ item ∈ first :: more, ValueTokens item ∧ IsReadable item) (rest : List Token)
    (enough : 12 * (first ++ behindCommas more).length + 4 ≤ steps) :
    Reads steps .bracketed (first ++ (behindCommas more ++ .op .closeBracket :: rest)) rest := by
  obtain ⟨value, readable⟩ := items first List.mem_cons_self
  have ends := endsExpression_items more (by simp : Operator.closeBracket ∈ _) rest
  obtain ⟨steps, rfl⟩ : ∃ before, steps = before + 3 := ⟨steps - 3, by omega⟩
  obtain ⟨form, same⟩ := (readable steps _ (by simp at enough; omega) ends).item value ends
  rw [Reads, reads_succ, rules]
  unfold bracketedRule
  split
  · rename_i begins
    rcases value.begins with ⟨token, known, rfl⟩ | ⟨operator, behind, opening, rfl⟩
    · simp_all [isAtom]
    · simp_all
  · simp only [same]
    cases more with
    | nil => exact ⟨.list [form], by simp [startsClause, skip?]⟩
    | cons second more =>
        rw [behindCommas_cons, List.length_append, List.length_cons] at enough
        obtain ⟨others, last⟩ : Reads (steps + 2) .moreNamed _ _ :=
          reads_moreNamed (fun item member => items item (List.mem_cons_of_mem _ member)) rest (by omega)
        exact ⟨.list (form :: others.items), by simp [behindCommas_cons, last, skip?]⟩

/-- A key is read up to its colon. -/
theorem behind_key (enough : 8 ≤ steps) (rest : List Token) :
    behind (reads steps) .expression (.literal false [] :: .op .colon :: rest) =
      some (.op .colon :: rest) := by
  obtain ⟨steps, rfl⟩ : ∃ before, steps = before + 8 := ⟨steps - 8, by omega⟩
  have ends : EndsExpression (.op .colon :: rest) := .colon rest
  exact ((reads_operand_of_atom rfl ends).expression ends (by simp)).behind

theorem keyed_append (value behind : List Token) :
    keyed value ++ behind = .literal false [] :: .op .colon :: (value ++ behind) := rfl

/-- The fields behind a first one are read up to the closing brace. -/
theorem exists_entriesAfter {more : List (List Token)} (values : ∀ value ∈ more, IsReadable value)
    (rest : List Token) (enough : 12 * (behindCommas (more.map keyed)).length ≤ steps) :
    ∃ form, entriesAfter (reads steps) (behindCommas (more.map keyed) ++ .op .closeBrace :: rest) =
      some (form, rest) := by
  induction more generalizing steps with
  | nil => exact ⟨.other, rfl⟩
  | cons value more ih =>
      obtain ⟨readable, others⟩ := List.forall_mem_cons.mp values
      simp only [List.map_cons, behindCommas_cons, List.length_cons, List.length_append, keyed] at enough
      obtain ⟨steps, rfl⟩ : ∃ before, steps = before + 1 := ⟨steps - 1, by omega⟩
      obtain ⟨form, onward⟩ := ih others (by omega : _ ≤ steps)
      have ends := endsExpression_items (more.map keyed) (by simp : Operator.closeBrace ∈ _) rest
      have read := (readable steps _ (by omega) ends).behind
      have key := behind_key (by omega : 8 ≤ steps)
        (value ++ (behindCommas (more.map keyed) ++ .op .closeBrace :: rest))
      have entries : reads (steps + 1) .entries
          (keyed value ++ (behindCommas (more.map keyed) ++ .op .closeBrace :: rest)) =
            some (form, rest) := by
        simp [reads_succ, rules, keyed_append, entriesRule, key, skip?, read, onward]
      refine ⟨form, ?_⟩
      rw [List.map_cons, behindCommas_cons, List.cons_append, List.append_assoc]
      exact entries

/-- A mapping is read behind its opening brace. -/
theorem reads_braced {first : List Token} {more : List (List Token)}
    (values : ∀ value ∈ first :: more, IsReadable value) (rest : List Token)
    (enough : 12 * (keyed first ++ behindCommas (more.map keyed)).length ≤ steps) :
    Reads steps .braced (keyed first ++ (behindCommas (more.map keyed) ++ .op .closeBrace :: rest))
      rest := by
  obtain ⟨readable, others⟩ := List.forall_mem_cons.mp values
  simp only [List.length_cons, List.length_append, keyed] at enough
  obtain ⟨steps, rfl⟩ : ∃ before, steps = before + 1 := ⟨steps - 1, by omega⟩
  have ends := endsExpression_items (more.map keyed) (by simp : Operator.closeBrace ∈ _) rest
  have read := (readable steps _ (by omega) ends).behind
  have key := behind_key (by omega : 8 ≤ steps)
    (first ++ (behindCommas (more.map keyed) ++ .op .closeBrace :: rest))
  obtain ⟨form, onward⟩ := exists_entriesAfter others rest (by omega : _ ≤ steps)
  have single : startsClause (behindCommas (more.map keyed) ++ .op .closeBrace :: rest) = false := by
    cases more <;> rfl
  refine ⟨form, ?_⟩
  simp [reads_succ, rules, keyed_append, bracedRule, key, read, single, onward]

/-- The tokens of a value are an expression. -/
theorem isReadable_of_valueTokens {tokens : List Token} (value : ValueTokens tokens) :
    IsReadable tokens := by
  induction value with
  | @atom token known =>
      intro steps rest enough ends
      obtain ⟨steps, rfl⟩ : ∃ before, steps = before + 8 := ⟨steps - 8, by simp at enough; omega⟩
      apply (reads_operand_of_atom known ends).expression ends
      constructor <;> rintro rfl <;> revert known <;> decide
  | @negative token known =>
      intro steps rest enough ends
      obtain ⟨steps, rfl⟩ : ∃ before, steps = before + 9 := ⟨steps - 9, by simp at enough; omega⟩
      exact (reads_operand_of_atom known ends).negative.expression ends (by simp)
  | noItems =>
      intro steps rest enough ends
      obtain ⟨steps, rfl⟩ : ∃ before, steps = before + 9 := ⟨steps - 9, by simp at enough; omega⟩
      have inside : Reads (steps + 1) .bracketed (.op .closeBracket :: rest) rest := ⟨.list [], rfl⟩
      exact inside.brackets (fun _ => rfl) (by decide) ends
  | @items first more one others ih ihs =>
      intro steps rest enough ends
      simp only [List.length_cons, List.length_append, List.length_nil] at enough
      obtain ⟨steps, rfl⟩ : ∃ before, steps = before + 9 := ⟨steps - 9, by omega⟩
      have inside : Reads (steps + 1) .bracketed _ rest :=
        reads_bracketed (List.forall_mem_cons.mpr ⟨⟨one, ih⟩, fun item member =>
          ⟨others item member, ihs item member⟩⟩) rest (by rw [List.length_append]; omega)
      simpa using inside.brackets (fun _ => rfl) (by decide) ends
  | noFields =>
      intro steps rest enough ends
      obtain ⟨steps, rfl⟩ : ∃ before, steps = before + 9 := ⟨steps - 9, by simp at enough; omega⟩
      have inside : Reads (steps + 1) .braced (.op .closeBrace :: rest) rest := ⟨.other, rfl⟩
      exact inside.brackets (fun _ => rfl) (by decide) ends
  | @fields first more one others ih ihs =>
      intro steps rest enough ends
      simp only [List.length_cons, List.length_append, List.length_nil] at enough
      obtain ⟨steps, rfl⟩ : ∃ before, steps = before + 9 := ⟨steps - 9, by omega⟩
      have inside : Reads (steps + 1) .braced _ rest :=
        reads_braced (List.forall_mem_cons.mpr ⟨ih, ihs⟩) rest (by rw [List.length_append]; omega)
      simpa using inside.brackets (fun _ => rfl) (by decide) ends

end Registrar.Python
