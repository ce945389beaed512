/-!
# Names made from schema ids

A schema id is a dotted text such as `io.k8s.api.core.v1.Pod`. Its class name joins the words of
the id, the runs of ASCII letters and digits, each with its first letter in upper case. Class
names serve as module names and as import aliases, and they make the paths of generated files.
-/

namespace Registrar

/-- The characters that make up words: ASCII digits and letters. -/
def isWordChar (c : Char) : Bool :=
  (48 ≤ c.toNat && c.toNat ≤ 57) || (65 ≤ c.toNat && c.toNat ≤ 90) ||
    (97 ≤ c.toNat && c.toNat ≤ 122)

/-- An ASCII letter in upper case, and any other character as it is. -/
def capital (c : Char) : Char :=
  if 97 ≤ c.toNat ∧ c.toNat ≤ 122 then Char.ofNat (c.toNat - 32) else c

/-- Join the words of a text. The flag says whether the next character of a word is its first
one, which is written in upper case. -/
def joinWords : Bool → List Char → List Char
  | _, [] => []
  | first, c :: rest =>
      if isWordChar c then (if first then capital c else c) :: joinWords false rest
      else joinWords true rest

/-- What follows the last dot of a text, or all of it. -/
def lastSegment (cs : List Char) : List Char :=
  (cs.reverse.takeWhile (· ≠ '.')).reverse

/-- The class name of a schema id: of the whole id when names are qualified, else of its last
segment. -/
def className (qualified : Bool) (id : String) : String :=
  String.ofList (joinWords true (if qualified then id.toList else lastSegment id.toList))

/-- The path of the file generated for a schema id. -/
def schemaPath (qualified : Bool) (extension id : String) : String :=
  "_schemas/" ++ className qualified id ++ extension

/-- The rest of a text behind a given beginning. -/
def afterStart? : List Char → List Char → Option (List Char)
  | [], rest => some rest
  | _ :: _, [] => none
  | s :: start, c :: rest => if s = c then afterStart? start rest else none

/-- The beginnings of references that point into the definitions of a document. -/
def referencePrefixes : List String :=
  ["#/definitions/", "#/components/schemas/"]

/-- The schema id that a reference points at: the text behind the first of the known beginnings
that it has, or all of it. -/
def trimReference (reference : String) : String :=
  match referencePrefixes.findSome? fun start => afterStart? start.toList reference.toList with
  | some rest => String.ofList rest
  | none => reference

/-- A text without a given ending. -/
def trimEnding (ending text : String) : String :=
  if ending.toList.isSuffixOf text.toList then
    String.ofList (text.toList.take (text.toList.length - ending.toList.length))
  else text

/-- Whether a schema id belongs to the apimachinery schemas. -/
def isApimachineryId (id : String) : Bool :=
  "io.k8s.apimachinery.".toList.isPrefixOf id.toList

/-- Whether a schema id belongs to the Kubernetes schemas, the apimachinery ones included. -/
def isKubernetesId (id : String) : Bool :=
  "io.k8s.".toList.isPrefixOf id.toList

theorem afterStart?_eq_some_iff {start text rest : List Char} :
    afterStart? start text = some rest ↔ text = start ++ rest := by
  induction start generalizing text with
  | nil => simp [afterStart?]
  | cons s start ih =>
      cases text with
      | nil => simp [afterStart?]
      | cons c text =>
          by_cases h : s = c
          · simp [afterStart?, h, ih]
          · simp [afterStart?, h, Ne.symm h]

theorem toNat_ofNat_of_ascii {n : Nat} (h : n < 0x80) : (Char.ofNat n).toNat = n := by
  have valid : n.isValidChar := Or.inl (by omega)
  rw [Char.ofNat, dif_pos valid]
  rfl

theorem isWordChar_capital {c : Char} (h : isWordChar c = true) :
    isWordChar (capital c) = true := by
  unfold capital
  split
  · rename_i lower
    have value : (Char.ofNat (c.toNat - 32)).toNat = c.toNat - 32 :=
      toNat_ofNat_of_ascii (by omega)
    simp only [isWordChar, value, Bool.or_eq_true, Bool.and_eq_true, decide_eq_true_eq]
    omega
  · exact h

theorem joinWords_cons_of_not_wordChar {c : Char} (h : isWordChar c = false) (first : Bool)
    (rest : List Char) : joinWords first (c :: rest) = joinWords true rest := by
  simp [joinWords, h]

/-- Every character of a joined text is an ASCII letter or digit. -/
theorem isWordChar_of_mem_joinWords {first : Bool} {cs : List Char} {c : Char}
    (h : c ∈ joinWords first cs) : isWordChar c = true := by
  induction cs generalizing first with
  | nil => simp [joinWords] at h
  | cons head rest ih =>
      by_cases hw : isWordChar head = true
      · simp only [joinWords, hw, if_true, List.mem_cons] at h
        rcases h with rfl | h
        · cases first
          · simpa using hw
          · simpa using isWordChar_capital hw
        · exact ih h
      · rw [joinWords_cons_of_not_wordChar (by simpa using hw)] at h
        exact ih h

/-- A class name is made of ASCII letters and digits. -/
theorem isWordChar_of_mem_className {qualified : Bool} {id : String} {c : Char}
    (h : c ∈ (className qualified id).toList) : isWordChar c = true := by
  rw [className, String.toList_ofList] at h
  exact isWordChar_of_mem_joinWords h

end Registrar
