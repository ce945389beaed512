import Registrar.Text.CharNameTable
import Registrar.Text.CharRanges

/-!
# Names of characters

A character of Unicode 14.0 is named by a listed name or alias, by its code point if it is a unified
ideograph, or by the sounds of a Hangul syllable. Listed names may be written in small letters, the
other two kinds of names may not.
-/

namespace Registrar

/-- The words of a name, each as its characters. -/
abbrev NameWords := List (List Char)

/-- Put a character in front of the first word. -/
def consChar (c : Char) : NameWords → NameWords
  | [] => [[c]]
  | word :: words => (c :: word) :: words

/-- The words between the blanks of a text. -/
def nameWords : List Char → NameWords
  | [] => [[]]
  | c :: rest => if c = ' ' then [] :: nameWords rest else consChar c (nameWords rest)

/-- An entry of a table of names: how many words are shared with the name before, and the others. -/
structure NameEntry where
  shared : Nat
  words : NameWords
  deriving DecidableEq, Repr

/-- Read a table from its end: the words of the entry that is not complete yet, and the entries
behind it. -/
def readEntry (c : Char) : NameWords × List NameEntry → NameWords × List NameEntry
  | (words, entries) =>
      if c.isLower then ([[]], ⟨c.toNat - 'a'.toNat, words⟩ :: entries)
      else if c = ' ' then ([] :: words, entries)
      else if c = '\n' then (words, entries)
      else (consChar c words, entries)

/-- The entries of a table. -/
def nameEntries (table : List Char) : List NameEntry :=
  (table.foldr readEntry ([[]], [])).2

/-- Whether a name is given by entries, the first of which may share words with the name before. -/
def isGivenFrom (name before : NameWords) : List NameEntry → Bool
  | [] => false
  | entry :: rest =>
      let this := before.take entry.shared ++ entry.words
      this == name || isGivenFrom name this rest

/-- Whether a name is listed. -/
def isListedName (name : List Char) : Bool :=
  isGivenFrom (nameWords (name.map Char.toUpper)) [] (nameEntries charNameTable.toList)

/-- The code points of the unified ideographs. -/
def unifiedIdeographs : CharRanges :=
  [(0x3400, 0x4DBF), (0x4E00, 0x9FFF), (0x20000, 0x2A6DF), (0x2A700, 0x2B738),
    (0x2B740, 0x2B81D), (0x2B820, 0x2CEA1), (0x2CEB0, 0x2EBE0), (0x30000, 0x3134A)]

/-- The value of a digit of base sixteen that is written as names write it. -/
def capitalHexValue? (c : Char) : Option Nat :=
  if '0' ≤ c ∧ c ≤ '9' then some (c.toNat - '0'.toNat)
  else if 'A' ≤ c ∧ c ≤ 'F' then some (c.toNat - 'A'.toNat + 10)
  else none

/-- The number that digits of base sixteen write behind a number. -/
def capitalHexFrom? (n : Nat) : List Char → Option Nat
  | [] => some n
  | c :: rest => do capitalHexFrom? (16 * n + (← capitalHexValue? c)) rest

/-- Whether a name is made of the code point of a unified ideograph, in four or five digits. -/
def isIdeographName (name : List Char) : Bool :=
  let start := "CJK UNIFIED IDEOGRAPH-".toList
  let digits := name.drop start.length
  start.isPrefixOf name && (digits.length == 4 || digits.length == 5) &&
    match capitalHexFrom? 0 digits with
    | some n => unifiedIdeographs.any fun range => range.1 ≤ n && n ≤ range.2
    | none => false

/-- The sounds that begin a Hangul syllable. -/
def syllableLeads : List String :=
  ["G", "GG", "N", "D", "DD", "R", "M", "B", "BB", "S", "SS", "", "J", "JJ", "C", "K", "T", "P",
    "H"]

/-- The vowels of a Hangul syllable. -/
def syllableVowels : List String :=
  ["A", "AE", "YA", "YAE", "EO", "E", "YEO", "YE", "O", "WA", "WAE", "OE", "YO", "U", "WEO", "WE",
    "WI", "YU", "EU", "YI", "I"]

/-- The sounds that end a Hangul syllable. -/
def syllableTails : List String :=
  ["", "G", "GG", "GS", "N", "NJ", "NH", "D", "L", "LG", "LM", "LB", "LS", "LT", "LP", "LH", "M",
    "B", "BS", "S", "SS", "NG", "J", "C", "K", "T", "P", "H"]

/-- What is left of a text behind one of some beginnings, for each that it has. -/
def behindEach (starts : List String) (cs : List Char) : List (List Char) :=
  (starts.filter fun start => start.toList.isPrefixOf cs).map fun start =>
    cs.drop start.toList.length

/-- Whether a name is made of the sounds of a Hangul syllable. -/
def isSyllableName (name : List Char) : Bool :=
  (((behindEach ["HANGUL SYLLABLE "] name).flatMap (behindEach syllableLeads)).flatMap
    (behindEach syllableVowels)).any fun tail => syllableTails.any fun sound => sound.toList = tail

/-- Whether a text names a character. -/
def isCharName (name : List Char) : Bool :=
  isIdeographName name || isSyllableName name || isListedName name

end Registrar
