import MailMerge.Deflate.Bits
/-!
Canonical prefix codes. A code is given by the length of each symbol's code word; words of one
length are consecutive numbers in the order of their symbols, and shorter words come first.
-/

namespace MailMerge.Deflate

/-- The longest code word has so many bits. -/
def maxLength : Nat := 15

/-- A prefix code: the number of words of each length from 1 on, and the symbols in the order of
their words. -/
structure Code where
  counts : List Nat
  symbols : Array Nat

namespace Code

/-- The symbols whose words have a length, in order. -/
def symbolsOfLength (lengths : List Nat) (length : Nat) : List Nat :=
  (lengths.zipIdx.filter fun entry => entry.1 == length).map Prod.snd

/-- The code with the given lengths; the length 0 stands for a symbol without a word. -/
def ofLengths (lengths : List Nat) : Code :=
  let groups := (List.range maxLength).map fun i => symbolsOfLength lengths (i + 1)
  ⟨groups.map List.length, groups.flatten.toArray⟩

/-- The share of all words of the greatest length that the code takes, in `2 ^ maxLength`ths. -/
def share : (shift : Nat) → List Nat → Nat
  | _, [] => 0
  | shift, count :: counts => count * Nat.pow 2 shift + share (shift - 1) counts

/-- Whether every sequence of bits starts with a word. -/
def isComplete (code : Code) : Bool := share (maxLength - 1) code.counts == Nat.pow 2 maxLength

/-- Whether a code can be used: it is complete, or has no word, or a single one of one bit. -/
def isUsable (code : Code) : Bool :=
  code.isComplete || code.symbols.isEmpty || (code.symbols.size == 1 && code.counts.head? == some 1)

/-- Reads a word bit by bit. `first` is the first word of the current length and `index` the place
of its symbol; `word` is what has been read, doubled. -/
def readWord? (symbols : Array Nat) :
    (counts : List Nat) → (word first index : Nat) → List Bool → Option (Nat × List Bool)
  | [], _, _, _, _ => none
  | _ :: _, _, _, _, [] => none
  | count :: counts, word, first, index, bit :: bits =>
    let word := word + bit.toNat
    if word < first + count then
      (symbols[index + (word - first)]?).map fun symbol => (symbol, bits)
    else readWord? symbols counts (2 * word) (2 * (first + count)) (index + count) bits

theorem readWord?_length {symbols : Array Nat} {counts : List Nat} {word first index symbol : Nat}
    {bits rest : List Bool}
    (h : readWord? symbols counts word first index bits = some (symbol, rest)) :
    rest.length < bits.length := by
  induction counts generalizing word first index bits with
  | nil => simp [readWord?] at h
  | cons count counts ih =>
    cases bits with
    | nil => simp [readWord?] at h
    | cons bit bits =>
      simp only [readWord?] at h
      split at h
      · obtain ⟨_, _, same⟩ := Option.map_eq_some_iff.1 h
        simp only [Prod.mk.injEq] at same
        simp [same.2]
      · exact Nat.lt_succ_of_lt (ih h)

/-- Reads the symbol whose word stands in front of the bits. -/
def read? (code : Code) (bits : List Bool) : Option (Nat × List Bool) :=
  readWord? code.symbols code.counts 0 0 0 bits

theorem read?_length {code : Code} {symbol : Nat} {bits rest : List Bool}
    (h : code.read? bits = some (symbol, rest)) : rest.length < bits.length :=
  readWord?_length h

end Code

/-- The code of literals and lengths where a block brings none. -/
def fixedLiterals : Code :=
  .ofLengths (List.replicate 144 8 ++ List.replicate 112 9 ++ List.replicate 24 7 ++
    List.replicate 8 8)

/-- The code of distances where a block brings none. -/
def fixedDistances : Code := .ofLengths (List.replicate 32 5)

end MailMerge.Deflate
