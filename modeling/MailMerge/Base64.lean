/-!
Base64 with the standard alphabet. Reading is strict: padding must be there, and the unused bits of
the last symbol must be zero, so each sequence of bytes has one encoded form.
-/

namespace MailMerge.Base64

/-- Why bytes are no base64 text; offsets count bytes. -/
inductive Fault where
  | symbol (byte : UInt8) (offset : Nat)
  | lastSymbol (byte : UInt8) (offset : Nat)
  | length (count : Nat)
  | padding
  deriving DecidableEq

/-- The fault in words. -/
def Fault.message : Fault → String
  | symbol byte offset => s!"Invalid symbol {byte}, offset {offset}."
  | lastSymbol byte offset => s!"Invalid last symbol {byte}, offset {offset}."
  | length count => s!"Invalid input length: {count}"
  | padding => "Invalid padding"

/-- The padding symbol. -/
def pad : UInt8 := 61

/-- The symbol for a value below 64. -/
def symbol (v : Nat) : UInt8 :=
  if v < 26 then UInt8.ofNat (65 + v)
  else if v < 52 then UInt8.ofNat (97 + (v - 26))
  else if v < 62 then UInt8.ofNat (48 + (v - 52))
  else if v = 62 then 43
  else 47

/-- The value of a symbol. -/
def value? (b : UInt8) : Option Nat :=
  let n := b.toNat
  if 65 ≤ n ∧ n ≤ 90 then some (n - 65)
  else if 97 ≤ n ∧ n ≤ 122 then some (n - 97 + 26)
  else if 48 ≤ n ∧ n ≤ 57 then some (n - 48 + 52)
  else if n = 43 then some 62
  else if n = 47 then some 63
  else none

/-- Three bytes become four symbols; one or two bytes at the end are padded. -/
def encode : List UInt8 → List UInt8
  | [] => []
  | [a] =>
    let n := a.toNat * 65536
    [symbol (n / 262144), symbol (n / 4096 % 64), pad, pad]
  | [a, b] =>
    let n := a.toNat * 65536 + b.toNat * 256
    [symbol (n / 262144), symbol (n / 4096 % 64), symbol (n / 64 % 64), pad]
  | a :: b :: c :: rest =>
    let n := a.toNat * 65536 + b.toNat * 256 + c.toNat
    symbol (n / 262144) :: symbol (n / 4096 % 64) :: symbol (n / 64 % 64) ::
      symbol (n % 64) :: encode rest

/-- The encoded form as text. -/
def encodeText (bytes : List UInt8) : String :=
  String.ofList ((encode bytes).map fun b => Char.ofNat b.toNat)

/-- The value of the symbol at an offset. -/
def sextet (offset : Nat) (b : UInt8) : Except Fault Nat :=
  match value? b with
  | some v => .ok v
  | none => .error (.symbol b offset)

/-- The three bytes of four values. -/
def triple (a b c d : Nat) : List UInt8 :=
  let n := a * 262144 + b * 4096 + c * 64 + d
  [UInt8.ofNat (n / 65536), UInt8.ofNat (n / 256), UInt8.ofNat n]

/-- The symbols of the last group that starts at `offset`, read up to its end: their values, the
number of padding symbols behind them, and the last symbol. -/
structure Group where
  values : List Nat
  pads : Nat
  last : UInt8

/-- Reads the rest of the last group. Padding may stand in its third and fourth place only, and
nothing but padding may follow it. -/
def readGroup (offset : Nat) (group : Group) : List UInt8 → Except Fault Group
  | [] => .ok group
  | b :: rest =>
    let place := group.values.length + group.pads
    if b = pad then
      if place < 2 then .error (.symbol pad (offset + place))
      else readGroup offset { group with pads := group.pads + 1 } rest
    else if 0 < group.pads then .error (.symbol pad (offset + group.values.length))
    else
      match sextet (offset + place) b with
      | .error fault => .error fault
      | .ok v => readGroup offset { group with values := group.values ++ [v], last := b } rest

/-- The bytes of the last group. -/
def decodeLast (offset : Nat) (symbols : List UInt8) : Except Fault (List UInt8) :=
  match readGroup offset ⟨[], 0, 0⟩ symbols with
  | .error fault => .error fault
  | .ok group =>
    let count := group.values.length
    if !symbols.isEmpty && decide (count < 2) then .error (.length (offset + count))
    else if (count + group.pads) % 4 ≠ 0 then .error .padding
    else
      match group.values with
      | [a, b] =>
        if b % 16 ≠ 0 then .error (.lastSymbol group.last (offset + 1))
        else .ok ((triple a b 0 0).take 1)
      | [a, b, c] =>
        if c % 4 ≠ 0 then .error (.lastSymbol group.last (offset + 2))
        else .ok ((triple a b c 0).take 2)
      | [a, b, c, d] => .ok (triple a b c d)
      | _ => .ok []

/-- The bytes of the groups from `offset` on. Only the last group may hold padding. -/
def decodeFrom (offset : Nat) : List UInt8 → Except Fault (List UInt8)
  | a :: b :: c :: d :: next :: rest => do
    let a ← sextet offset a
    let b ← sextet (offset + 1) b
    let c ← sextet (offset + 2) c
    let d ← sextet (offset + 3) d
    let bytes ← decodeFrom (offset + 4) (next :: rest)
    return triple a b c d ++ bytes
  | symbols => decodeLast offset symbols

/-- The bytes that an encoded text stands for. A lone symbol at the end that is none of the
alphabet is found before anything else. -/
def decode (symbols : List UInt8) : Except Fault (List UInt8) :=
  match symbols.getLast? with
  | none => .ok []
  | some last =>
    if symbols.length % 4 = 1 ∧ last ≠ pad ∧ (value? last).isNone then
      .error (.symbol last (symbols.length - 1))
    else decodeFrom 0 symbols

/-- The bytes that a text stands for. -/
def decodeText (s : String) : Except Fault (List UInt8) := decode s.toUTF8.toList

end MailMerge.Base64
