/-!
Bits of bytes, the lowest first, and the numbers and bytes read from them. Every reader gives the
bits behind what it read.
-/

namespace MailMerge.Deflate

/-- The bits of a byte, the lowest first. -/
def bitsOfByte (b : UInt8) : List Bool := (List.range 8).map fun i => b.toNat.testBit i

/-- The bits of some bytes. -/
def bitsOfBytes (bytes : List UInt8) : List Bool := bytes.flatMap bitsOfByte

/-- Reads a number of `n` bits, the lowest first. -/
def number? : (n : Nat) → List Bool → Option (Nat × List Bool)
  | 0, bits => some (0, bits)
  | _ + 1, [] => none
  | n + 1, b :: bits => (number? n bits).map fun found => (b.toNat + 2 * found.1, found.2)

theorem number?_length {n v : Nat} {bits rest : List Bool} (h : number? n bits = some (v, rest)) :
    rest.length + n = bits.length := by
  induction n generalizing bits v with
  | zero =>
    simp only [number?, Option.some.injEq, Prod.mk.injEq] at h
    simp [h.2]
  | succ n ih =>
    cases bits with
    | nil => simp [number?] at h
    | cons b bits =>
      obtain ⟨⟨w, r⟩, found, same⟩ := Option.map_eq_some_iff.1 h
      simp only [Prod.mk.injEq] at same
      have := ih (same.2 ▸ found)
      simp only [List.length_cons]
      omega

/-- Drops the bits up to the next whole byte, where the bits end with a whole byte. -/
def toByte (bits : List Bool) : List Bool := bits.drop (bits.length % 8)

/-- Appends `n` bytes that are read from the bits. -/
def bytes? : (n : Nat) → Array UInt8 → List Bool → Option (Array UInt8 × List Bool)
  | 0, out, bits => some (out, bits)
  | n + 1, out, bits =>
    (number? 8 bits).bind fun found => bytes? n (out.push (UInt8.ofNat found.1)) found.2

theorem bytes?_length {n : Nat} {out result : Array UInt8} {bits rest : List Bool}
    (h : bytes? n out bits = some (result, rest)) : rest.length ≤ bits.length := by
  induction n generalizing out bits with
  | zero =>
    simp only [bytes?, Option.some.injEq, Prod.mk.injEq] at h
    simp [h.2]
  | succ n ih =>
    obtain ⟨⟨v, r⟩, found, h⟩ := Option.bind_eq_some_iff.1 h
    have read : r.length + 8 = bits.length := number?_length found
    have more : rest.length ≤ r.length := ih h
    omega

/-- The number whose bits are given, the lowest first. -/
def bitsValue (bits : List Bool) : Nat := bits.foldr (fun b n => b.toNat + 2 * n) 0

theorem number?_append (bits rest : List Bool) :
    number? bits.length (bits ++ rest) = some (bitsValue bits, rest) := by
  induction bits with
  | nil => rfl
  | cons b bits ih =>
      simp only [List.length_cons, List.cons_append, number?, ih, Option.map_some, bitsValue,
        List.foldr_cons]

theorem bitsValue_append (low high : List Bool) :
    bitsValue (low ++ high) = bitsValue low + Nat.pow 2 low.length * bitsValue high := by
  induction low with
  | nil => simp [bitsValue]
  | cons b low ih =>
      have step (bits : List Bool) : bitsValue (b :: bits) = b.toNat + 2 * bitsValue bits := rfl
      rw [List.cons_append, step, step, ih, List.length_cons, Nat.pow_eq, Nat.pow_eq, Nat.pow_succ,
        Nat.mul_comm _ 2, Nat.mul_assoc]
      omega

/-- The lowest bits of a number stand for its rest modulo a power of two. -/
theorem bitsValue_testBit (width n : Nat) :
    bitsValue ((List.range width).map n.testBit) = n % Nat.pow 2 width := by
  induction width generalizing n with
  | zero => simp [bitsValue, Nat.mod_one]
  | succ width ih =>
      have shifted : (fun i => n.testBit (i + 1)) = (n / 2).testBit := by
        funext i
        exact Nat.testBit_succ n i
      have low : (n.testBit 0).toNat = n % 2 := by
        rw [Nat.testBit_zero]
        rcases Nat.mod_two_eq_zero_or_one n with h | h <;> simp [h]
      calc bitsValue ((List.range (width + 1)).map n.testBit)
          = (n.testBit 0).toNat + 2 * bitsValue ((List.range width).map (n / 2).testBit) := by
            rw [List.range_succ_eq_map, List.map_cons, List.map_map, ← shifted]
            rfl
        _ = n % Nat.pow 2 (width + 1) := by
            rw [ih, low]
            simp only [Nat.pow_eq, Nat.pow_succ]
            rw [Nat.mul_comm _ 2, Nat.mod_mul]

@[simp] theorem length_bitsOfByte (b : UInt8) : (bitsOfByte b).length = 8 := by
  simp [bitsOfByte]

theorem bitsValue_bitsOfByte (b : UInt8) : bitsValue (bitsOfByte b) = b.toNat := by
  rw [bitsOfByte, bitsValue_testBit]
  exact Nat.mod_eq_of_lt b.toNat_lt

@[simp] theorem bitsOfBytes_nil : bitsOfBytes [] = [] := rfl

@[simp] theorem bitsOfBytes_cons (b : UInt8) (bytes : List UInt8) :
    bitsOfBytes (b :: bytes) = bitsOfByte b ++ bitsOfBytes bytes := rfl

@[simp] theorem bitsOfBytes_append (front back : List UInt8) :
    bitsOfBytes (front ++ back) = bitsOfBytes front ++ bitsOfBytes back := by
  simp [bitsOfBytes]

@[simp] theorem length_bitsOfBytes (bytes : List UInt8) :
    (bitsOfBytes bytes).length = 8 * bytes.length := by
  induction bytes with
  | nil => rfl
  | cons b bytes ih =>
      rw [bitsOfBytes_cons, List.length_append, length_bitsOfByte, ih, List.length_cons]
      omega

theorem number?_bitsOfByte (b : UInt8) (rest : List Bool) :
    number? 8 (bitsOfByte b ++ rest) = some (b.toNat, rest) := by
  have read := number?_append (bitsOfByte b) rest
  rwa [length_bitsOfByte, bitsValue_bitsOfByte] at read

theorem bytes?_bitsOfBytes (bytes : List UInt8) (out : Array UInt8) (rest : List Bool) :
    bytes? bytes.length out (bitsOfBytes bytes ++ rest) = some (out ++ bytes.toArray, rest) := by
  induction bytes generalizing out with
  | nil => simp [bytes?]
  | cons b bytes ih =>
      have same : UInt8.ofNat b.toNat = b := UInt8.ofNat_toNat
      rw [bitsOfBytes_cons, List.append_assoc, List.length_cons, bytes?, number?_bitsOfByte]
      simp only [Option.bind_some, same, ih]
      simp

theorem toByte_bitsOfBytes (lead : List Bool) (bytes : List UInt8) (short : lead.length < 8) :
    toByte (lead ++ bitsOfBytes bytes) = bitsOfBytes bytes := by
  have extra : (lead ++ bitsOfBytes bytes).length % 8 = lead.length := by
    rw [List.length_append, length_bitsOfBytes]
    omega
  rw [toByte, extra, List.drop_left]

end MailMerge.Deflate
