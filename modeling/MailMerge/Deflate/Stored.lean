import MailMerge.Deflate.Inflate
/-!
Deflating without compression: blocks of bytes as they are. Main statement: inflating undoes it. The
store asks for no more than that, so it takes any `Compressor`.
-/

namespace MailMerge.Deflate

/-- So many bytes fit a block. -/
def maxStored : Nat := 65535

/-- A number of 16 bits as two bytes, the lower first. -/
def twoBytes (n : Nat) : List UInt8 := [UInt8.ofNat (n % 256), UInt8.ofNat (n / 256)]

/-- A block of bytes as they are. -/
def storedBlock (isLast : Bool) (bytes : List UInt8) : List UInt8 :=
  (if isLast then 1 else 0) ::
    (twoBytes bytes.length ++ twoBytes (maxStored - bytes.length) ++ bytes)

/-- The deflated form of some bytes. -/
def deflate (bytes : List UInt8) : List UInt8 :=
  if bytes.length ≤ maxStored then storedBlock true bytes
  else storedBlock false (bytes.take maxStored) ++ deflate (bytes.drop maxStored)
termination_by bytes.length
decreasing_by
  simp only [List.length_drop, maxStored] at *
  omega

/-- Two bytes hold a number of 16 bits. -/
theorem number?_twoBytes {n : Nat} (fits : n ≤ maxStored) (rest : List Bool) :
    number? 16 (bitsOfBytes (twoBytes n) ++ rest) = some (n, rest) := by
  have value : bitsValue (bitsOfBytes (twoBytes n)) = n := by
    have low : (UInt8.ofNat (n % 256)).toNat = n % 256 :=
      UInt8.toNat_ofNat_of_lt' (Nat.mod_lt n (by decide))
    have high : (UInt8.ofNat (n / 256)).toNat = n / 256 := by
      apply UInt8.toNat_ofNat_of_lt'
      simp only [maxStored, UInt8.size] at *
      omega
    simp only [twoBytes, bitsOfBytes_cons, bitsOfBytes_nil, List.append_nil, bitsValue_append,
      bitsValue_bitsOfByte, length_bitsOfByte, low, high, Nat.pow_eq]
    omega
  have width : (bitsOfBytes (twoBytes n)).length = 16 := by
    rw [length_bitsOfBytes, twoBytes]
    rfl
  have read := number?_append (bitsOfBytes (twoBytes n)) rest
  rwa [width, value] at read

theorem stored?_twoBytes (lead : List Bool) (short : lead.length < 8) (out : Array UInt8)
    (bytes more : List UInt8) (fits : bytes.length ≤ maxStored) :
    stored? out (lead ++ bitsOfBytes (twoBytes bytes.length ++ twoBytes (maxStored - bytes.length)
      ++ bytes ++ more)) = some (out ++ bytes.toArray, bitsOfBytes more) := by
  have sum : bytes.length + (maxStored - bytes.length) = 65535 := by
    simp only [maxStored] at *
    omega
  rw [stored?, toByte_bitsOfBytes lead _ short]
  simp only [bitsOfBytes_append, List.append_assoc]
  rw [number?_twoBytes fits, Option.bind_some, number?_twoBytes (Nat.sub_le _ _), Option.bind_some,
    if_pos sum, bytes?_bitsOfBytes]

theorem blocks?_cons {isLast : Bool} {kind : Nat} {out result : Array UInt8}
    {bits rest behind : List Bool} (header : number? 2 bits = some (kind, rest))
    (body : block? kind out rest = some (result, behind)) :
    blocks? out (isLast :: bits) = if isLast then some result else blocks? result behind := by
  rw [blocks?]
  split
  · next absent => rw [header] at absent; cases absent
  · next found =>
      rw [header] at found
      cases found
      split
      · next absent => rw [body] at absent; cases absent
      · next found =>
          rw [body] at found
          cases found
          rfl

theorem blocks?_storedBlock (isLast : Bool) (out : Array UInt8) (bytes more : List UInt8)
    (fits : bytes.length ≤ maxStored) :
    blocks? out (bitsOfBytes (storedBlock isLast bytes ++ more)) =
      if isLast then some (out ++ bytes.toArray)
      else blocks? (out ++ bytes.toArray) (bitsOfBytes more) := by
  have lead : bitsOfByte (if isLast then 1 else 0) =
      isLast :: false :: false :: List.replicate 5 false := by
    cases isLast <;> decide
  rw [storedBlock, List.cons_append, bitsOfBytes_cons, lead]
  exact blocks?_cons rfl (stored?_twoBytes _ (by simp) out bytes more fits)

theorem blocks?_deflate (bytes : List UInt8) (out : Array UInt8) :
    blocks? out (bitsOfBytes (deflate bytes)) = some (out ++ bytes.toArray) := by
  fun_induction deflate bytes generalizing out with
  | case1 bytes fits =>
      simpa using blocks?_storedBlock true out bytes [] fits
  | case2 bytes tooLong ih =>
      have fits : (bytes.take maxStored).length ≤ maxStored := List.length_take_le _ _
      rw [blocks?_storedBlock false out _ _ fits, ih]
      simp [Array.append_assoc]

/-- Inflating undoes deflating. -/
theorem inflate?_deflate (bytes : List UInt8) :
    inflate? (deflate bytes) = some bytes.toArray := by
  rw [inflate?, blocks?_deflate]
  simp

/-- A way to deflate bytes that inflating undoes. -/
class Compressor where
  compress : List UInt8 → List UInt8
  inflate?_compress : ∀ bytes, inflate? (compress bytes) = some bytes.toArray

instance : Compressor := ⟨deflate, inflate?_deflate⟩

end MailMerge.Deflate
