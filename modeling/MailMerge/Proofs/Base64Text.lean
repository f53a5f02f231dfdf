import MailMerge.Base64
import MailMerge.Proofs.Lists
import MailMerge.Text.Blank
/-!
Bytes that are read back from their base64 text, and from no other text. A group of three bytes and
its four symbols stand for one number; the padded groups at the end leave the unused bits of their
last symbol zero.
-/

set_option autoImplicit false

namespace MailMerge.Base64

theorem value?_symbol : ∀ v, v < 64 → value? (symbol v) = some v := by
  decide

theorem symbol_ne_pad : ∀ v, v < 64 → symbol v ≠ pad := by
  decide

theorem sextet_symbol (offset : Nat) {v : Nat} (small : v < 64) :
    sextet offset (symbol v) = .ok v := by
  rw [sextet, value?_symbol v small]

section Groups

variable {offset a b c d : Nat}

theorem decodeLast_four (first : a < 64) (second : b < 64) (third : c < 64) (fourth : d < 64) :
    decodeLast offset [symbol a, symbol b, symbol c, symbol d] = .ok (triple a b c d) := by
  simp [decodeLast, readGroup, symbol_ne_pad, sextet_symbol, first, second, third, fourth]

theorem decodeLast_three (first : a < 64) (second : b < 64) (third : c < 64) (zero : c % 4 = 0) :
    decodeLast offset [symbol a, symbol b, symbol c, pad] = .ok ((triple a b c 0).take 2) := by
  simp [decodeLast, readGroup, symbol_ne_pad, sextet_symbol, first, second, third, zero]

theorem decodeLast_two (first : a < 64) (second : b < 64) (zero : b % 16 = 0) :
    decodeLast offset [symbol a, symbol b, pad, pad] = .ok ((triple a b 0 0).take 1) := by
  simp [decodeLast, readGroup, symbol_ne_pad, sextet_symbol, first, second, zero]

end Groups

/-- The four values cut from a number of 24 bits give its three bytes back. -/
theorem triple_cut {n : Nat} (a b c : UInt8)
    (number : n = a.toNat * 65536 + b.toNat * 256 + c.toNat) :
    triple (n / 262144) (n / 4096 % 64) (n / 64 % 64) (n % 64) = [a, b, c] := by
  have whole : n / 262144 * 262144 + n / 4096 % 64 * 4096 + n / 64 % 64 * 64 + n % 64 = n := by
    omega
  have first := a.toNat_lt
  have second := b.toNat_lt
  have third := c.toNat_lt
  have byte (m : Nat) (x : UInt8) (same : m % 256 = x.toNat) : UInt8.ofNat m = x := by
    rw [← UInt8.toNat_inj, UInt8.toNat_ofNat', ← same]
  simp only [triple, whole]
  rw [byte (n / 65536) a (by omega), byte (n / 256) b (by omega), byte n c (by omega)]

theorem encode_eq_nil_iff (bytes : List UInt8) : encode bytes = [] ↔ bytes = [] := by
  fun_cases encode bytes <;> simp

/-- Bytes are read back from their symbols. -/
theorem decodeFrom_encode (offset : Nat) (bytes : List UInt8) :
    decodeFrom offset (encode bytes) = .ok bytes := by
  -- The induction is on the groups; a full group is the last one if no symbols follow it.
  fun_induction encode bytes generalizing offset with
  | case1 => rfl
  | case2 a n =>
      have cut := triple_cut (n := n) a 0 0 (by simp [n])
      have byte := a.toNat_lt
      have third : n / 64 % 64 = 0 := by omega
      have fourth : n % 64 = 0 := by omega
      rw [third, fourth] at cut
      rw [decodeFrom, decodeLast_two (by omega) (by omega) (by omega), cut]
      · rfl
      · simp
  | case3 a b n =>
      have cut := triple_cut (n := n) a b 0 (by simp [n])
      have first := a.toNat_lt
      have second := b.toNat_lt
      have fourth : n % 64 = 0 := by omega
      rw [fourth] at cut
      rw [decodeFrom, decodeLast_three (by omega) (by omega) (by omega) (by omega), cut]
      · rfl
      · simp
  | case4 a b c rest n ih =>
      have cut := triple_cut (n := n) a b c rfl
      have first := a.toNat_lt
      have second := b.toNat_lt
      have third := c.toNat_lt
      cases behind : encode rest with
      | nil =>
          rw [(encode_eq_nil_iff rest).1 behind, decodeFrom,
            decodeLast_four (by omega) (by omega) (by omega) (by omega), cut]
          simp
      | cons next others =>
          rw [decodeFrom, sextet_symbol _ (by omega), sextet_symbol _ (by omega),
            sextet_symbol _ (by omega), sextet_symbol _ (by omega), ← behind, ih]
          show Except.ok (triple _ _ _ _ ++ rest) = _
          rw [cut]
          rfl

/-- The symbols come in groups of four. -/
theorem length_encode_mod (bytes : List UInt8) : (encode bytes).length % 4 = 0 := by
  fun_induction encode bytes with
  | case4 a b c rest n ih =>
      simp only [List.length_cons]
      omega
  | _ => simp

theorem decode_encode (bytes : List UInt8) : decode (encode bytes) = .ok bytes := by
  have groups := length_encode_mod bytes
  rw [decode]
  split
  · next none => rw [(encode_eq_nil_iff bytes).1 (List.getLast?_eq_none_iff.1 none)]
  · rw [if_neg (by omega), decodeFrom_encode]

/-- A byte that is written as one character and is none of the white space. -/
def IsPlain (b : UInt8) : Prop := 32 < b.toNat ∧ b.toNat < 128

theorem isPlain_symbol (v : Nat) : IsPlain (symbol v) := by
  have byte (n : Nat) (low : 32 < n) (high : n < 128) : IsPlain (UInt8.ofNat n) := by
    rw [IsPlain, UInt8.toNat_ofNat']
    omega
  unfold symbol
  split
  · exact byte _ (by omega) (by omega)
  · split
    · exact byte _ (by omega) (by omega)
    · split
      · exact byte _ (by omega) (by omega)
      · split <;> simp [IsPlain]

theorem isPlain_of_mem_encode {bytes : List UInt8} {b : UInt8} (inside : b ∈ encode bytes) :
    IsPlain b := by
  have padding : IsPlain pad := by simp [IsPlain, pad]
  fun_induction encode bytes with
  | case1 => simp at inside
  | case2 a n =>
      simp only [List.mem_cons, List.not_mem_nil, or_false] at inside
      rcases inside with rfl | rfl | rfl | rfl <;> first | exact padding | exact isPlain_symbol _
  | case3 a b n =>
      simp only [List.mem_cons, List.not_mem_nil, or_false] at inside
      rcases inside with rfl | rfl | rfl | rfl <;> first | exact padding | exact isPlain_symbol _
  | case4 a b c rest n ih =>
      simp only [List.mem_cons] at inside
      rcases inside with rfl | rfl | rfl | rfl | later
      · exact isPlain_symbol _
      · exact isPlain_symbol _
      · exact isPlain_symbol _
      · exact isPlain_symbol _
      · exact ih later

theorem toList_loop (bytes : ByteArray) (start : Nat) (done : List UInt8) :
    ByteArray.toList.loop bytes start done = done.reverse ++ bytes.data.toList.drop start := by
  fun_induction ByteArray.toList.loop bytes start done with
  | case1 start done more ih =>
      have inside : start < bytes.data.toList.length := more
      have byte : bytes.get! start = bytes.data.toList[start] := by
        have get : bytes.data[start]! = bytes.data.toList[start] := by
          rw [getElem!_pos bytes.data start more, Array.getElem_toList]
        exact get
      rw [ih, List.reverse_cons, List.append_assoc, byte, List.drop_eq_getElem_cons inside]
      rfl
  | case2 start done enough =>
      rw [List.drop_of_length_le (Nat.le_of_not_lt enough), List.append_nil]

theorem toChar_plain {b : UInt8} (plain : IsPlain b) : (Char.ofNat b.toNat).toNat = b.toNat := by
  have valid : b.toNat.isValidChar := Or.inl (Nat.lt_trans plain.2 (by decide))
  rw [Char.ofNat, dif_pos valid]
  rfl

/-- Plain bytes are the bytes of the text that they spell. -/
theorem utf8_plain {bytes : List UInt8} (plain : ∀ b ∈ bytes, IsPlain b) :
    (String.ofList (bytes.map fun b => Char.ofNat b.toNat)).toUTF8.toList = bytes := by
  have each : (bytes.map fun b => Char.ofNat b.toNat).flatMap String.utf8EncodeChar = bytes := by
    induction bytes with
    | nil => rfl
    | cons b bytes ih =>
        have here := plain b List.mem_cons_self
        have value : (Char.ofNat b.toNat).val.toNat = b.toNat := toChar_plain here
        have one : String.utf8EncodeChar (Char.ofNat b.toNat) = [b] := by
          rw [String.utf8EncodeChar.eq_def, value, if_pos (Nat.le_of_lt_succ here.2),
            UInt8.ofNat_toNat]
        rw [List.map_cons, List.flatMap_cons, one, ih fun c later =>
          plain c (List.mem_cons_of_mem b later)]
        rfl
  rw [String.toUTF8_eq_toByteArray, String.toByteArray_ofList, List.utf8Encode, each,
    ByteArray.toList, toList_loop, List.toList_data_toByteArray]
  rfl

/-- Bytes are read back from their text. -/
theorem decodeText_encodeText (bytes : List UInt8) : decodeText (encodeText bytes) = .ok bytes := by
  rw [decodeText, encodeText, utf8_plain fun b => isPlain_of_mem_encode, decode_encode]

/-- There is no white space in the text of bytes. -/
theorem solid_encodeText (bytes : List UInt8) :
    ∀ c ∈ (encodeText bytes).toList, Text.isBlankChar c = false := by
  intro c inside
  rw [encodeText, String.toList_ofList, List.mem_map] at inside
  obtain ⟨b, symbol, rfl⟩ := inside
  have plain := isPlain_of_mem_encode symbol
  have value := toChar_plain plain
  have range := plain
  rw [IsPlain] at range
  simp only [Text.isBlankChar, Bool.or_eq_false_iff, Bool.and_eq_false_iff, decide_eq_false_iff_not,
    beq_eq_false_iff_ne, value]
  omega

/-! Nothing else is read: the symbols that bytes are read from are those of the bytes. -/

theorem symbol_of_value? {b : UInt8} {v : Nat} (read : value? b = some v) :
    v < 64 ∧ b = symbol v := by
  have all : ∀ n < 256, ∀ v ∈ value? (UInt8.ofNat n), v < 64 ∧ UInt8.ofNat n = symbol v := by
    decide +kernel
  have here := all b.toNat b.toNat_lt v
  rw [UInt8.ofNat_toNat] at here
  exact here read

theorem sextet_eq_ok {offset : Nat} {b : UInt8} {v : Nat} (read : sextet offset b = .ok v) :
    v < 64 ∧ b = symbol v := by
  rw [sextet] at read
  split at read
  · next found =>
      cases read
      exact symbol_of_value? found
  · cases read

/-- The last group is symbols of the alphabet with padding behind them. -/
theorem readGroup_eq_ok {offset : Nat} {symbols : List UInt8} {group whole : Group}
    (read : readGroup offset group symbols = .ok whole) :
    ∃ values count, symbols = values.map symbol ++ List.replicate count pad ∧
      (∀ v ∈ values, v < 64) ∧ whole.values = group.values ++ values ∧
      whole.pads = group.pads + count ∧ (0 < group.pads → values = []) := by
  induction symbols generalizing group with
  | nil =>
      cases read
      exact ⟨[], 0, rfl, nofun, (List.append_nil _).symm, rfl, fun _ => rfl⟩
  | cons b rest ih =>
      simp only [readGroup] at read
      split at read
      · next padding =>
          split at read
          · cases read
          · obtain ⟨values, count, rfl, -, all, pads, none⟩ := ih read
            obtain rfl := none (Nat.succ_pos _)
            refine ⟨[], count + 1, ?_, nofun, all, ?_, fun _ => rfl⟩
            · rw [padding, List.replicate_succ]
              rfl
            · rw [pads, Nat.add_right_comm, Nat.add_assoc]
      · split at read
        · cases read
        · next unpadded =>
            split at read
            · cases read
            · next v found =>
                obtain ⟨small, rfl⟩ := sextet_eq_ok found
                obtain ⟨values, count, rfl, others, all, pads, -⟩ := ih read
                refine ⟨v :: values, count, rfl, ?_, ?_, pads, fun padded => absurd padded unpadded⟩
                · intro w inside
                  rcases List.mem_cons.mp inside with rfl | later
                  · exact small
                  · exact others w later
                · rw [all, List.append_assoc]
                  rfl

section Cut

variable {a b c d : Nat}

/-- The symbols of three bytes are those of the four values that the bytes were cut from. -/
theorem encode_triple (first : a < 64) (second : b < 64) (third : c < 64) (fourth : d < 64)
    (rest : List UInt8) : encode (triple a b c d ++ rest) =
      symbol a :: symbol b :: symbol c :: symbol d :: encode rest := by
  obtain ⟨n, number⟩ : ∃ n, n = a * 262144 + b * 4096 + c * 64 + d := ⟨_, rfl⟩
  have whole : (UInt8.ofNat (n / 65536)).toNat * 65536 + (UInt8.ofNat (n / 256)).toNat * 256 +
      (UInt8.ofNat n).toNat = n := by
    simp only [UInt8.toNat_ofNat']
    omega
  simp only [triple, ← number, List.cons_append, List.nil_append, encode, whole]
  congr 4 <;> congr 1 <;> omega

theorem encode_triple_two (first : a < 64) (second : b < 64) (third : c < 64)
    (zero : c % 4 = 0) :
    encode ((triple a b c 0).take 2) = [symbol a, symbol b, symbol c, pad] := by
  obtain ⟨n, number⟩ : ∃ n, n = a * 262144 + b * 4096 + c * 64 + 0 := ⟨_, rfl⟩
  have whole : (UInt8.ofNat (n / 65536)).toNat * 65536 + (UInt8.ofNat (n / 256)).toNat * 256 = n := by
    simp only [UInt8.toNat_ofNat']
    omega
  simp only [triple, ← number, List.take, encode, whole]
  congr 3 <;> congr 1 <;> omega

theorem encode_triple_one (first : a < 64) (second : b < 64) (zero : b % 16 = 0) :
    encode ((triple a b 0 0).take 1) = [symbol a, symbol b, pad, pad] := by
  obtain ⟨n, number⟩ : ∃ n, n = a * 262144 + b * 4096 := ⟨_, rfl⟩
  have whole : (UInt8.ofNat (n / 65536)).toNat * 65536 = n := by
    simp only [UInt8.toNat_ofNat']
    omega
  simp only [triple, Nat.zero_mul, Nat.add_zero, ← number, List.take, encode, whole]
  congr 2 <;> congr 1 <;> omega

end Cut

theorem encode_decodeLast {offset : Nat} {symbols bytes : List UInt8} (short : symbols.length ≤ 4)
    (read : decodeLast offset symbols = .ok bytes) : symbols = encode bytes := by
  rw [decodeLast] at read
  cases grouped : readGroup offset ⟨[], 0, 0⟩ symbols with
  | error fault =>
      rw [grouped] at read
      cases read
  | ok group =>
      obtain ⟨values, count, rfl, small, all, pads, -⟩ := readGroup_eq_ok grouped
      rw [List.nil_append] at all
      rw [Nat.zero_add] at pads
      rw [grouped] at read
      simp only [all, pads] at read
      rw [List.length_append, List.length_map, List.length_replicate] at short
      split at read
      · cases read
      · next enough =>
          split at read
          · cases read
          · next padded =>
              split at read
              · next a b =>
                  have two : count = 2 := by
                    simp only [List.length_cons, List.length_nil] at short padded
                    omega
                  simp only [List.forall_mem_cons] at small
                  split at read
                  · cases read
                  · next zero =>
                      cases read
                      rw [two, encode_triple_one small.1 small.2.1 (by omega)]
                      rfl
              · next a b c =>
                  have one : count = 1 := by
                    simp only [List.length_cons, List.length_nil] at short padded
                    omega
                  simp only [List.forall_mem_cons] at small
                  split at read
                  · cases read
                  · next zero =>
                      cases read
                      rw [one, encode_triple_two small.1 small.2.1 small.2.2.1 (by omega)]
                      rfl
              · next a b c d =>
                  have none : count = 0 := by
                    simp only [List.length_cons, List.length_nil] at short
                    omega
                  simp only [List.forall_mem_cons] at small
                  cases read
                  have full := encode_triple small.1 small.2.1 small.2.2.1 small.2.2.2.1 []
                  rw [List.append_nil] at full
                  rw [none, full]
                  rfl
              · next two three four =>
                  cases read
                  -- Fewer than two symbols are refused unless there is nothing at all.
                  have few : values.length < 2 := by
                    rcases values with _ | ⟨a, _ | ⟨b, _ | ⟨c, _ | ⟨d, _ | ⟨e, more⟩⟩⟩⟩⟩
                    · exact Nat.zero_lt_two
                    · exact Nat.one_lt_two
                    · exact absurd rfl (two a b)
                    · exact absurd rfl (three a b c)
                    · exact absurd rfl (four a b c d)
                    · simp only [List.length_cons] at short
                      omega
                  have nothing : values = [] ∧ count = 0 := by simpa [few] using enough
                  rw [nothing.1, nothing.2]
                  rfl

/-- The symbols that bytes are read from are those of the bytes. -/
theorem encode_decodeFrom {offset : Nat} {symbols bytes : List UInt8}
    (read : decodeFrom offset symbols = .ok bytes) : symbols = encode bytes := by
  fun_induction decodeFrom offset symbols generalizing bytes with
  | case1 offset a b c d next rest ih =>
      obtain ⟨first, one, behindFirst⟩ := bind_eq_ok.mp read
      obtain ⟨second, two, behindSecond⟩ := bind_eq_ok.mp behindFirst
      obtain ⟨third, three, behindThird⟩ := bind_eq_ok.mp behindSecond
      obtain ⟨fourth, four, behindFourth⟩ := bind_eq_ok.mp behindThird
      obtain ⟨others, behind, made⟩ := bind_eq_ok.mp behindFourth
      cases made
      obtain ⟨firstSmall, rfl⟩ := sextet_eq_ok one
      obtain ⟨secondSmall, rfl⟩ := sextet_eq_ok two
      obtain ⟨thirdSmall, rfl⟩ := sextet_eq_ok three
      obtain ⟨fourthSmall, rfl⟩ := sextet_eq_ok four
      rw [encode_triple firstSmall secondSmall thirdSmall fourthSmall, ← ih behind]
  | case2 offset symbols short =>
      refine encode_decodeLast ?_ read
      rcases symbols with _ | ⟨a, _ | ⟨b, _ | ⟨c, _ | ⟨d, _ | ⟨e, more⟩⟩⟩⟩⟩
      · simp
      · simp
      · simp
      · simp
      · simp
      · exact absurd rfl (short a b c d e more)

theorem decode_eq_ok {symbols bytes : List UInt8} :
    decode symbols = .ok bytes ↔ symbols = encode bytes := by
  constructor
  · intro read
    rw [decode] at read
    split at read
    · next none =>
        cases read
        exact List.getLast?_eq_none_iff.mp none
    · split at read
      · cases read
      · exact encode_decodeFrom read
  · rintro rfl
    exact decode_encode bytes

/-- A text is valid base64 exactly if it is the text of some bytes, and it stands for these. -/
theorem decodeText_eq_ok {s : String} {bytes : List UInt8} :
    decodeText s = .ok bytes ↔ s = encodeText bytes := by
  constructor
  · intro read
    have symbols : s.toUTF8.toList = (encodeText bytes).toUTF8.toList := by
      rw [encodeText, utf8_plain fun b => isPlain_of_mem_encode]
      exact decode_eq_ok.mp read
    rw [ByteArray.toList, ByteArray.toList, toList_loop, toList_loop] at symbols
    have same : s.toUTF8 = (encodeText bytes).toUTF8 := by
      apply ByteArray.ext
      simpa using symbols
    exact String.toByteArray_inj.mp same
  · rintro rfl
    exact decodeText_encodeText bytes

end MailMerge.Base64
