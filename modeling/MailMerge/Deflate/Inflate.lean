import MailMerge.Deflate.Huffman
/-!
Inflating deflated bytes. A stream is a row of blocks, of which the last says so; bytes behind it
do not count. The bytes before the start of the output count as zeros.
-/

namespace MailMerge.Deflate

/-- Appends `n` bytes that stand `distance` bytes back, one after the other. -/
def copyBack (distance : Nat) : (n : Nat) → Array UInt8 → Array UInt8
  | 0, out => out
  | n + 1, out =>
    let b := if distance ≤ out.size then out[out.size - distance]?.getD 0 else 0
    copyBack distance n (out.push b)

/-- Least length and number of further bits of a length symbol, from symbol 257 on. -/
def lengthTable : List (Nat × Nat) :=
  [(3, 0), (4, 0), (5, 0), (6, 0), (7, 0), (8, 0), (9, 0), (10, 0), (11, 1), (13, 1), (15, 1),
    (17, 1), (19, 2), (23, 2), (27, 2), (31, 2), (35, 3), (43, 3), (51, 3), (59, 3), (67, 4),
    (83, 4), (99, 4), (115, 4), (131, 5), (163, 5), (195, 5), (227, 5), (258, 0)]

/-- Least distance and number of further bits of a distance symbol. -/
def distanceTable : List (Nat × Nat) :=
  [(1, 0), (2, 0), (3, 0), (4, 0), (5, 1), (7, 1), (9, 2), (13, 2), (17, 3), (25, 3), (33, 4),
    (49, 4), (65, 5), (97, 5), (129, 6), (193, 6), (257, 7), (385, 7), (513, 8), (769, 8),
    (1025, 9), (1537, 9), (2049, 10), (3073, 10), (4097, 11), (6145, 11), (8193, 12), (12289, 12),
    (16385, 13), (24577, 13)]

/-- Reads the further bits of a symbol of a table. -/
def tableValue? (table : List (Nat × Nat)) (symbol : Nat) (bits : List Bool) :
    Option (Nat × List Bool) :=
  (table[symbol]?).bind fun entry =>
    (number? entry.2 bits).map fun found => (entry.1 + found.1, found.2)

theorem tableValue?_length {table : List (Nat × Nat)} {symbol v : Nat} {bits rest : List Bool}
    (h : tableValue? table symbol bits = some (v, rest)) : rest.length ≤ bits.length := by
  obtain ⟨entry, _, h⟩ := Option.bind_eq_some_iff.1 h
  obtain ⟨⟨n, r⟩, found, same⟩ := Option.map_eq_some_iff.1 h
  simp only [Prod.mk.injEq] at same
  have := number?_length found
  rw [← same.2]
  omega

/-- A symbol of a block with what belongs to it: a byte, a reference to bytes further back, or the
end of the block. -/
inductive Item where
  | byte (b : UInt8)
  | reference (length distance : Nat)
  | stop

/-- Reads what belongs to a length symbol: the length, and the distance. -/
def reference? (distances : Code) (symbol : Nat) (bits : List Bool) :
    Option (Item × List Bool) :=
  (tableValue? lengthTable (symbol - 257) bits).bind fun length =>
    (distances.read? length.2).bind fun word =>
      (tableValue? distanceTable word.1 word.2).map fun distance =>
        (.reference length.1 distance.1, distance.2)

theorem reference?_length {distances : Code} {symbol : Nat} {item : Item}
    {bits rest : List Bool} (h : reference? distances symbol bits = some (item, rest)) :
    rest.length ≤ bits.length := by
  obtain ⟨⟨length, r₁⟩, h₁, h⟩ := Option.bind_eq_some_iff.1 h
  obtain ⟨⟨word, r₂⟩, h₂, h⟩ := Option.bind_eq_some_iff.1 h
  obtain ⟨⟨distance, r₃⟩, h₃, same⟩ := Option.map_eq_some_iff.1 h
  simp only [Prod.mk.injEq] at same
  obtain ⟨_, rfl⟩ := same
  have first : r₁.length ≤ bits.length := tableValue?_length h₁
  have second : r₂.length < r₁.length := Code.read?_length h₂
  have third : r₃.length ≤ r₂.length := tableValue?_length h₃
  omega

/-- Reads a symbol and what belongs to it. -/
def item? (literals distances : Code) (bits : List Bool) : Option (Item × List Bool) :=
  (literals.read? bits).bind fun word =>
    if word.1 < 256 then some (.byte (UInt8.ofNat word.1), word.2)
    else if word.1 = 256 then some (.stop, word.2)
    else reference? distances word.1 word.2

theorem item?_length {literals distances : Code} {item : Item} {bits rest : List Bool}
    (h : item? literals distances bits = some (item, rest)) : rest.length < bits.length := by
  obtain ⟨⟨symbol, r⟩, word, h⟩ := Option.bind_eq_some_iff.1 h
  have shorter : r.length < bits.length := Code.read?_length word
  split at h
  · simp only [Option.some.injEq, Prod.mk.injEq] at h
    exact h.2 ▸ shorter
  · split at h
    · simp only [Option.some.injEq, Prod.mk.injEq] at h
      exact h.2 ▸ shorter
    · exact Nat.lt_of_le_of_lt (reference?_length h) shorter

/-- Reads the items of a block up to its end, and appends the bytes that they stand for. -/
def items? (literals distances : Code) (out : Array UInt8) (bits : List Bool) :
    Option (Array UInt8 × List Bool) :=
  match _item : item? literals distances bits with
  | none => none
  | some (.stop, rest) => some (out, rest)
  | some (.byte b, rest) => items? literals distances (out.push b) rest
  | some (.reference length distance, rest) =>
    items? literals distances (copyBack distance length out) rest
termination_by bits.length
decreasing_by
  all_goals exact item?_length _item

theorem items?_length {literals distances : Code} {out result : Array UInt8}
    {bits rest : List Bool} (h : items? literals distances out bits = some (result, rest)) :
    rest.length < bits.length := by
  fun_induction items? literals distances out bits with
  | case1 => cases h
  | case2 _ _ _ item =>
    simp only [Option.some.injEq, Prod.mk.injEq] at h
    exact h.2 ▸ item?_length item
  | case3 _ _ _ _ item ih => exact Nat.lt_trans (ih h) (item?_length item)
  | case4 _ _ _ _ _ item ih => exact Nat.lt_trans (ih h) (item?_length item)

/-- The order in which a block gives the lengths of the code of code lengths. -/
def lengthOrder : List Nat :=
  [16, 17, 18, 0, 8, 7, 9, 6, 10, 5, 11, 4, 12, 3, 13, 2, 14, 1, 15]

/-- Reads `n` numbers of three bits. -/
def triples? : (n : Nat) → List Bool → Option (List Nat × List Bool)
  | 0, bits => some ([], bits)
  | n + 1, bits =>
    (number? 3 bits).bind fun found =>
      (triples? n found.2).map fun more => (found.1 :: more.1, more.2)

theorem triples?_length {n : Nat} {values : List Nat} {bits rest : List Bool}
    (h : triples? n bits = some (values, rest)) : rest.length ≤ bits.length := by
  induction n generalizing values bits with
  | zero =>
    simp only [triples?, Option.some.injEq, Prod.mk.injEq] at h
    simp [h.2]
  | succ n ih =>
    obtain ⟨⟨v, r⟩, found, h⟩ := Option.bind_eq_some_iff.1 h
    obtain ⟨⟨vs, r'⟩, more, same⟩ := Option.map_eq_some_iff.1 h
    simp only [Prod.mk.injEq] at same
    obtain ⟨_, rfl⟩ := same
    have first : r.length + 3 = bits.length := number?_length found
    have second : r'.length ≤ r.length := ih more
    omega

/-- What a symbol of the code of code lengths stands for: how many lengths, and which. The last
length so far can be repeated if there is one. -/
def repeated? (symbol : Nat) (done : List Nat) (bits : List Bool) :
    Option ((Nat × Nat) × List Bool) :=
  if symbol < 16 then some ((1, symbol), bits)
  else if symbol = 16 then
    (done.head?).bind fun last =>
      (number? 2 bits).map fun found => ((3 + found.1, last), found.2)
  else if symbol = 17 then (number? 3 bits).map fun found => ((3 + found.1, 0), found.2)
  else (number? 7 bits).map fun found => ((11 + found.1, 0), found.2)

theorem repeated?_spec {symbol : Nat} {done : List Nat} {v : Nat × Nat} {bits rest : List Bool}
    (h : repeated? symbol done bits = some (v, rest)) :
    0 < v.1 ∧ rest.length ≤ bits.length := by
  unfold repeated? at h
  split at h
  · simp only [Option.some.injEq, Prod.mk.injEq] at h
    simp [← h.1, h.2]
  · have further {n k last : Nat} {found : Nat × List Bool} (hn : number? n bits = some found)
        (same : ((k + 1 + found.1, last), found.2) = (v, rest)) :
        0 < v.1 ∧ rest.length ≤ bits.length := by
      simp only [Prod.mk.injEq] at same
      have : found.2.length + n = bits.length := number?_length hn
      rw [← same.1, ← same.2]
      exact ⟨by simp only; omega, by omega⟩
    split at h
    · obtain ⟨last, _, h⟩ := Option.bind_eq_some_iff.1 h
      obtain ⟨found, hn, same⟩ := Option.map_eq_some_iff.1 h
      exact further (k := 2) hn same
    · split at h
      · obtain ⟨found, hn, same⟩ := Option.map_eq_some_iff.1 h
        exact further (k := 2) hn same
      · obtain ⟨found, hn, same⟩ := Option.map_eq_some_iff.1 h
        exact further (k := 10) hn same

/-- Reads the lengths of `needed` code words behind those that are done, the last first. -/
def lengths? (code : Code) (needed : Nat) (done : List Nat) (bits : List Bool) :
    Option (List Nat × List Bool) :=
  if needed = 0 then some (done.reverse, bits)
  else
    match code.read? bits with
    | none => none
    | some (symbol, bits) =>
      match _found : repeated? symbol done bits with
      | none => none
      | some ((count, length), bits) =>
        if count ≤ needed then
          lengths? code (needed - count) (List.replicate count length ++ done) bits
        else none
termination_by needed
decreasing_by
  have := (repeated?_spec _found).1
  omega

theorem lengths?_length {code : Code} {needed : Nat} {done values : List Nat}
    {bits rest : List Bool} (h : lengths? code needed done bits = some (values, rest)) :
    rest.length ≤ bits.length := by
  fun_induction lengths? code needed done bits with
  | case1 =>
    simp only [Option.some.injEq, Prod.mk.injEq] at h
    simp [h.2]
  | case2 => cases h
  | case3 => cases h
  | case4 _ _ _ _ _ _ word _ _ _ found _ ih =>
    have := ih h
    have := (repeated?_spec found).2
    have := Code.read?_length word
    omega
  | case5 => cases h

/-- A code, if it can be used. -/
def usable? (code : Code) : Option Code := if code.isUsable then some code else none

/-- Reads the codes that a block brings. -/
def codes? (bits : List Bool) : Option ((Code × Code) × List Bool) :=
  (number? 5 bits).bind fun hlit =>
  (number? 5 hlit.2).bind fun hdist =>
  (number? 4 hdist.2).bind fun hclen =>
  (triples? (hclen.1 + 4) hclen.2).bind fun given =>
    let lengthOf (symbol : Nat) : Nat := ((lengthOrder.zip given.1).lookup symbol).getD 0
    let code := Code.ofLengths ((List.range 19).map lengthOf)
    let literalCount := hlit.1 + 257
    let distanceCount := hdist.1 + 1
    if 286 < literalCount ∨ 30 < distanceCount ∨ code.isComplete = false then none
    else
      (lengths? code (literalCount + distanceCount) [] given.2).bind fun all =>
      (usable? (.ofLengths (all.1.take literalCount))).bind fun literals =>
      (usable? (.ofLengths (all.1.drop literalCount))).map fun distances =>
        ((literals, distances), all.2)

theorem codes?_length {codes : Code × Code} {bits rest : List Bool}
    (h : codes? bits = some (codes, rest)) : rest.length ≤ bits.length := by
  obtain ⟨⟨v₁, r₁⟩, h₁, h⟩ := Option.bind_eq_some_iff.1 h
  obtain ⟨⟨v₂, r₂⟩, h₂, h⟩ := Option.bind_eq_some_iff.1 h
  obtain ⟨⟨v₃, r₃⟩, h₃, h⟩ := Option.bind_eq_some_iff.1 h
  obtain ⟨⟨v₄, r₄⟩, h₄, h⟩ := Option.bind_eq_some_iff.1 h
  simp only at h
  split at h
  · cases h
  · obtain ⟨⟨v₅, r₅⟩, h₅, h⟩ := Option.bind_eq_some_iff.1 h
    obtain ⟨_, _, h⟩ := Option.bind_eq_some_iff.1 h
    obtain ⟨_, _, same⟩ := Option.map_eq_some_iff.1 h
    simp only [Prod.mk.injEq] at same
    have := number?_length h₁
    have := number?_length h₂
    have := number?_length h₃
    have := triples?_length h₄
    have := lengths?_length h₅
    simp only [← same.2] at *
    omega

/-- Reads a block of bytes as they are. Their number stands in front, once as it is and once with
every bit changed. -/
def stored? (out : Array UInt8) (bits : List Bool) : Option (Array UInt8 × List Bool) :=
  (number? 16 (toByte bits)).bind fun length =>
  (number? 16 length.2).bind fun check =>
    if length.1 + check.1 = 65535 then bytes? length.1 out check.2 else none

theorem stored?_length {out result : Array UInt8} {bits rest : List Bool}
    (h : stored? out bits = some (result, rest)) : rest.length ≤ bits.length := by
  obtain ⟨⟨v₁, r₁⟩, h₁, h⟩ := Option.bind_eq_some_iff.1 h
  obtain ⟨⟨v₂, r₂⟩, h₂, h⟩ := Option.bind_eq_some_iff.1 h
  split at h
  · have := number?_length h₁
    have := number?_length h₂
    have := bytes?_length h
    simp only [toByte, List.length_drop] at *
    omega
  · cases h

/-- Reads a block of the given kind. -/
def block? (kind : Nat) (out : Array UInt8) (bits : List Bool) :
    Option (Array UInt8 × List Bool) :=
  match kind with
  | 0 => stored? out bits
  | 1 => items? fixedLiterals fixedDistances out bits
  | 2 => (codes? bits).bind fun codes => items? codes.1.1 codes.1.2 out codes.2
  | _ => none

theorem block?_length {kind : Nat} {out result : Array UInt8} {bits rest : List Bool}
    (h : block? kind out bits = some (result, rest)) : rest.length ≤ bits.length := by
  unfold block? at h
  split at h
  · exact stored?_length h
  · exact Nat.le_of_lt (items?_length h)
  · obtain ⟨⟨codes, r⟩, found, h⟩ := Option.bind_eq_some_iff.1 h
    exact Nat.le_trans (Nat.le_of_lt (items?_length h)) (codes?_length found)
  · cases h

/-- Reads blocks up to the last one. -/
def blocks? (out : Array UInt8) (bits : List Bool) : Option (Array UInt8) :=
  match bits with
  | [] => none
  | isLast :: bits =>
    match _kind : number? 2 bits with
    | none => none
    | some (kind, rest) =>
      match _block : block? kind out rest with
      | none => none
      | some (out, rest) => if isLast then some out else blocks? out rest
termination_by bits.length
decreasing_by
  have := number?_length _kind
  have := block?_length _block
  simp only [List.length_cons]
  omega

/-- The bytes that were deflated. -/
def inflate? (bytes : List UInt8) : Option (Array UInt8) := blocks? #[] (bitsOfBytes bytes)

end MailMerge.Deflate
