import MailMerge.Proofs.JsonText
/-!
JSON text on lines. The line breaks and the blanks between the tokens of a value do not count, so
its text on lines is cut into the same tokens as its compact text, and read as the same tree.
-/

set_option autoImplicit false

namespace MailMerge

namespace JsonToken

theorem scan_blanks {blanks : List Char} (all : ∀ c ∈ blanks, isSpace c = true)
    (rest : List Char) : scan (blanks ++ rest) = scan rest := by
  induction blanks with
  | nil => rfl
  | cons c blanks ih =>
      rw [List.forall_mem_cons] at all
      rw [List.cons_append, scan, if_pos all.1, ih all.2]

theorem scan_newLine (level : Nat) (rest : List Char) :
    scan (Json.newLine level ++ rest) = scan rest := by
  apply scan_blanks
  rw [Json.newLine, List.forall_mem_cons]
  refine ⟨rfl, ?_⟩
  intro c inside
  rw [List.eq_of_mem_replicate inside]
  rfl

theorem ends_newLine (level : Nat) (rest : List Char) : Ends (Json.newLine level ++ rest) := by
  rintro c ⟨⟩
  exact Or.inr (Or.inr (Or.inr rfl))

end JsonToken

namespace Json

open JsonToken (scan scan_newLine ends_newLine Ends)

mutual

/-- The lines of a value are cut into its tokens, however far they are indented. -/
theorem scan_lines (j : Json) {depth : Nat} (readable : j.Readable depth) (level : Nat)
    {rest : List Char} (ends : Ends rest) :
    scan (lines level j ++ rest) = tokens j ++ scan rest := by
  match j, depth, readable with
  | .array (item :: items), depth + 1, readable =>
      rw [lines, List.cons_append, tokens, List.cons_append,
        ← scan_itemLines (item :: items) readable nofun (level + 1) rest]
      exact scan_mark _ (fun _ => rfl) rfl
  | .object (m :: members), depth + 1, readable =>
      rw [lines, List.cons_append, tokens, List.cons_append,
        ← scan_memberLines (m :: members) readable nofun (level + 1) rest]
      exact scan_mark _ (fun _ => rfl) rfl
  | .null, depth, readable
  | .bool _, depth, readable
  | .number _, depth, readable
  | .string _, depth, readable
  | .array [], depth + 1, readable
  | .object [], depth + 1, readable => exact scan_chars _ readable ends

/-- The lines of the items of an array are cut into their tokens. -/
theorem scan_itemLines (items : List Json) {depth : Nat} (readable : ItemsReadable items depth)
    (present : items ≠ []) (level : Nat) (rest : List Char) :
    scan (itemLines level items ++ rest) = itemsTokens items ++ scan rest := by
  match items, readable, present with
  | [item], readable, _ =>
      rw [itemLines, itemLines, itemsTokens]
      simp only [List.isEmpty_nil, if_true, List.nil_append, List.append_assoc, scan_newLine,
        List.singleton_append]
      rw [scan_lines item readable.1 level (ends_newLine _ _), scan_newLine, scan_closeArray]
  | item :: next :: items, readable, _ =>
      rw [itemLines, itemsTokens]
      simp only [List.isEmpty_cons, Bool.false_eq_true, if_false, List.append_assoc, scan_newLine,
        List.cons_append, List.nil_append]
      rw [scan_lines item readable.1 level (ends_comma _), scan_comma,
        scan_itemLines (next :: items) readable.2 nofun level rest]
      · exact nofun

/-- The lines of the members of an object are cut into their tokens. -/
theorem scan_memberLines (members : List (String × Json)) {depth : Nat}
    (readable : MembersReadable members depth) (present : members ≠ []) (level : Nat)
    (rest : List Char) :
    scan (memberLines level members ++ rest) = membersTokens members ++ scan rest := by
  have blank (cs : List Char) : scan (' ' :: cs) = scan cs :=
    JsonToken.scan_blanks (List.forall_mem_singleton.mpr rfl) cs
  match members, readable, present with
  | [(name, value)], readable, _ =>
      rw [memberLines, memberLines, membersTokens]
      simp only [List.isEmpty_nil, if_true, List.nil_append, List.append_assoc, scan_newLine,
        List.cons_append, JsonToken.scan_quoted, scan_colon, blank]
      rw [scan_lines value readable.1 level (ends_newLine _ _), scan_newLine, scan_closeObject]
  | (name, value) :: next :: members, readable, _ =>
      rw [memberLines, membersTokens]
      simp only [List.isEmpty_cons, Bool.false_eq_true, if_false, List.append_assoc, scan_newLine,
        List.cons_append, List.nil_append, JsonToken.scan_quoted, scan_colon, blank]
      rw [scan_lines value readable.1 level (ends_comma _), scan_comma,
        scan_memberLines (next :: members) readable.2 nofun level rest]
      · exact nofun

end

/-- The text of a value on lines is read as the tree of the value. -/
theorem ofText_prettyText {j : Json} (readable : j.Readable JsonDocument.maxDepth) :
    JsonDocument.ofText j.prettyText = ⟨j.tree, true⟩ := by
  have whole : scan (lines 0 j ++ []) = j.tokens ++ scan [] := scan_lines j readable 0 nofun
  rw [List.append_nil, scan, List.append_nil] at whole
  apply ofText_of_scan readable
  rwa [prettyText, String.toList_ofList]

end Json

end MailMerge
