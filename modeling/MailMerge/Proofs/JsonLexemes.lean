import MailMerge.Json.Read
import Mathlib.Data.List.Chain
import Mathlib.Data.List.TakeWhile
/-!
The tokens of JSON text as they are written. Two texts with the same lexemes differ only in the white
space between them. In JSON an opening brace stands within a string, or opens an object on its own:
no second one follows it.
-/

set_option autoImplicit false

namespace MailMerge

/-- A token and how it is written. -/
structure Lexeme where
  token : JsonToken
  chars : List Char
  deriving DecidableEq

namespace JsonToken

/-- The tokens of a text as they are written, up to its end or to where it is broken. -/
def lexemes : List Char → List Lexeme
  | [] => []
  | c :: cs =>
    if isSpace c then lexemes cs
    else
      match _found : next? (c :: cs) with
      | some (t, rest) => ⟨t, (c :: cs).take ((c :: cs).length - rest.length)⟩ :: lexemes rest
      | none => [⟨broken, c :: cs⟩]
termination_by cs => cs.length
decreasing_by
  · simp
  · exact next?_length _found

theorem map_token_lexemes (cs : List Char) : (lexemes cs).map Lexeme.token = scan cs := by
  fun_induction lexemes cs with
  | case1 => rw [scan, List.map_nil]
  | case2 c cs space ih => rw [scan, if_pos space, ih]
  | case3 c cs dark t rest found ih =>
      rw [scan, if_neg dark, List.map_cons, ih]
      split
      · next found' =>
          rw [found] at found'
          cases found'
          rfl
      · next absent =>
          rw [found] at absent
          cases absent
  | case4 c cs dark absent =>
      rw [scan, if_neg dark]
      split
      · next found =>
          rw [absent] at found
          cases found
      · rfl

section Readers

/-- What is left of a text behind some of it that has no opening brace. -/
def Passes (cs behind : List Char) : Prop := ∃ passed, cs = passed ++ behind ∧ '{' ∉ passed

theorem Passes.refl (cs : List Char) : Passes cs cs := ⟨[], rfl, nofun⟩

theorem Passes.trans {cs middle behind : List Char} (first : Passes cs middle)
    (second : Passes middle behind) : Passes cs behind := by
  obtain ⟨passed, rfl, free⟩ := first
  obtain ⟨more, rfl, free'⟩ := second
  refine ⟨passed ++ more, by rw [List.append_assoc], ?_⟩
  rw [List.mem_append]
  exact not_or.mpr ⟨free, free'⟩

theorem Passes.cons {c : Char} {cs behind : List Char} (other : c ≠ '{') (rest : Passes cs behind) :
    Passes (c :: cs) behind :=
  Passes.trans ⟨[c], rfl, by simpa using other.symm⟩ rest

variable {cs behind : List Char}

/-! Numbers are read without a brace. -/

theorem digitRun?_passes {run : List Char} (read : digitRun? cs = some (run, behind)) :
    Passes cs behind := by
  simp only [digitRun?, Text.spanDigits, List.isEmpty_iff] at read
  split at read
  · cases read
  · cases read
    refine ⟨cs.takeWhile Char.isDigit, List.takeWhile_append_dropWhile.symm, fun inside => ?_⟩
    exact absurd (List.mem_takeWhile_imp inside) (by decide)

theorem wholeDigits?_passes {run : List Char} (read : wholeDigits? cs = some (run, behind)) :
    Passes cs behind := by
  unfold wholeDigits? at read
  split at read
  · cases read
    exact Passes.cons (by decide) (Passes.refl _)
  · exact digitRun?_passes read

theorem fraction?_passes {fraction : Option (List Char)}
    (read : fraction? cs = some (fraction, behind)) : Passes cs behind := by
  unfold fraction? at read
  split at read
  · obtain ⟨⟨run, rest⟩, found, same⟩ := Option.map_eq_some_iff.mp read
    cases same
    exact Passes.cons (by decide) (digitRun?_passes found)
  · cases read
    exact Passes.refl _

theorem exponentDigits?_passes {negative : Bool} {exponent : Option Int}
    (read : exponentDigits? negative cs = some (exponent, behind)) : Passes cs behind := by
  obtain ⟨⟨run, rest⟩, found, same⟩ := Option.map_eq_some_iff.mp read
  cases same
  exact digitRun?_passes found

theorem exponent?_passes {exponent : Option Int} (read : exponent? cs = some (exponent, behind)) :
    Passes cs behind := by
  unfold exponent? at read
  split at read
  · cases read
    exact Passes.refl _
  · next e cs =>
      split at read
      · next mark =>
          refine Passes.cons (by rintro rfl; revert mark; decide) ?_
          split at read
          · exact Passes.cons (by decide) (exponentDigits?_passes read)
          · exact Passes.cons (by decide) (exponentDigits?_passes read)
          · exact exponentDigits?_passes read
      · cases read
        exact Passes.refl _

theorem numberText?_passes {negative : Bool} {t : NumberText}
    (read : numberText? negative cs = some (t, behind)) : Passes cs behind := by
  obtain ⟨⟨_, _⟩, whole, read⟩ := Option.bind_eq_some_iff.mp read
  obtain ⟨⟨_, _⟩, fraction, read⟩ := Option.bind_eq_some_iff.mp read
  obtain ⟨⟨_, _⟩, exponent, same⟩ := Option.map_eq_some_iff.mp read
  cases same
  exact (wholeDigits?_passes whole).trans
    ((fraction?_passes fraction).trans (exponent?_passes exponent))

theorem number?_passes {t : JsonToken} (read : number? cs = some (t, behind)) :
    (∃ n, t = .number n) ∧ Passes cs behind := by
  obtain ⟨⟨text, rest⟩, found, same⟩ := Option.map_eq_some_iff.mp read
  cases same
  refine ⟨⟨_, rfl⟩, ?_⟩
  split at found
  · exact Passes.cons (by decide) (numberText?_passes found)
  · exact numberText?_passes found

theorem stringParts?_closed {parts : List Part} (read : stringParts? cs = some (parts, behind)) :
    ∃ inner, cs = inner ++ '"' :: behind := by
  fun_induction stringParts? cs generalizing parts behind with
  | case1 => cases read
  | case2 rest =>
      cases read
      exact ⟨[], rfl⟩
  | case3 a b c d rest n found parts' behind' digits ih =>
      cases read
      obtain ⟨inner, rfl⟩ := ih ‹_›
      exact ⟨'\\' :: 'u' :: a :: b :: c :: d :: inner, rfl⟩
  | case4 => cases read
  | case5 e rest _ c found parts' behind' escape ih =>
      cases read
      obtain ⟨inner, rfl⟩ := ih ‹_›
      exact ⟨'\\' :: e :: inner, rfl⟩
  | case6 => cases read
  | case7 => cases read
  | case8 c rest _ _ _ _ ih =>
      obtain ⟨⟨_, _⟩, found, same⟩ := Option.map_eq_some_iff.mp read
      cases same
      obtain ⟨inner, rfl⟩ := ih found
      exact ⟨c :: inner, rfl⟩

end Readers

end JsonToken

/-- How tokens are written, as far as quotation marks and opening braces go. -/
def Lexeme.WellWritten (l : Lexeme) : Prop :=
  match l.token with
  | .string _ => ∃ inner, l.chars = '"' :: (inner ++ ['"'])
  | .openObject => l.chars = ['{']
  | .broken => True
  | _ => l.chars ≠ [] ∧ '{' ∉ l.chars

namespace JsonToken

theorem next?_written {cs behind : List Char} {t : JsonToken} (read : next? cs = some (t, behind)) :
    ∃ written, cs = written ++ behind ∧ Lexeme.WellWritten ⟨t, written⟩ := by
  have longer := next?_length read
  unfold next? at read
  split at read
  case h_1 => cases read
  case h_4 rest =>
    cases read
    exact ⟨['{'], rfl, rfl⟩
  case h_11 rest =>
    obtain ⟨⟨parts, _⟩, found, same⟩ := Option.map_eq_some_iff.mp read
    cases same
    obtain ⟨inner, rfl⟩ := stringParts?_closed found
    exact ⟨'"' :: (inner ++ ['"']), by simp, inner, rfl⟩
  case h_12 =>
    obtain ⟨⟨n, rfl⟩, passed, rfl, free⟩ := number?_passes read
    refine ⟨passed, rfl, ?_, free⟩
    rintro rfl
    exact absurd longer (Nat.lt_irrefl _)
  case h_8 | h_9 =>
    cases read
    exact ⟨[_, _, _, _], rfl, List.cons_ne_nil _ _, by decide⟩
  case h_10 =>
    cases read
    exact ⟨[_, _, _, _, _], rfl, List.cons_ne_nil _ _, by decide⟩
  all_goals
    cases read
    exact ⟨[_], rfl, List.cons_ne_nil _ _, by decide⟩

end JsonToken

/-- Tokens of which none is broken and no two that open objects follow each other. -/
structure JsonToken.Orderly (ts : List JsonToken) : Prop where
  apart : ts.IsChain fun a b => a = .openObject → b ≠ .openObject
  sound : .broken ∉ ts

namespace JsonDocument

open JsonToken (Orderly)

theorem orderly_cons {t : JsonToken} {ts : List JsonToken} (rest : Orderly ts)
    (other : t ≠ .openObject) (sound : t ≠ .broken) : Orderly (t :: ts) := by
  refine ⟨List.isChain_cons.mpr ⟨fun _ _ opens => absurd opens other, rest.apart⟩, ?_⟩
  exact fun inside => (List.mem_cons.mp inside).elim sound.symm rest.sound

theorem orderly_openObject {t : JsonToken} {ts : List JsonToken} (rest : Orderly (t :: ts))
    (other : t ≠ .openObject) : Orderly (.openObject :: t :: ts) := by
  refine ⟨List.isChain_cons_cons.mpr ⟨fun _ => other, rest.apart⟩, ?_⟩
  exact fun inside => (List.mem_cons.mp inside).elim nofun rest.sound

mutual

/-- Tokens that are read to their end are orderly: behind the brace that opens an object the name of
its first member is asked for. -/
theorem orderly_of_readValue {stack : List Open} {ts : List JsonToken}
    (whole : (readValue stack ts).complete = true) : Orderly ts := by
  unfold readValue at whole
  split at whole
  case h_1 | h_2 | h_3 | h_4 => exact orderly_cons (orderly_of_readBehind whole) nofun nofun
  case h_5 =>
    exact orderly_cons (orderly_cons (orderly_of_readBehind whole) nofun nofun) nofun nofun
  case h_6 => exact orderly_cons (orderly_of_readValue whole) nofun nofun
  case h_7 =>
    exact orderly_openObject (orderly_cons (orderly_of_readBehind whole) nofun nofun) nofun
  case h_8 =>
    have behind := orderly_cons (orderly_of_readValue whole) (t := .colon) nofun nofun
    exact orderly_openObject (orderly_cons behind nofun nofun) nofun
  case h_9 | h_10 => cases whole
termination_by ts.length

theorem orderly_of_readBehind {stack : List Open} {value : JsonTree} {ts : List JsonToken}
    (whole : (readBehind stack value ts).complete = true) : Orderly ts := by
  unfold readBehind at whole
  split at whole
  · rw [List.isEmpty_iff.mp whole]
    exact ⟨.nil, nofun⟩
  · split at whole
    · exact orderly_cons (orderly_of_readValue whole) nofun nofun
    · exact orderly_cons (orderly_of_readBehind whole) nofun nofun
    · cases whole
  · split at whole
    · have behind := orderly_cons (orderly_of_readValue whole) (t := .colon) nofun nofun
      exact orderly_cons (orderly_cons behind nofun nofun) nofun nofun
    · exact orderly_cons (orderly_of_readBehind whole) nofun nofun
    · cases whole
termination_by ts.length

end

end JsonDocument

theorem Json.orderly_of_isValid {s : String} (valid : Json.isValid s = true) :
    JsonToken.Orderly (JsonToken.scan s.toList) := by
  rw [Json.isValid, Json.ofText?] at valid
  split at valid
  · next whole => exact JsonDocument.orderly_of_readValue whole
  · cases valid

end MailMerge
