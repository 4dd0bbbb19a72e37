/-
This file proves that a quoted text can be read in one way only. Most characters are
written as themselves; the others are written as a backslash and what says which
character is meant: a letter, or the code between braces. No written form of a
character is the beginning of another one, so from the start of a quoted text on it is
certain at every point which character comes next. Hence different texts are different
when they are quoted. No written form holds a newline, so a quoted text is one line.

Codes and numbers are written in digits, and the digits of a number determine it.
-/

import Literate.Proofs.Spelling
import Literate.Text.Quoted
import Mathlib.Tactic.SplitIfs

namespace Literate

namespace Text

/-! ### Digits -/

section

variable {base : Nat}

/-- The digits of a number are among those of the base. -/
theorem exists_digit_of_mem_toDigits (several : 1 < base) {number : Nat} {character : Char}
    (member : character ∈ Nat.toDigits base number) :
    ∃ digit < base, character = digit.digitChar := by
  induction number using Nat.strongRecOn with
  | ind number inductionHypothesis =>
    by_cases small : number < base
    · rw [Nat.toDigits_of_lt_base small, List.mem_singleton] at member
      exact ⟨number, small, member⟩
    · have large : base ≤ number := Nat.le_of_not_lt small
      rw [Nat.toDigits_of_base_le several large, List.mem_append, List.mem_singleton] at member
      rcases member with inFront | last
      · exact inductionHypothesis _ (Nat.div_lt_self (by omega) several) inFront
      · exact ⟨number % base, Nat.mod_lt _ (by omega), last⟩

theorem digitChar_inj_of_lt : ∀ first < 16, ∀ second < 16,
    Nat.digitChar first = Nat.digitChar second → first = second := by decide

/-- Two numbers with the same digits are the same. -/
theorem toDigits_inj (several : 1 < base) (few : base ≤ 16) {first second : Nat}
    (same : Nat.toDigits base first = Nat.toDigits base second) : first = second := by
  -- The last digit is the remainder, and the digits in front of it are those of the quotient.
  induction first using Nat.strongRecOn generalizing second with
  | ind first inductionHypothesis =>
    have tooLong : ∀ {small large : Nat}, small < base → base ≤ large →
        Nat.toDigits base small ≠ Nat.toDigits base large := by
      intro small large isSmall isLarge same
      have lengths := congrArg List.length same
      have some : 0 < (Nat.toDigits base (large / base)).length := Nat.length_toDigits_pos
      rw [Nat.toDigits_of_lt_base isSmall, Nat.toDigits_of_base_le several isLarge,
        List.length_append, List.length_singleton] at lengths
      simp only [List.length_singleton] at lengths
      omega
    rcases Nat.lt_or_ge first base with smallFirst | largeFirst <;>
      rcases Nat.lt_or_ge second base with smallSecond | largeSecond
    · rw [Nat.toDigits_of_lt_base smallFirst, Nat.toDigits_of_lt_base smallSecond] at same
      exact digitChar_inj_of_lt first (by omega) second (by omega) (List.singleton_inj.mp same)
    · exact absurd same (tooLong smallFirst largeSecond)
    · exact absurd same.symm (tooLong smallSecond largeFirst)
    · rw [Nat.toDigits_of_base_le several largeFirst,
        Nat.toDigits_of_base_le several largeSecond] at same
      obtain ⟨sameFront, sameLast⟩ := List.append_inj' same rfl
      have quotients : first / base = second / base :=
        inductionHypothesis _ (Nat.div_lt_self (by omega) several) sameFront
      have isDigit (number : Nat) : number % base < 16 :=
        Nat.lt_of_lt_of_le (Nat.mod_lt number (Nat.zero_lt_of_lt several)) few
      have remainders : first % base = second % base :=
        digitChar_inj_of_lt _ (isDigit first) _ (isDigit second) (List.singleton_inj.mp sameLast)
      rw [← Nat.div_add_mod first base, quotients, remainders, Nat.div_add_mod]

end

/-- The characters that follow a number or a code, and the newline, are no digits. -/
theorem not_mem_toDigits {base : Nat} (several : 1 < base) (few : base ≤ 16) {mark : Char}
    (isMark : mark ∈ ['\x7d', ':', '\n']) (number : Nat) : mark ∉ Nat.toDigits base number := by
  have noMark : ∀ digit < 16, Nat.digitChar digit ∉ ['\x7d', ':', '\n'] := by decide
  intro member
  obtain ⟨digit, isDigit, rfl⟩ := exists_digit_of_mem_toDigits several member
  exact noMark digit (Nat.lt_of_lt_of_le isDigit few) isMark

theorem not_mem_ofNat {mark : Char} (isMark : mark ∈ ['\x7d', ':', '\n']) (number : Nat) :
    mark ∉ ofNat number := by
  rw [ofNat, Nat.toList_repr]
  exact not_mem_toDigits (by decide) (by decide) isMark number

theorem ofNat_inj {first second : Nat} (same : ofNat first = ofNat second) : first = second := by
  rw [ofNat, ofNat, Nat.toList_repr, Nat.toList_repr] at same
  exact toDigits_inj (by decide) (by decide) same

/-- What stands in front of the first mark, and what stands behind it, are determined. -/
theorem append_cons_inj {mark : Char} {first second rest other : Text} (absentFirst : mark ∉ first)
    (absentSecond : mark ∉ second) (same : first ++ mark :: rest = second ++ mark :: other) :
    first = second ∧ rest = other := by
  have cutFirst : cutAt? mark (first ++ mark :: rest) = some (first, rest) :=
    cutAt?_eq_some_iff.mpr ⟨rfl, absentFirst⟩
  have cutSecond : cutAt? mark (first ++ mark :: rest) = some (second, other) :=
    cutAt?_eq_some_iff.mpr ⟨same, absentSecond⟩
  exact Prod.mk.inj (Option.some.inj (cutFirst.symm.trans cutSecond))

/-! ### Written forms of characters -/

/-- The letters of the short escapes, each with the character that is meant. -/
def shortEscapes : List (Char × Char) :=
  [('"', '"'), ('\\', '\\'), ('t', '\t'), ('r', '\r'), ('n', '\n'), ('0', '\x00')]

/-- The ways in which a character can be written between quotes. -/
inductive WrittenAs (character : Char) : Text → Prop where
  | itself : character ∉ ['"', '\\', '\n'] → WrittenAs character [character]
  | short {letter : Char} : (letter, character) ∈ shortEscapes →
      WrittenAs character ['\\', letter]
  | code : WrittenAs character ('\\' :: 'u' :: '\x7b' :: (hexDigits character.toNat ++ ['\x7d']))

theorem writtenAs_quotedCharacter (character : Char) :
    WrittenAs character (quotedCharacter character) := by
  unfold quotedCharacter
  split_ifs with isQuote isBackslash isTab isReturn isNewline isZero
  · exact .short (by simp [shortEscapes, isQuote])
  · exact .short (by simp [shortEscapes, isBackslash])
  · exact .short (by simp [shortEscapes, isTab])
  · exact .short (by simp [shortEscapes, isReturn])
  · exact .short (by simp [shortEscapes, isNewline])
  · have zero : character = '\x00' := Char.toNat_inj.mp isZero
    exact .short (by simp [shortEscapes, zero])
  · exact .itself (by simp [isQuote, isBackslash, isNewline])
  · exact .code

/-- No written form of a character is the beginning of another one, so the character and what
follows it are determined. -/
theorem WrittenAs.inj {first second : Char} {form other rest behind : Text}
    (isForm : WrittenAs first form) (isOther : WrittenAs second other)
    (same : form ++ rest = other ++ behind) : first = second ∧ rest = behind := by
  have letters : ∀ escape ∈ shortEscapes, ∀ another ∈ shortEscapes, escape.1 = another.1 →
      escape.2 = another.2 := by decide
  have noCode : ∀ escape ∈ shortEscapes, escape.1 ≠ 'u' := by decide
  cases isForm with
  | itself plain =>
    cases isOther with
    | itself => exact List.cons_eq_cons.mp same
    | short | code =>
      obtain ⟨rfl, _⟩ := List.cons_eq_cons.mp same
      exact absurd (by decide) plain
  | short isEscape =>
    cases isOther with
    | itself plain =>
      obtain ⟨rfl, _⟩ := List.cons_eq_cons.mp same
      exact absurd (by decide) plain
    | short isAnother =>
      obtain ⟨sameLetter, sameRest⟩ := List.cons_eq_cons.mp (List.cons_eq_cons.mp same).2
      exact ⟨letters _ isEscape _ isAnother sameLetter, sameRest⟩
    | code =>
      exact absurd (List.cons_eq_cons.mp (List.cons_eq_cons.mp same).2).1 (noCode _ isEscape)
  | code =>
    cases isOther with
    | itself plain =>
      obtain ⟨rfl, _⟩ := List.cons_eq_cons.mp same
      exact absurd (by decide) plain
    | short isAnother =>
      exact absurd (List.cons_eq_cons.mp (List.cons_eq_cons.mp same).2).1.symm (noCode _ isAnother)
    | code =>
      have closing (number : Nat) : '\x7d' ∉ hexDigits number :=
        not_mem_toDigits (by decide) (by decide) (by decide) number
      simp only [List.cons_append, List.append_assoc, List.cons.injEq, true_and,
        List.nil_append] at same
      obtain ⟨sameCode, sameRest⟩ := append_cons_inj (closing _) (closing _) same
      exact ⟨Char.toNat_inj.mp (toDigits_inj (by decide) (by decide) sameCode), sameRest⟩

theorem WrittenAs.ne_nil {character : Char} {form : Text} (isForm : WrittenAs character form) :
    form ≠ [] := by
  cases isForm <;> exact List.cons_ne_nil _ _

theorem WrittenAs.newline_not_mem {character : Char} {form : Text}
    (isForm : WrittenAs character form) : '\n' ∉ form := by
  cases isForm with
  | itself plain =>
    rw [List.mem_singleton]
    rintro rfl
    exact plain (by decide)
  | short isEscape =>
    have noNewline : ∀ escape ∈ shortEscapes, '\n' ≠ escape.1 := by decide
    simpa using noNewline _ isEscape
  | code =>
    have noNewline : '\n' ∉ hexDigits character.toNat :=
      not_mem_toDigits (by decide) (by decide) (by decide) _
    simpa using noNewline

/-! ### Quoted texts -/

theorem flatMap_quotedCharacter_inj {first second : Text}
    (same : first.flatMap quotedCharacter = second.flatMap quotedCharacter) : first = second := by
  have isForm := writtenAs_quotedCharacter
  induction first generalizing second with
  | nil =>
    cases second with
    | nil => rfl
    | cons character second =>
      exact absurd (List.append_eq_nil_iff.mp same.symm).1 (isForm character).ne_nil
  | cons character first inductionHypothesis =>
    cases second with
    | nil => exact absurd (List.append_eq_nil_iff.mp same).1 (isForm character).ne_nil
    | cons another second =>
      rw [List.flatMap_cons, List.flatMap_cons] at same
      obtain ⟨sameFirst, sameRest⟩ := (isForm character).inj (isForm another) same
      rw [sameFirst, inductionHypothesis sameRest]

/-- A quoted text determines the text. -/
theorem quoted_inj {first second : Text} (same : quoted first = quoted second) :
    first = second := by
  obtain ⟨_, sameBody⟩ := List.cons_eq_cons.mp same
  exact flatMap_quotedCharacter_inj (List.append_cancel_right sameBody)

/-- A quoted text is one line. -/
theorem newline_not_mem_quoted (text : Text) : '\n' ∉ quoted text := by
  intro member
  rw [quoted, List.cons_append, List.mem_cons, List.mem_append, List.mem_singleton] at member
  rcases member with quote | inside | quote
  · cases quote
  · obtain ⟨character, _, inForm⟩ := List.mem_flatMap.mp inside
    exact (writtenAs_quotedCharacter character).newline_not_mem inForm
  · cases quote

end Text

end Literate
