/-
This file proves that a report on two texts loses nothing of their difference. The report
leaves out the lines that are equal, and says of every other line what it was expected to
be and what it is, or that one of the texts does not have it. All that is said about a
line begins with the number of the line, so it can be found among the rest; and since the
lines are shown in quoted form, it determines the line of the actual text. What is not
said determines the other lines, if the expected text is known. Together they are the
whole actual text.

The lines of the report itself are its headline and the remarks, because nothing in them
goes over the end of a line.
-/

import Literate.Comparison
import Literate.Proofs.Quoting

namespace Literate

namespace Comparison

/-! ### Remarks on one line -/

/-- How every remark on a line begins. -/
def label (number : Nat) : Text := Text.ofString "line " ++ Text.ofNat number ++ [':']

/-- What can be said of a line. -/
def phrases : List String := [": missing ", ": extra ", ": expected ", ":   actual "]

/-- All that is said about a line, which either of the texts may lack. -/
def said (number : Nat) : Option Text → Option Text → List Text
  | none, none => []
  | some expected, none => [remark number ": missing " expected]
  | none, some actual => [remark number ": extra " actual]
  | some expected, some actual =>
    if expected = actual then []
    else [remark number ": expected " expected, remark number ":   actual " actual]

/-- Remarks on different lines begin differently. -/
theorem label_prefix_remark_iff {words : String} (isPhrase : words ∈ phrases) {number other : Nat}
    {line : Text} : label number <+: remark other words line ↔ number = other := by
  have colon : ∀ words ∈ phrases, words.toList.head? = some ':' := by decide
  obtain ⟨rest, same⟩ := List.head?_eq_some_iff.mp (colon words isPhrase)
  constructor
  · rintro ⟨behind, whole⟩
    unfold label remark at whole
    rw [Text.ofString, Text.ofString, same, List.append_assoc, List.append_assoc, List.append_assoc,
      List.append_assoc] at whole
    have numbers := List.append_cancel_left whole
    exact Text.ofNat_inj (Text.append_cons_inj (Text.not_mem_ofNat (by decide) number)
      (Text.not_mem_ofNat (by decide) other) numbers).1
  · rintro rfl
    refine ⟨rest ++ Text.quoted line, ?_⟩
    unfold label remark
    rw [Text.ofString, Text.ofString, same]
    simp only [List.append_assoc, List.cons_append, List.nil_append]

theorem newline_not_mem_remark {words : String} (isPhrase : words ∈ phrases) (number : Nat)
    (line : Text) : '\n' ∉ remark number words line := by
  have oneLine : ∀ words ∈ phrases, '\n' ∉ words.toList := by decide
  have digits : '\n' ∉ Text.ofNat number := Text.not_mem_ofNat (by decide) number
  have start : '\n' ∉ Text.ofString "line " := by decide
  unfold remark
  simp only [List.mem_append, not_or]
  exact ⟨⟨⟨start, digits⟩, oneLine words isPhrase⟩, Text.newline_not_mem_quoted line⟩

theorem remark_inj {number : Nat} {words : String} {first second : Text}
    (same : remark number words first = remark number words second) : first = second :=
  Text.quoted_inj (List.append_cancel_left same)

variable {number other : Nat} {expected actual : Option Text} {entry : Text}

theorem exists_of_mem_said (member : entry ∈ said number expected actual) :
    ∃ words ∈ phrases, ∃ line, entry = remark number words line := by
  cases expected <;> cases actual <;> grind [said, phrases]

/-- Nothing is said about a line exactly if it is the same in both texts. -/
theorem said_eq_nil_iff : said number expected actual = [] ↔ expected = actual := by
  cases expected <;> cases actual <;> simp [said]

/-- What is said about a line determines the line of the actual text. -/
theorem said_inj {first second : Option Text}
    (same : said number expected first = said number expected second) : first = second := by
  by_cases unchanged : expected = first
  · have nothing := same.symm.trans (said_eq_nil_iff.mpr unchanged)
    exact unchanged.symm.trans (said_eq_nil_iff.mp nothing)
  · have changed : ¬expected = second := fun nothing =>
      unchanged (said_eq_nil_iff.mp (same.trans (said_eq_nil_iff.mpr nothing)))
    cases expected with
    | none =>
      obtain ⟨first, rfl⟩ := Option.ne_none_iff_exists'.mp (Ne.symm unchanged)
      obtain ⟨second, rfl⟩ := Option.ne_none_iff_exists'.mp (Ne.symm changed)
      exact congrArg some (remark_inj (List.singleton_inj.mp same))
    | some expected =>
      -- One remark says that the line is missing, and two say how it has changed.
      cases first with
      | none =>
        cases second with
        | none => rfl
        | some second =>
          rw [Option.some.injEq] at changed
          rw [said, said, if_neg changed] at same
          exact absurd (congrArg List.length same) (by simp)
      | some first =>
        rw [Option.some.injEq] at unchanged
        cases second with
        | none =>
          rw [said, said, if_neg unchanged] at same
          exact absurd (congrArg List.length same) (by simp)
        | some second =>
          rw [Option.some.injEq] at changed
          rw [said, said, if_neg unchanged, if_neg changed] at same
          obtain ⟨_, sameActual⟩ := List.cons_eq_cons.mp same
          exact congrArg some (remark_inj (List.singleton_inj.mp sameActual))

theorem filter_said (number other : Nat) (expected actual : Option Text) :
    (said number expected actual).filter (fun entry => label other <+: entry) =
      if other = number then said number expected actual else [] := by
  have labelled : ∀ entry ∈ said number expected actual,
      label other <+: entry ↔ other = number := by
    intro entry member
    obtain ⟨words, isPhrase, line, rfl⟩ := exists_of_mem_said member
    exact label_prefix_remark_iff isPhrase
  split
  · rename_i same
    exact List.filter_eq_self.mpr fun entry member =>
      decide_eq_true ((labelled entry member).mpr same)
  · rename_i different
    exact List.filter_eq_nil_iff.mpr fun entry member isPrefix =>
      different ((labelled entry member).mp (of_decide_eq_true isPrefix))

/-! ### Remarks on all lines -/

section

variable {expectedLines actualLines : List Text}

/-- The remarks on the first lines come before those on the others. -/
theorem remarks_eq (number : Nat) (expectedLines actualLines : List Text) :
    remarks number expectedLines actualLines =
      said number expectedLines.head? actualLines.head? ++
        remarks (number + 1) expectedLines.tail actualLines.tail := by
  cases expectedLines <;> cases actualLines <;> simp [remarks, said]
  split <;> rfl

/-- Among all remarks, those that begin with the number of a line are what is said about it. -/
theorem filter_remarks (number other : Nat) (expectedLines actualLines : List Text) :
    (remarks number expectedLines actualLines).filter (fun entry => label other <+: entry) =
      if number ≤ other then
        said other expectedLines[other - number]? actualLines[other - number]?
      else [] := by
  induction size : max expectedLines.length actualLines.length generalizing number expectedLines
    actualLines with
  | zero =>
    obtain ⟨rfl, rfl⟩ : expectedLines = [] ∧ actualLines = [] := by
      simp only [← List.length_eq_zero_iff]
      omega
    simp [remarks, said]
  | succ count inductionHypothesis =>
    have shorter : max expectedLines.tail.length actualLines.tail.length = count := by
      simp only [List.length_tail]
      omega
    rw [remarks_eq, List.filter_append, filter_said, inductionHypothesis _ _ _ shorter]
    rcases Nat.lt_trichotomy other number with before | same | behind
    · rw [if_neg (by omega), if_neg (by omega), if_neg (by omega)]
      rfl
    · subst same
      rw [if_pos rfl, if_neg (by omega), if_pos (Nat.le_refl _), List.append_nil, Nat.sub_self,
        List.head?_eq_getElem?, List.head?_eq_getElem?]
    · have later : other - number = other - (number + 1) + 1 := by omega
      rw [if_neg (by omega), if_pos (by omega), if_pos (by omega), List.nil_append, later,
        List.getElem?_tail, List.getElem?_tail]

/-- The remarks determine the actual lines. -/
theorem remarks_inj {first second : List Text}
    (same : remarks number expectedLines first = remarks number expectedLines second) :
    first = second := by
  refine List.ext_getElem? fun index => ?_
  have saidFirst := filter_remarks number (number + index) expectedLines first
  have saidSecond := filter_remarks number (number + index) expectedLines second
  rw [if_pos (Nat.le_add_right _ _), Nat.add_sub_cancel_left] at saidFirst saidSecond
  rw [same] at saidFirst
  exact said_inj (saidFirst.symm.trans saidSecond)

theorem newline_not_mem_of_mem_remarks {entry : Text}
    (member : entry ∈ remarks number expectedLines actualLines) : '\n' ∉ entry := by
  fun_induction remarks number expectedLines actualLines with
  | case1 => exact absurd member List.not_mem_nil
  | case2 number expected moreExpected inductionHypothesis =>
    rcases List.mem_cons.mp member with rfl | later
    · exact newline_not_mem_remark (by decide) number expected
    · exact inductionHypothesis later
  | case3 number actual moreActual inductionHypothesis =>
    rcases List.mem_cons.mp member with rfl | later
    · exact newline_not_mem_remark (by decide) number actual
    · exact inductionHypothesis later
  | case4 number moreExpected actual moreActual inductionHypothesis =>
    exact inductionHypothesis member
  | case5 number expected moreExpected actual moreActual _ inductionHypothesis =>
    rcases List.mem_cons.mp member with rfl | behind
    · exact newline_not_mem_remark (by decide) number expected
    rcases List.mem_cons.mp behind with rfl | later
    · exact newline_not_mem_remark (by decide) number actual
    · exact inductionHypothesis later

end

/-! ### Reports -/

/-- The first line of a report. -/
def headline (expected actual : Text) : Text :=
  Text.ofString "texts differ (" ++ Text.ofNat (Text.lines expected).length ++
    Text.ofString " expected lines, " ++ Text.ofNat (Text.lines actual).length ++
    Text.ofString " actual lines)"

/-- A report names a line: one of its own lines begins as the remarks on that line do. -/
def Names (report : Text) (number : Nat) : Prop :=
  ∃ entry ∈ Text.lines report, label number <+: entry

instance (report : Text) (number : Nat) : Decidable (Names report number) :=
  inferInstanceAs (Decidable (∃ entry ∈ Text.lines report, label number <+: entry))

variable {expected actual report : Text}

theorem newline_not_mem_headline (expected actual : Text) : '\n' ∉ headline expected actual := by
  have digits (number : Nat) : '\n' ∉ Text.ofNat number := Text.not_mem_ofNat (by decide) number
  have start : '\n' ∉ Text.ofString "texts differ (" := by decide
  have middle : '\n' ∉ Text.ofString " expected lines, " := by decide
  have finish : '\n' ∉ Text.ofString " actual lines)" := by decide
  unfold headline
  simp only [List.mem_append, not_or]
  exact ⟨⟨⟨⟨start, digits _⟩, middle⟩, digits _⟩, finish⟩

theorem not_label_prefix_headline (number : Nat) (expected actual : Text) :
    ¬ label number <+: headline expected actual := by
  rintro ⟨behind, same⟩
  have line : Text.ofString "line " = 'l' :: Text.ofString "ine " := rfl
  have texts : Text.ofString "texts differ (" = 't' :: Text.ofString "exts differ (" := rfl
  unfold label headline at same
  rw [line, texts] at same
  exact absurd (List.cons_eq_cons.mp same).1 (by decide)

/-- Texts with the same lines are the same. -/
theorem lines_inj {first second : Text} (same : Text.lines first = Text.lines second) :
    first = second := by
  rw [← Text.join_splitAt '\n' first, ← Text.join_splitAt '\n' second]
  exact congrArg (Text.join ['\n']) same

theorem exists_getElem?_lines_ne (different : expected ≠ actual) :
    ∃ index : Nat, (Text.lines expected)[index]? ≠ (Text.lines actual)[index]? :=
  Classical.not_forall.mp fun same => different (lines_inj (List.ext_getElem? same))

theorem remarks_ne_nil (different : expected ≠ actual) :
    remarks 1 (Text.lines expected) (Text.lines actual) ≠ [] := by
  intro nothing
  obtain ⟨index, differ⟩ := exists_getElem?_lines_ne different
  have quiet := filter_remarks 1 (1 + index) (Text.lines expected) (Text.lines actual)
  rw [nothing, if_pos (Nat.le_add_right _ _), Nat.add_sub_cancel_left] at quiet
  exact differ (said_eq_nil_iff.mp quiet.symm)

theorem report?_eq_none_iff : report? expected actual = none ↔ expected = actual := by
  rw [report?]
  split <;> simp_all

/-- The lines of a report are its headline and the remarks. -/
theorem lines_of_report? (made : report? expected actual = some report) :
    Text.lines report =
      headline expected actual :: remarks 1 (Text.lines expected) (Text.lines actual) := by
  rw [report?] at made
  split at made
  · cases made
  rename_i different
  have shape : report = headline expected actual ++
      '\n' :: Text.join ['\n'] (remarks 1 (Text.lines expected) (Text.lines actual)) := by
    have ending : Text.ofString " actual lines)\n" = Text.ofString " actual lines)" ++ ['\n'] := rfl
    unfold headline
    rw [← Option.some.inj made, ending]
    simp only [List.append_assoc, List.cons_append, List.nil_append]
  rw [shape, Text.lines, Text.splitAt_append_cons (newline_not_mem_headline expected actual),
    Text.splitAt_join (remarks_ne_nil different) fun _ => newline_not_mem_of_mem_remarks]

/-- A report names the lines in which the texts differ, and no others. -/
theorem names_iff (made : report? expected actual = some report) (number : Nat) :
    Names report number ↔ 0 < number ∧
      (Text.lines expected)[number - 1]? ≠ (Text.lines actual)[number - 1]? := by
  have named : Names report number ↔ (remarks 1 (Text.lines expected) (Text.lines actual)).filter
      (fun entry => label number <+: entry) ≠ [] := by
    rw [Names, lines_of_report? made, Ne, List.filter_eq_nil_iff]
    simp [not_label_prefix_headline]
  rw [named, filter_remarks]
  split
  · rename_i counts
    simp [said_eq_nil_iff, Nat.lt_of_succ_le counts]
  · rename_i isZero
    simp [show number = 0 by omega]

/-- A report determines the actual text. Two texts on which the report is the same, beside the same
expected text, are the same. For two different texts there is a report; it names a line, counted
from one, exactly if the texts have different lines in its place or only one of them has a line
there, and it names at least one line. -/
theorem report?_determines (expected : Text) :
    (∀ first second, report? expected first = report? expected second → first = second) ∧
    ∀ actual, expected ≠ actual →
      ∃ report, report? expected actual = some report ∧
        (∀ number, Names report number ↔ 0 < number ∧
          (Text.lines expected)[number - 1]? ≠ (Text.lines actual)[number - 1]?) ∧
        ∃ number, Names report number := by
  constructor
  · intro first second same
    cases made : report? expected first with
    | none =>
      have isFirst := report?_eq_none_iff.mp made
      have isSecond := report?_eq_none_iff.mp (same.symm.trans made)
      exact isFirst.symm.trans isSecond
    | some report =>
      have linesFirst := lines_of_report? made
      have linesSecond := lines_of_report? (same.symm.trans made)
      obtain ⟨_, sameRemarks⟩ := List.cons_eq_cons.mp (linesFirst.symm.trans linesSecond)
      exact lines_inj (remarks_inj sameRemarks)
  · intro actual different
    obtain ⟨report, made⟩ :=
      Option.ne_none_iff_exists'.mp fun none => different (report?_eq_none_iff.mp none)
    obtain ⟨index, differ⟩ := exists_getElem?_lines_ne different
    exact ⟨report, made, names_iff made, index + 1,
      (names_iff made _).mpr ⟨Nat.succ_pos index, differ⟩⟩

/-- A changed line, a line that both texts have, and two extra lines. A quote, and a backslash in
front of a quote, are told apart. -/
theorem report?_determines_quotes :
    let expected : Text := ['a', '\n', 'b']
    let actual : Text := ['"', '\n', 'b', '\n', '\n', 'c']
    expected ≠ actual ∧
      (∃ report, report? expected actual = some report ∧ Names report 1 ∧ ¬Names report 2 ∧
        Names report 3 ∧ Names report 4 ∧ ¬Names report 5) ∧
      report? expected actual ≠ report? expected ('\\' :: actual) := by
  intro expected actual
  have different : expected ≠ actual := by decide
  obtain ⟨determines, complete⟩ := report?_determines expected
  obtain ⟨report, made, names, _⟩ := complete actual different
  refine ⟨different, ⟨report, made, ?_⟩, fun same => absurd (determines _ _ same) (by decide)⟩
  simp only [names]
  decide

end Comparison

end Literate
