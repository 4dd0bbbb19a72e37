/-
This file fixes what a text is for the rest of the library: a list of characters,
so that every statement about documents, names and paths is a statement about
lists. It holds the few cuts of a text that more than one format needs: the
first occurrence of a character, the part between two markers, the lines, and
the pieces between separators. Cutting a text into pieces and joining them undo
each other.
-/

namespace Literate

/-- A text is its characters in order. -/
abbrev Text := List Char

namespace Text

/-- The text written by a string literal. -/
abbrev ofString (written : String) : Text := written.toList

/-- The string that holds the characters of a text. -/
def written (text : Text) : String := String.ofList text

/-! ### Cutting at a character -/

/-- The parts before and after the first occurrence of a character, which itself is in neither.
There is no cut when the character does not occur. -/
def cutAt? (mark : Char) : Text → Option (Text × Text)
  | [] => none
  | first :: rest =>
    if first = mark then some ([], rest)
    else (cutAt? mark rest).map fun parts => (first :: parts.1, parts.2)

/-- The pieces between the occurrences of a character. There is always at least one piece, and
joining the pieces with that character gives the text back. -/
def splitAt (mark : Char) : Text → List Text
  | [] => [[]]
  | first :: rest =>
    if first = mark then [] :: splitAt mark rest
    else
      match splitAt mark rest with
      | [] => [[first]]
      | piece :: pieces => (first :: piece) :: pieces

/-- The lines of a text, cut at newlines only: a final newline is followed by one empty line. -/
abbrev lines (text : Text) : List Text := splitAt '\n' text

/-- Texts written one after the other with a separator between neighbours. -/
def join (separator : Text) : List Text → Text
  | [] => []
  | [last] => last
  | first :: second :: rest => first ++ separator ++ join separator (second :: rest)

theorem join_cons {separator first : Text} {rest : List Text} (more : rest ≠ []) :
    join separator (first :: rest) = first ++ separator ++ join separator rest := by
  obtain ⟨second, rest, rfl⟩ := List.exists_cons_of_ne_nil more
  rfl

/-- A text has one piece more than there are marks in it. -/
theorem length_splitAt (mark : Char) (text : Text) :
    (splitAt mark text).length = text.count mark + 1 := by
  fun_induction splitAt mark text with
  | case1 => rfl
  | case2 rest inductionHypothesis => simp [inductionHypothesis]
  | case3 first rest different none inductionHypothesis => simp [none] at inductionHypothesis
  | case4 first rest different piece pieces same inductionHypothesis =>
    rw [same] at inductionHypothesis
    rw [List.count_cons_of_ne different, ← inductionHypothesis]
    rfl

theorem splitAt_ne_nil (mark : Char) (text : Text) : splitAt mark text ≠ [] :=
  List.ne_nil_of_length_eq_add_one (length_splitAt mark text)

theorem join_splitAt (mark : Char) (text : Text) : join [mark] (splitAt mark text) = text := by
  fun_induction splitAt mark text with
  | case1 => rfl
  | case2 rest inductionHypothesis =>
    rw [join_cons (splitAt_ne_nil mark rest), inductionHypothesis]
    rfl
  | case3 first rest different none => exact absurd none (splitAt_ne_nil mark rest)
  | case4 first rest different piece pieces same inductionHypothesis =>
    rw [same] at inductionHypothesis
    rw [← inductionHypothesis]
    cases pieces <;> rfl

theorem splitAt_of_not_mem {mark : Char} {line : Text} (absent : mark ∉ line) :
    splitAt mark line = [line] := by
  induction line with
  | nil => rfl
  | cons first line inductionHypothesis =>
    obtain ⟨different, absentBehind⟩ := List.ne_and_not_mem_of_not_mem_cons absent
    rw [splitAt, if_neg different.symm, inductionHypothesis absentBehind]

/-- The first piece is what stands in front of the first mark. -/
theorem splitAt_append_cons {mark : Char} {line : Text} (absent : mark ∉ line) (rest : Text) :
    splitAt mark (line ++ mark :: rest) = line :: splitAt mark rest := by
  induction line with
  | nil => exact if_pos rfl
  | cons first line inductionHypothesis =>
    obtain ⟨different, absentBehind⟩ := List.ne_and_not_mem_of_not_mem_cons absent
    rw [List.cons_append, splitAt, if_neg different.symm, inductionHypothesis absentBehind]

/-- Pieces without marks are found again in the text that they are joined to. -/
theorem splitAt_join {mark : Char} {pieces : List Text} (some : pieces ≠ [])
    (absent : ∀ piece ∈ pieces, mark ∉ piece) : splitAt mark (join [mark] pieces) = pieces := by
  induction pieces with
  | nil => exact absurd rfl some
  | cons piece pieces inductionHypothesis =>
    obtain ⟨absentFirst, absentRest⟩ := List.forall_mem_cons.mp absent
    by_cases last : pieces = []
    · subst last
      exact splitAt_of_not_mem absentFirst
    · rw [join_cons last, List.append_assoc, List.singleton_append,
        splitAt_append_cons absentFirst, inductionHypothesis last absentRest]

/-! ### The part between markers -/

/-- What follows an opening marker, when the text starts with it. -/
def afterOpening? : Text → Text → Option Text
  | [], text => some text
  | _ :: _, [] => none
  | mark :: marks, first :: rest => if first = mark then afterOpening? marks rest else none

/-- What precedes a closing marker, when the text ends with it. -/
def beforeClosing? (closing text : Text) : Option Text :=
  (afterOpening? closing.reverse text.reverse).map List.reverse

/-- What stands between an opening and a closing marker, when the text starts with the one and
the remainder ends with the other. -/
def enclosed? (opening closing text : Text) : Option Text :=
  (afterOpening? opening text).bind (beforeClosing? closing)

/-! ### Numbers and sizes -/

/-- The decimal digits of a number. -/
def ofNat (number : Nat) : Text := (Nat.repr number).toList

/-- The number of bytes that the characters of a text take in UTF-8. -/
def byteLength (text : Text) : Nat :=
  text.foldr (fun character size => character.utf8Size + size) 0

end Text

end Literate
