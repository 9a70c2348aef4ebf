import Fleet.Proofs.Text
import Fleet.Telemetry.Exposition

/-!
# Malformed lines stay by themselves

A metrics text is read piece by piece between its line feeds. Cutting a text into lines treats the
last piece in another way than the pieces before it: it keeps its carriage return, and it is no line
if it is empty. Neither shows in the samples, since a line is trimmed and an empty one holds no
sample. So nothing is carried from one line to the next, and a text may be cut at any line feed.
-/

namespace Fleet.Telemetry

open Text

/-- A reader of lines reads the pieces between line feeds, if neither a return at the end of a piece
nor an empty piece makes a difference to it. -/
theorem filterMap_lines {Result : Type} {read : List Char → Option Result} (empty : read [] = none)
    (trailing : ∀ line, read (line ++ ['\r']) = read line) (text : List Char) :
    (lines text).filterMap read = (splitAt '\n' text).filterMap read := by
  have withoutReturn : ∀ line, read ((dropTail? ['\r'] line).getD line) = read line := by
    intro line
    cases dropped : dropTail? ['\r'] line with
    | none => rw [Option.getD_none]
    | some rest => rw [Option.getD_some, dropTail?_eq_some_iff.mp dropped, trailing]
  rcases List.eq_nil_or_concat (splitAt '\n' text) with none | ⟨terminated, last, pieces⟩
  · exact absurd none (splitAt_ne_nil '\n' text)
  · rw [List.concat_eq_append] at pieces
    have ending : (if last.isEmpty then [] else [last]).filterMap read = [last].filterMap read := by
      split
      · next none => rw [List.isEmpty_iff.mp none, List.filterMap_cons_none empty]
      · rfl
    simp only [lines, pieces, List.reverse_append, List.reverse_cons, List.reverse_nil,
      List.nil_append, List.singleton_append, List.reverse_reverse, List.filterMap_append,
      List.filterMap_map, Function.comp_def, withoutReturn, ending]

theorem ofLine?_nil : Sample.ofLine? [] = none := rfl

/-- Blanks at the end of a line are trimmed. -/
theorem ofLine?_append_of_blank {blanks : List Char} (all : ∀ blank ∈ blanks, isBlank blank = true)
    (line : List Char) : Sample.ofLine? (line ++ blanks) = Sample.ofLine? line := by
  rw [Sample.ofLine?, trim_append_of_blank all, Sample.ofLine?]

/-- The samples of a text are those of the pieces between its line feeds. -/
theorem readExposition_eq (text : String) :
    readExposition text = (splitAt '\n' text.toList).filterMap Sample.ofLine? := by
  have blank : ∀ character ∈ ['\r'], isBlank character = true :=
    List.forall_mem_singleton.mpr (by decide)
  exact filterMap_lines ofLine?_nil (ofLine?_append_of_blank blank) text.toList

/-- What a text holds is read independently of what precedes or follows it on other lines: quotes
and label blocks that are left open, returns, comments and missing line feeds have no effect
beyond their line. -/
theorem malformed_lines_contained (first second : String) :
    readExposition (first ++ "\n" ++ second) = readExposition first ++ readExposition second := by
  have joined : (first ++ "\n" ++ second).toList = first.toList ++ '\n' :: second.toList := by
    simp [String.toList_append]
  rw [readExposition_eq, readExposition_eq, readExposition_eq, joined, splitAt_append_separator,
    List.filterMap_append]

end Fleet.Telemetry
