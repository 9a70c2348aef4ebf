import Fleet.Binary64.Reading
import Fleet.Decimal.Layout
import Fleet.Proofs.Text

/-!
# Written numbers are read

The numbers that are written positionally are words, and each of them is read as some value.
-/

namespace Fleet.Decimal

open Text

/-- A number without a sign: digits, and possibly a point and more digits. -/
inductive IsNumeral : List Char → Prop where
  | whole {digits : List Char} (nonempty : digits ≠ [])
      (all : ∀ digit ∈ digits, isDigit digit = true) : IsNumeral digits
  | pointed {digits fraction : List Char} (nonempty : digits ≠ [])
      (all : ∀ digit ∈ digits, isDigit digit = true)
      (others : ∀ digit ∈ fraction, isDigit digit = true) : IsNumeral (digits ++ '.' :: fraction)

/-- A word that is read as a number. -/
structure IsNumber (text : List Char) : Prop extends IsWord text where
  readable : (Binary64.ofText? text).isSome

namespace IsNumeral

variable {text : List Char}

theorem exists_cons (numeral : IsNumeral text) :
    ∃ first rest, text = first :: rest ∧ isDigit first = true := by
  cases numeral with
  | whole nonempty all =>
      obtain ⟨first, rest, rfl⟩ := List.exists_cons_of_ne_nil nonempty
      exact ⟨first, rest, rfl, all first List.mem_cons_self⟩
  | pointed nonempty all =>
      obtain ⟨first, rest, rfl⟩ := List.exists_cons_of_ne_nil nonempty
      exact ⟨first, _, List.cons_append, all first List.mem_cons_self⟩

theorem isWord (numeral : IsNumeral text) : IsWord text := by
  refine ⟨?_, ?_⟩
  · obtain ⟨first, rest, rfl, -⟩ := numeral.exists_cons
    exact List.cons_ne_nil first rest
  · intro character among
    cases numeral with
    | whole _ all => exact isBlank_of_isDigit (all character among)
    | pointed _ all others =>
        rcases List.mem_append.mp among with digit | rest
        · exact isBlank_of_isDigit (all character digit)
        · rcases List.mem_cons.mp rest with rfl | digit
          · decide
          · exact isBlank_of_isDigit (others character digit)

theorem readDecimal?_isSome (numeral : IsNumeral text) (negative : Bool) :
    (Binary64.readDecimal? negative text).isSome := by
  cases numeral with
  | whole nonempty all =>
      simp [Binary64.readDecimal?, List.takeWhile_eq_self_iff.mpr all,
        List.dropWhile_eq_nil_iff.mpr all, nonempty]
  | pointed nonempty all others =>
      have point : isDigit '.' = false := by decide
      simp [Binary64.readDecimal?, List.takeWhile_append_of_pos all,
        List.dropWhile_append_of_pos all, List.takeWhile_eq_self_iff.mpr others,
        List.dropWhile_eq_nil_iff.mpr others, point, nonempty]

/-- The value of a numeral, with or without a minus, does not depend on the words for infinity. -/
theorem ofText?_isSome (numeral : IsNumeral text) :
    (Binary64.ofText? text).isSome ∧ (Binary64.ofText? ('-' :: text)).isSome := by
  have read := numeral.readDecimal?_isSome
  obtain ⟨first, rest, rfl, digit⟩ := numeral.exists_cons
  have lower : toLower first = first := by
    simp only [isDigit, Bool.and_eq_true, decide_eq_true_eq] at digit
    rw [toLower, if_neg (by omega)]
  have word : first ≠ 'i' ∧ first ≠ 'n' := by
    constructor <;> rintro rfl <;> exact absurd digit (by decide)
  have sign : first ≠ '-' ∧ first ≠ '+' := by
    constructor <;> rintro rfl <;> exact absurd digit (by decide)
  have unsigned : Binary64.splitSign (first :: rest) = (false, first :: rest) := by
    simp [Binary64.splitSign, sign]
  have signed : Binary64.splitSign ('-' :: first :: rest) = (true, first :: rest) := rfl
  simp [Binary64.ofText?, unsigned, signed, lower, word, read]

theorem isNumber (numeral : IsNumeral text) : IsNumber text :=
  ⟨numeral.isWord, numeral.ofText?_isSome.1⟩

theorem isNumber_minus (numeral : IsNumeral text) : IsNumber ('-' :: text) := by
  refine ⟨⟨List.cons_ne_nil _ _, ?_⟩, numeral.ofText?_isSome.2⟩
  intro character among
  rcases List.mem_cons.mp among with rfl | rest
  · decide
  · exact numeral.isWord.visible character rest

end IsNumeral

theorem isNumeral_toDigits (number : Nat) : IsNumeral (Nat.toDigits 10 number) :=
  .whole Nat.toDigits_ne_nil fun _ among => isDigit_of_mem_toDigits among

theorem isDigit_of_mem_replicate {count : Nat} {digit : Char}
    (among : digit ∈ List.replicate count '0') : isDigit digit = true := by
  rw [List.eq_of_mem_replicate among]
  decide

/-- Digits in positional notation are a numeral if nothing marks whole numbers. -/
theorem isNumeral_positionalText {digits : List Char} (nonempty : digits ≠ [])
    (all : ∀ digit ∈ digits, isDigit digit = true) (point : Int) :
    IsNumeral (positionalText digits point []) := by
  have zero : isDigit '0' = true := by decide
  rw [positionalText]
  split
  · refine IsNumeral.pointed (List.cons_ne_nil '0' []) (List.forall_mem_singleton.mpr zero) ?_
    intro digit among
    rcases List.mem_append.mp among with zero | digit
    · exact isDigit_of_mem_replicate zero
    · exact all _ digit
  · dsimp only
    split
    · rw [List.append_nil]
      refine .whole (by simp [nonempty]) ?_
      intro digit among
      rcases List.mem_append.mp among with digit | zero
      · exact all _ digit
      · exact isDigit_of_mem_replicate zero
    · refine .pointed ?_ ?_ ?_
      · simp [List.take_eq_nil_iff, nonempty]
        omega
      · exact fun digit among => all digit (List.mem_of_mem_take among)
      · exact fun digit among => all digit (List.mem_of_mem_drop among)

theorem isNumber_of_sign (negative : Bool) {magnitude : List Char}
    (numeral : IsNumeral magnitude) :
    IsNumber (if negative then '-' :: magnitude else magnitude) := by
  cases negative with
  | false => exact numeral.isNumber
  | true => exact numeral.isNumber_minus

theorem isNumber_nan : IsNumber "NaN".toList :=
  ⟨by decide, by decide⟩

theorem isNumber_infinite (negative : Bool) :
    IsNumber (if negative then "-inf" else "inf").toList := by
  cases negative <;> exact ⟨by decide, by decide⟩

/-- A value in the layout of metrics is read as a number. -/
theorem isNumber_plain (value : Binary64) : IsNumber (plain.write value) := by
  cases value with
  | notANumber pattern => exact isNumber_nan
  | infinite negative => exact isNumber_infinite negative
  | finite value =>
      apply isNumber_of_sign
      split
      · exact .whole (List.cons_ne_nil '0' []) (List.forall_mem_singleton.mpr (by decide))
      · exact isNumeral_positionalText Nat.toDigits_ne_nil
          (fun _ among => isDigit_of_mem_toDigits among) _

/-- A value with a fixed number of digits after the point is read as a number. -/
theorem isNumber_fixedText (places : Nat) (value : Binary64) :
    IsNumber (fixedText places value) := by
  cases value with
  | notANumber pattern => exact isNumber_nan
  | infinite negative =>
      cases negative with
      | false => exact isNumber_infinite false
      | true => exact isNumber_infinite true
  | finite value =>
      apply isNumber_of_sign
      have all : ∀ digit ∈ paddedDigits (places + 1) (fixed places value),
          isDigit digit = true := by
        intro digit among
        rcases List.mem_append.mp among with zero | digit
        · exact isDigit_of_mem_replicate zero
        · exact isDigit_of_mem_toDigits digit
      have long : places < (paddedDigits (places + 1) (fixed places value)).length := by
        simp only [paddedDigits, List.length_append, List.length_replicate]
        omega
      generalize paddedDigits (places + 1) (fixed places value) = digits at all long
      have nonempty : digits.take (digits.length - places) ≠ [] := by
        apply List.ne_nil_of_length_pos
        rw [List.length_take]
        omega
      have whole : ∀ digit ∈ digits.take (digits.length - places), isDigit digit = true :=
        fun digit among => all digit (List.mem_of_mem_take among)
      split
      · exact .whole nonempty whole
      · exact .pointed nonempty whole fun digit among => all digit (List.mem_of_mem_drop among)

end Fleet.Decimal
