import Fleet.Text.Blank
import Fleet.Text.Cut
import Fleet.Text.Digits
import Mathlib.Data.List.TakeWhile
import Mathlib.Data.Nat.Digits.Defs

/-!
# Taking written text apart

A text that was put together from pieces, lines, words and digits is taken apart into them again.
-/

namespace Fleet.Text

/-! ## Pieces -/

theorem dropHead?_eq_some_iff {head text rest : List Char} :
    dropHead? head text = some rest ↔ text = head ++ rest := by
  induction head generalizing text with
  | nil => simp [dropHead?]
  | cons expected head ih =>
      cases text with
      | nil => simp [dropHead?]
      | cons character text =>
          by_cases same : expected = character
          · rw [dropHead?, if_pos same, ih, same, List.cons_append, List.cons.injEq,
              eq_self_iff_true, true_and]
          · simp [dropHead?, same, Ne.symm same]

theorem dropHead?_append (head rest : List Char) : dropHead? head (head ++ rest) = some rest :=
  dropHead?_eq_some_iff.mpr rfl

theorem dropTail?_eq_some_iff {tail text rest : List Char} :
    dropTail? tail text = some rest ↔ text = rest ++ tail := by
  rw [dropTail?, Option.map_eq_some_iff]
  constructor
  · rintro ⟨reversed, dropped, rfl⟩
    rw [← List.reverse_inj, dropHead?_eq_some_iff.mp dropped]
    simp
  · rintro rfl
    exact ⟨rest.reverse, dropHead?_eq_some_iff.mpr List.reverse_append, List.reverse_reverse rest⟩

theorem dropTail?_append (rest tail : List Char) : dropTail? tail (rest ++ tail) = some rest :=
  dropTail?_eq_some_iff.mpr rfl

theorem dropTail?_eq_none {tail text : List Char} {last : Char} (ends : tail.getLast? = some last)
    (other : text.getLast? ≠ some last) : dropTail? tail text = none := by
  cases dropped : dropTail? tail text with
  | none => rfl
  | some rest =>
    rw [dropTail?_eq_some_iff.mp dropped, List.getLast?_append, ends] at other
    exact absurd rfl other

theorem exists_eq_dropTrailing_append (drop : Char → Bool) (text : List Char) :
    ∃ dropped, text = dropTrailing drop text ++ dropped ∧
      ∀ character ∈ dropped, drop character = true := by
  refine ⟨(text.reverse.takeWhile drop).reverse, ?_, fun character among => ?_⟩
  · rw [dropTrailing, ← List.reverse_append, List.takeWhile_append_dropWhile, List.reverse_reverse]
  · exact List.mem_takeWhile_imp (List.mem_reverse.mp among)

theorem drop_eq_false_of_getLast? {drop : Char → Bool} {text : List Char} {last : Char}
    (ends : (dropTrailing drop text).getLast? = some last) : drop last = false := by
  have kept := List.head?_dropWhile_not drop text.reverse
  rw [dropTrailing, List.getLast?_reverse] at ends
  rwa [ends] at kept

/-- The parts of a text that is cut make it up. -/
theorem eq_of_cutAt? {separator text before after : List Char}
    (cut : cutAt? separator text = some (before, after)) :
    text = before ++ (separator ++ after) := by
  induction text generalizing before with
  | nil =>
      rw [cutAt?] at cut
      split at cut
      · next empty =>
        rw [List.isEmpty_iff.mp empty]
        cases cut
        rfl
      · cases cut
  | cons character rest ih =>
      rw [cutAt?] at cut
      split at cut
      · next found =>
        cases cut
        rwa [dropHead?_eq_some_iff] at found
      · obtain ⟨⟨earlier, remaining⟩, later, same⟩ := Option.map_eq_some_iff.mp cut
        cases same
        rw [ih later, List.cons_append]

/-- A text is cut where the separator stands, if its first character does not occur earlier. -/
theorem cutAt?_append {first : Char} {before : List Char} (free : first ∉ before)
    (separator after : List Char) :
    cutAt? (first :: separator) (before ++ (first :: separator ++ after)) =
      some (before, after) := by
  induction before with
  | nil =>
      rw [List.nil_append, List.cons_append, cutAt?, ← List.cons_append, dropHead?_append]
  | cons character before ih =>
      rw [List.mem_cons, not_or] at free
      rw [List.cons_append, cutAt?, dropHead?, if_neg free.1, ih free.2]
      rfl

/-! ## Bytes -/

theorem byteLength_append (start rest : List Char) :
    byteLength (start ++ rest) = byteLength start + byteLength rest := by
  simp [byteLength, String.ofList_append]

theorem byteLength_cons (character : Char) (rest : List Char) :
    byteLength (character :: rest) = character.utf8Size + byteLength rest := by
  simp [byteLength, String.ofList_cons]

/-- A number of bytes that are whole characters is cut off. -/
theorem dropBytes?_append (start rest : List Char) :
    dropBytes? (byteLength start) (start ++ rest) = some rest := by
  induction start with
  | nil => simp [byteLength, dropBytes?]
  | cons character start ih =>
      have size := character.utf8Size_pos
      have long := byteLength_cons character start
      rcases Nat.exists_eq_add_one.mpr (by omega : 0 < byteLength (character :: start)) with
        ⟨count, same⟩
      have fits : character.utf8Size ≤ count + 1 := by omega
      have later : count + 1 - character.utf8Size = byteLength start := by omega
      rw [same, List.cons_append, dropBytes?, if_pos fits, later, ih]

/-! ## Lines -/

theorem splitAt_append_cons {separator : Char} {piece : List Char} (free : separator ∉ piece)
    (rest : List Char) :
    splitAt separator (piece ++ separator :: rest) = piece :: splitAt separator rest := by
  induction piece with
  | nil => simp [splitAt]
  | cons character piece ih =>
      simp only [List.mem_cons, not_or] at free
      simp only [List.cons_append, splitAt, if_neg (Ne.symm free.1), ih free.2]

theorem splitAt_of_not_mem {separator : Char} {piece : List Char} (free : separator ∉ piece) :
    splitAt separator piece = [piece] := by
  induction piece with
  | nil => rfl
  | cons character piece ih =>
      simp only [List.mem_cons, not_or] at free
      simp only [splitAt, if_neg (Ne.symm free.1), ih free.2]

theorem splitAt_ne_nil (separator : Char) (text : List Char) : splitAt separator text ≠ [] := by
  cases text with
  | nil => simp [splitAt]
  | cons character rest =>
      simp only [splitAt]
      split
      · simp
      · split <;> simp

/-- A text is cut at each separator, whatever stands before and after it. -/
theorem splitAt_append_separator (separator : Char) (first second : List Char) :
    splitAt separator (first ++ separator :: second) =
      splitAt separator first ++ splitAt separator second := by
  induction first with
  | nil => simp [splitAt]
  | cons character first ih =>
      simp only [List.cons_append, splitAt, ih]
      split
      · rfl
      · cases pieces : splitAt separator first with
        | nil => exact absurd pieces (splitAt_ne_nil separator first)
        | cons piece others => rfl

/-- The pieces of a text, joined again, are the text. -/
theorem intercalate_splitAt (separator : Char) (text : List Char) :
    [separator].intercalate (splitAt separator text) = text := by
  induction text with
  | nil => simp [splitAt, List.intercalate]
  | cons character rest ih =>
      simp only [splitAt]
      split
      · next separates =>
        rw [List.intercalate_cons_of_ne_nil (splitAt_ne_nil separator rest), ih, separates]
        rfl
      · cases pieces : splitAt separator rest with
        | nil => exact absurd pieces (splitAt_ne_nil separator rest)
        | cons piece others =>
          rw [pieces] at ih
          cases others with
          | nil => simpa [List.intercalate] using ih
          | cons next others =>
            rw [List.intercalate_cons_cons] at ih ⊢
            simpa using ih

/-- What can stand on a line of its own, before a line feed. -/
structure IsLine (text : List Char) : Prop where
  feedless : '\n' ∉ text
  returnless : text.getLast? ≠ some '\r'

instance : DecidablePred IsLine :=
  fun _ => decidable_of_iff (_ ∧ _) ⟨fun parts => ⟨parts.1, parts.2⟩, fun line => ⟨line.1, line.2⟩⟩

theorem IsLine.dropTail?_return {text : List Char} (line : IsLine text) :
    dropTail? ['\r'] text = none :=
  dropTail?_eq_none rfl line.returnless

theorem IsLine.append_cons {start rest : List Char} {character : Char} (free : '\n' ∉ start)
    (line : IsLine (character :: rest)) : IsLine (start ++ character :: rest) := by
  refine ⟨?_, ?_⟩
  · rw [List.mem_append, not_or]
    exact ⟨free, line.feedless⟩
  · have last := line.returnless
    rw [List.getLast?_cons] at last
    rwa [List.getLast?_append, List.getLast?_cons, Option.some_or]

theorem IsLine.cons_space {text : List Char} (line : IsLine text) : IsLine (' ' :: text) := by
  refine ⟨?_, ?_⟩
  · simp [line.feedless]
  · have last := line.returnless
    rw [List.getLast?_cons]
    cases ends : text.getLast? with
    | none => decide
    | some character => rwa [ends] at last

/-- A line that is put before a text is its first line. -/
theorem lines_append_cons {line : List Char} (whole : IsLine line) (rest : List Char) :
    lines (line ++ '\n' :: rest) = line :: lines rest := by
  simp only [lines, splitAt_append_cons whole.feedless, List.reverse_cons]
  cases reversed : (splitAt '\n' rest).reverse with
  | nil => exact absurd (List.reverse_eq_nil_iff.mp reversed) (splitAt_ne_nil _ _)
  | cons last terminated => simp [whole.dropTail?_return]

/-! ## Blanks -/

theorem trimEnd_append {start : List Char} {last : Char} (ends : start.getLast? = some last)
    (visible : isBlank last = false) (rest : List Char) :
    trimEnd (start ++ rest) = start ++ trimEnd rest := by
  induction start with
  | nil => cases ends
  | cons character start ih =>
      cases start with
      | nil =>
          obtain rfl : character = last := by simpa using ends
          rw [List.singleton_append, trimEnd]
          cases trimEnd rest <;> simp [visible]
      | cons next start =>
          rw [List.cons_append, trimEnd, ih (by simpa using ends)]
          rfl

theorem trimEnd_of_getLast? {text : List Char} {last : Char} (ends : text.getLast? = some last)
    (visible : isBlank last = false) : trimEnd text = text := by
  have kept := trimEnd_append ends visible []
  rwa [trimEnd, List.append_nil] at kept

theorem trimStart_cons {first : Char} (visible : isBlank first = false) (rest : List Char) :
    trimStart (first :: rest) = first :: rest :=
  List.dropWhile_cons_of_neg (by simp [visible])

/-- Only blanks stand before what is left of a text without its leading blanks. -/
theorem exists_eq_append_of_trimStart {text rest : List Char} {first : Char}
    (left : trimStart text = first :: rest) :
    ∃ blanks, text = blanks ++ first :: rest ∧ ∀ blank ∈ blanks, isBlank blank = true := by
  refine ⟨text.takeWhile isBlank, ?_, fun _ => List.mem_takeWhile_imp⟩
  rw [← left, trimStart, List.takeWhile_append_dropWhile]

theorem trimStart_append_cons {blanks : List Char} (all : ∀ blank ∈ blanks, isBlank blank = true)
    {first : Char} (visible : isBlank first = false) (rest : List Char) :
    trimStart (blanks ++ first :: rest) = first :: rest := by
  rw [trimStart, List.dropWhile_append_of_pos all, ← trimStart, trimStart_cons visible]

theorem head?_trim_cons {first : Char} (visible : isBlank first = false) (rest : List Char) :
    (trim (first :: rest)).head? = some first := by
  rw [trim, trimStart_cons visible, trimEnd]
  split
  · simp [visible]
  · rfl

/-- What stays of a text that starts and ends with visible characters before a rest. -/
theorem trim_append {first last : Char} {start : List Char} (begins : start.head? = some first)
    (ends : start.getLast? = some last) (firstVisible : isBlank first = false)
    (lastVisible : isBlank last = false) (rest : List Char) :
    trim (start ++ rest) = start ++ trimEnd rest := by
  obtain ⟨tail, rfl⟩ := List.head?_eq_some_iff.mp begins
  rw [trim, List.cons_append, trimStart_cons firstVisible, ← List.cons_append,
    trimEnd_append ends lastVisible]

/-- What is cut from the end of a text is blank. -/
theorem exists_eq_trimEnd_append (text : List Char) :
    ∃ blanks, text = trimEnd text ++ blanks ∧ ∀ blank ∈ blanks, isBlank blank = true := by
  induction text with
  | nil => exact ⟨[], rfl, by simp⟩
  | cons character rest ih =>
      obtain ⟨blanks, same, all⟩ := ih
      rw [trimEnd]
      cases kept : trimEnd rest with
      | nil =>
        rw [kept, List.nil_append] at same
        by_cases blank : isBlank character = true
        · exact ⟨character :: rest, by simp [blank], by simpa [blank, same] using all⟩
        · exact ⟨rest, by simp [blank], same ▸ all⟩
      | cons first others =>
        rw [kept] at same
        exact ⟨blanks, congrArg (character :: ·) same, all⟩

theorem trim_infix (text : List Char) : trim text <:+: text := by
  obtain ⟨blanks, same, -⟩ := exists_eq_trimEnd_append (trimStart text)
  have start : trim text <+: trimStart text := ⟨blanks, same.symm⟩
  exact start.isInfix.trans (List.dropWhile_suffix isBlank).isInfix

theorem isBlank_of_head?_trim {text : List Char} {first : Char}
    (begins : (trim text).head? = some first) : isBlank first = false := by
  obtain ⟨rest, trimmed⟩ := List.head?_eq_some_iff.mp begins
  obtain ⟨blanks, whole, -⟩ := exists_eq_trimEnd_append (trimStart text)
  have visible := List.head?_dropWhile_not isBlank text
  change text.dropWhile isBlank = trim text ++ blanks at whole
  rw [whole, trimmed, List.cons_append, List.head?_cons] at visible
  exact visible

theorem trimEnd_of_blank {blanks : List Char} (all : ∀ blank ∈ blanks, isBlank blank = true) :
    trimEnd blanks = [] := by
  induction blanks with
  | nil => rfl
  | cons blank blanks ih =>
      rw [List.forall_mem_cons] at all
      rw [trimEnd, ih all.2]
      simp only [all.1, if_true]

section BlankRun

variable {blanks : List Char} (all : ∀ blank ∈ blanks, isBlank blank = true) (text : List Char)

include all

theorem trimEnd_append_of_blank : trimEnd (text ++ blanks) = trimEnd text := by
  induction text with
  | nil => rw [List.nil_append, trimEnd_of_blank all, trimEnd]
  | cons character text ih => rw [List.cons_append, trimEnd, trimEnd, ih]

theorem trim_append_of_blank : trim (text ++ blanks) = trim text := by
  rw [trim, trim, trimStart, trimStart, List.dropWhile_append]
  split
  · next empty => rw [List.isEmpty_iff.mp empty, List.dropWhile_eq_nil_iff.mpr all]
  · exact trimEnd_append_of_blank all _

theorem trim_blank_append : trim (blanks ++ text) = trim text := by
  rw [trim, trim, trimStart, trimStart, List.dropWhile_append_of_pos all]

end BlankRun

/-- What is cut from a text at both ends is blank. -/
theorem exists_eq_append_trim (text : List Char) :
    ∃ before after, text = before ++ (trim text ++ after) ∧
      (∀ blank ∈ before, isBlank blank = true) ∧ ∀ blank ∈ after, isBlank blank = true := by
  rcases exists_eq_trimEnd_append (trimStart text) with ⟨after, same, blank⟩
  refine ⟨text.takeWhile isBlank, after, ?_, fun _ => List.mem_takeWhile_imp, blank⟩
  rw [trim, ← same, trimStart, List.takeWhile_append_dropWhile]

/-- A word: a text without blanks that is not empty. -/
structure IsWord (text : List Char) : Prop where
  nonempty : text ≠ []
  visible : ∀ character ∈ text, isBlank character = false

instance : DecidablePred IsWord :=
  fun text => decidable_of_iff (text ≠ [] ∧ text.all (!isBlank ·) = true) <| by
    simp only [List.all_eq_true, Bool.not_eq_true']
    exact ⟨fun parts => ⟨parts.1, parts.2⟩, fun word => ⟨word.nonempty, word.visible⟩⟩

theorem IsWord.firstWord? {word : List Char} (whole : IsWord word) :
    Text.firstWord? word = some word := by
  obtain ⟨first, rest, rfl⟩ := List.exists_cons_of_ne_nil whole.nonempty
  have all : ∀ character ∈ first :: rest, (!isBlank character) = true := by
    intro character among
    rw [whole.visible character among]
    rfl
  rw [Text.firstWord?, trimStart_cons (whole.visible first List.mem_cons_self),
    List.takeWhile_eq_self_iff.mpr all]

theorem firstWord?_cons_of_isBlank {blank : Char} (isBlank : isBlank blank = true)
    (rest : List Char) : firstWord? (blank :: rest) = firstWord? rest := by
  rw [firstWord?, trimStart, List.dropWhile_cons_of_pos isBlank]
  rfl

/-! ## Letters and digits -/

/-- No printable ASCII character other than the space is blank. -/
theorem isBlank_of_printable {character : Char} (least : 33 ≤ character.toNat)
    (most : character.toNat ≤ 126) : isBlank character = false := by
  simp only [isBlank, Bool.or_eq_false_iff, Bool.and_eq_false_iff, decide_eq_false_iff_not,
    beq_eq_false_iff_ne]
  omega

theorem isBlank_of_isAlphanumeric {character : Char}
    (alphanumeric : isAlphanumeric character = true) : isBlank character = false := by
  simp only [isAlphanumeric, isDigit, Bool.or_eq_true, Bool.and_eq_true, decide_eq_true_eq]
    at alphanumeric
  exact isBlank_of_printable (by omega) (by omega)

theorem isBlank_of_isDigit {character : Char} (digit : isDigit character = true) :
    isBlank character = false :=
  isBlank_of_isAlphanumeric (by simp [isAlphanumeric, digit])

theorem isDigit_eq (character : Char) : isDigit character = character.isDigit := by
  rw [Bool.eq_iff_iff]
  simp [isDigit, Char.isDigit, UInt32.le_iff_toNat_le]

theorem isDigit_of_mem_toDigits {number : Nat} {character : Char}
    (among : character ∈ Nat.toDigits 10 number) : isDigit character = true := by
  rw [isDigit_eq]
  exact Nat.isDigit_of_mem_toDigits (by decide) (by decide) among

/-! ## Numbers -/

/-- Decimal digits that denote a number. -/
structure IsDigits (text : List Char) (number : Nat) : Prop where
  nonempty : text ≠ []
  all : ∀ digit ∈ text, isDigit digit = true
  value : digitsValue text 0 = number

/-- The value of digits is the number that they are written for in base ten. -/
theorem digitsValue_eq_ofDigits (digits : List Char) :
    digitsValue digits 0 = Nat.ofDigits 10 (digits.reverse.map fun digit => digit.toNat - 48) := by
  rw [digitsValue, List.foldl_eq_foldr_reverse, Nat.ofDigits_eq_foldr, List.foldr_map]
  simp [Nat.add_comm]

/-- A number without sign, or after a plus sign. -/
inductive IsUnsigned : List Char → Nat → Prop where
  | bare {digits : List Char} {number : Nat} (written : IsDigits digits number) :
      IsUnsigned digits number
  | plus {digits : List Char} {number : Nat} (written : IsDigits digits number) :
      IsUnsigned ('+' :: digits) number

theorem isUnsigned_iff {numeral : List Char} {number : Nat} :
    IsUnsigned numeral number ↔ ∃ (plus : Bool) (digits : List Char), IsDigits digits number ∧
      numeral = if plus then '+' :: digits else digits := by
  constructor
  · rintro (isDigits | isDigits)
    · exact ⟨false, _, isDigits, rfl⟩
    · exact ⟨true, _, isDigits, rfl⟩
  · rintro ⟨plus, digits, isDigits, rfl⟩
    cases plus with
    | false => exact .bare isDigits
    | true => exact .plus isDigits

theorem readDigits?_eq_some_iff {text : List Char} {number : Nat} :
    readDigits? text = some number ↔ IsDigits text number := by
  unfold readDigits?
  split
  · next refused =>
    simp only [reduceCtorEq, false_iff]
    intro written
    simp only [Bool.or_eq_true, List.isEmpty_iff, written.nonempty, false_or, Bool.not_eq_true',
      List.all_eq_false] at refused
    obtain ⟨digit, among, other⟩ := refused
    exact other (written.all digit among)
  · next accepted =>
    simp only [Bool.or_eq_true, List.isEmpty_iff, Bool.not_eq_true', not_or, Bool.not_eq_false,
      List.all_eq_true] at accepted
    rw [Option.some.injEq]
    exact ⟨fun value => ⟨accepted.1, accepted.2, value⟩, IsDigits.value⟩

theorem readUnsigned?_eq_some_iff {limit number : Nat} {text : List Char} :
    readUnsigned? limit text = some number ↔ IsUnsigned text number ∧ number < limit := by
  have sign : isDigit '+' = false := by decide
  unfold readUnsigned?
  simp only [Option.filter_eq_some_iff, readDigits?_eq_some_iff, decide_eq_true_eq]
  refine and_congr_left fun _ => ?_
  split
  · next digits =>
    refine ⟨.plus, fun written => ?_⟩
    cases written with
    | bare written =>
      have plus := written.all '+' List.mem_cons_self
      rw [sign] at plus
      cases plus
    | plus written => exact written
  · next unsigned =>
    refine ⟨.bare, fun written => ?_⟩
    cases written with
    | bare written => exact written
    | plus written => exact absurd rfl (unsigned _)

theorem IsDigits.exists_last {text : List Char} {number : Nat} (written : IsDigits text number) :
    ∃ last, text.getLast? = some last ∧ isDigit last = true :=
  ⟨_, List.getLast?_eq_some_getLast written.nonempty, written.all _ (List.getLast_mem _)⟩

/-- A number starts with a digit or a sign and ends with a digit. -/
theorem IsUnsigned.exists_ends {text : List Char} {number : Nat}
    (written : IsUnsigned text number) :
    ∃ first last, text.head? = some first ∧ text.getLast? = some last ∧
      isBlank first = false ∧ isDigit last = true := by
  cases written with
  | bare written =>
    obtain ⟨last, ends, digit⟩ := written.exists_last
    obtain ⟨first, rest, rfl⟩ := List.exists_cons_of_ne_nil written.nonempty
    exact ⟨first, last, rfl, ends, isBlank_of_isDigit (written.all first List.mem_cons_self), digit⟩
  | plus written =>
    obtain ⟨last, ends, digit⟩ := written.exists_last
    exact ⟨'+', last, rfl, by rw [List.getLast?_cons, ends]; rfl, by decide, digit⟩

theorem IsUnsigned.isBlank_of_head? {text rest : List Char} {number : Nat}
    (written : IsUnsigned text number) {first : Char}
    (begins : (text ++ rest).head? = some first) : isBlank first = false := by
  obtain ⟨start, -, same, -, visible, -⟩ := written.exists_ends
  rw [List.head?_append, same] at begins
  obtain rfl := Option.some.inj begins
  exact visible

theorem IsUnsigned.getLast?_ne {text : List Char} {number : Nat} (written : IsUnsigned text number)
    (other : Char) (letter : isDigit other = false) : text.getLast? ≠ some other := by
  obtain ⟨-, last, -, same, -, digit⟩ := written.exists_ends
  rw [same]
  rintro ⟨⟩
  rw [digit] at letter
  cases letter

theorem IsUnsigned.getLast?_append_ne {text blanks : List Char} {number : Nat}
    (written : IsUnsigned text number) (all : ∀ blank ∈ blanks, isBlank blank = true)
    (other : Char) (letter : isDigit other = false) (visible : isBlank other = false) :
    (text ++ blanks).getLast? ≠ some other := by
  rw [List.getLast?_append]
  cases ends : blanks.getLast? with
  | none => exact written.getLast?_ne other letter
  | some last =>
    rintro ⟨⟩
    rw [all other (List.mem_of_getLast? ends)] at visible
    cases visible

theorem IsUnsigned.trim_append {text blanks : List Char} {number : Nat}
    (written : IsUnsigned text number) (all : ∀ blank ∈ blanks, isBlank blank = true) :
    trim (text ++ blanks) = text := by
  obtain ⟨first, last, begins, ends, firstVisible, lastDigit⟩ := written.exists_ends
  rw [Text.trim_append begins ends firstVisible (isBlank_of_isDigit lastDigit),
    trimEnd_of_blank all, List.append_nil]

/-- A number before blanks is read without them. -/
theorem readUnsigned?_trim_iff {limit number : Nat} {text : List Char}
    (begins : ∀ first, text.head? = some first → isBlank first = false) :
    readUnsigned? limit (trim text) = some number ↔
      ∃ numeral blanks, text = numeral ++ blanks ∧ (∀ blank ∈ blanks, isBlank blank = true) ∧
        IsUnsigned numeral number ∧ number < limit := by
  rw [readUnsigned?_eq_some_iff]
  constructor
  · rintro ⟨written, below⟩
    have start : trimStart text = text := by
      cases text with
      | nil => rfl
      | cons first rest => exact trimStart_cons (begins first rfl) rest
    obtain ⟨blanks, same, all⟩ := exists_eq_trimEnd_append text
    rw [trim, start] at written
    exact ⟨_, blanks, same, all, written, below⟩
  · rintro ⟨numeral, blanks, rfl, all, written, below⟩
    rw [written.trim_append all]
    exact ⟨written, below⟩

end Fleet.Text
