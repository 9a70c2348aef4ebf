import Fleet.Duration
import Fleet.Proofs.Text

/-!
# Written durations

A duration is written as a number with a unit, with or without blanks between them, or as a bare
number of seconds. Exactly the texts of that form are read, up to outer blanks, as long as their
milliseconds or seconds fit into 64 bits.

`IsWritten` describes the texts in the way in which the reader takes them apart, from the unit on.
`Written` holds the same parts in their order, with the number that the digits denote in base ten.
-/

namespace Fleet.Duration

open Text

/-- The units that are multiples of a second, each with its seconds. -/
def longUnits : List (Char × Nat) := [('s', 1), ('m', 60), ('h', 3600)]

/-- A text without outer blanks that denotes a duration: a number of seconds, or a number with a
unit, possibly with blanks before the unit. The milliseconds or seconds fit into 64 bits. -/
inductive IsWritten : List Char → Duration → Prop where
  | bare {numeral : List Char} {number : Nat} (written : IsUnsigned numeral number)
      (fits : number < limit) : IsWritten numeral (ofSeconds number)
  | milliseconds {numeral blanks : List Char} {number : Nat} (written : IsUnsigned numeral number)
      (blank : ∀ character ∈ blanks, isBlank character = true) (fits : number < limit) :
      IsWritten (numeral ++ blanks ++ ['m', 's']) (ofMilliseconds number)
  | seconds {numeral blanks : List Char} {number count : Nat} {unit : Char}
      (known : (unit, count) ∈ longUnits) (written : IsUnsigned numeral number)
      (blank : ∀ character ∈ blanks, isBlank character = true)
      (fits : number * count < limit) :
      IsWritten (numeral ++ blanks ++ [unit]) (ofSeconds (number * count))

theorem scaledSeconds?_eq_some_iff {count : Nat} (positive : 0 < count) {text : List Char}
    (begins : ∀ first, text.head? = some first → isBlank first = false) {duration : Duration} :
    scaledSeconds? count text = some duration ↔
      ∃ numeral blanks number, text = numeral ++ blanks ∧
        (∀ blank ∈ blanks, isBlank blank = true) ∧ IsUnsigned numeral number ∧
        number * count < limit ∧ duration = ofSeconds (number * count) := by
  simp only [scaledSeconds?, Option.map_eq_some_iff, Option.filter_eq_some_iff, decide_eq_true_eq,
    readUnsigned?_trim_iff begins]
  constructor
  · rintro ⟨scaled, ⟨⟨number, ⟨numeral, blanks, same, all, written, -⟩, rfl⟩, fits⟩, rfl⟩
    exact ⟨numeral, blanks, number, same, all, written, fits, rfl⟩
  · rintro ⟨numeral, blanks, number, same, all, written, fits, rfl⟩
    have below : number < limit := Nat.lt_of_le_of_lt (Nat.le_mul_of_pos_right number positive) fits
    exact ⟨_, ⟨⟨number, ⟨numeral, blanks, same, all, written, below⟩, rfl⟩, fits⟩, rfl⟩

theorem count_pos_of_mem {unit : Char} {count : Nat} (known : (unit, count) ∈ longUnits) :
    0 < count := by
  simp only [longUnits, List.mem_cons, Prod.mk.injEq, List.not_mem_nil, or_false] at known
  omega

section Reading

variable {trimmed number : List Char} {duration : Duration}
  (begins : ∀ first, trimmed.head? = some first → isBlank first = false)
include begins

theorem begins_of_dropTail? {tail : List Char} (dropped : dropTail? tail trimmed = some number)
    (first : Char) (start : number.head? = some first) : isBlank first = false := by
  apply begins
  rw [dropTail?_eq_some_iff.mp dropped, List.head?_append, start]
  rfl

theorem isWritten_of_scaledSeconds? {unit : Char} {count : Nat}
    (known : (unit, count) ∈ longUnits) (dropped : dropTail? [unit] trimmed = some number)
    (read : scaledSeconds? count number = some duration) : IsWritten trimmed duration := by
  have start := begins_of_dropTail? begins dropped
  rw [scaledSeconds?_eq_some_iff (count_pos_of_mem known) start] at read
  obtain ⟨numeral, blanks, written, rfl, blank, isUnsigned, fits, rfl⟩ := read
  rw [dropTail?_eq_some_iff.mp dropped]
  exact .seconds known isUnsigned blank fits

end Reading

theorem isWritten_of_parse? {text : String} {duration : Duration}
    (known : parse? text = some duration) : IsWritten (trim text.toList) duration := by
  have begins : ∀ first, (trim text.toList).head? = some first → isBlank first = false :=
    fun _ => isBlank_of_head?_trim
  unfold parse? at known
  generalize trim text.toList = trimmed at begins known
  dsimp only at known
  split at known
  · next number dropped =>
    obtain ⟨value, read, rfl⟩ := Option.map_eq_some_iff.mp known
    rw [readUnsigned?_trim_iff (begins_of_dropTail? begins dropped)] at read
    obtain ⟨numeral, blanks, rfl, blank, written, fits⟩ := read
    rw [dropTail?_eq_some_iff.mp dropped]
    exact .milliseconds written blank fits
  · split at known
    · next dropped => exact isWritten_of_scaledSeconds? begins (by decide) dropped known
    · split at known
      · next dropped => exact isWritten_of_scaledSeconds? begins (by decide) dropped known
      · split at known
        · next dropped => exact isWritten_of_scaledSeconds? begins (by decide) dropped known
        · obtain ⟨value, read, rfl⟩ := Option.map_eq_some_iff.mp known
          obtain ⟨written, fits⟩ := readUnsigned?_eq_some_iff.mp read
          exact .bare written fits

theorem parse?_of_isWritten {text : String} {duration : Duration}
    (written : IsWritten (trim text.toList) duration) : parse? text = some duration := by
  unfold parse?
  generalize trim text.toList = trimmed at written
  dsimp only
  cases written with
  | bare written fits =>
    have unitless := @written.getLast?_ne
    rw [dropTail?_eq_none rfl (unitless 's' (by decide)),
      dropTail?_eq_none rfl (unitless 's' (by decide)),
      dropTail?_eq_none rfl (unitless 'm' (by decide)),
      dropTail?_eq_none rfl (unitless 'h' (by decide)),
      readUnsigned?_eq_some_iff.mpr ⟨written, fits⟩]
    rfl
  | milliseconds written blank fits =>
    rw [dropTail?_append]
    dsimp only
    rw [(readUnsigned?_trim_iff fun _ => written.isBlank_of_head?).mpr
      ⟨_, _, rfl, blank, written, fits⟩]
    rfl
  | @seconds numeral blanks number count unit known written blank fits =>
    have read := (scaledSeconds?_eq_some_iff (count_pos_of_mem known)
      fun _ => written.isBlank_of_head?).mpr ⟨_, _, _, rfl, blank, written, fits, rfl⟩
    have other {tail : List Char} {last : Char} (ends : tail.getLast? = some last)
        (differs : last ≠ unit) : dropTail? tail (numeral ++ blanks ++ [unit]) = none :=
      dropTail?_eq_none ends (by simpa using differs.symm)
    simp only [longUnits, List.mem_cons, Prod.mk.injEq, List.not_mem_nil, or_false] at known
    rcases known with ⟨rfl, rfl⟩ | ⟨rfl, rfl⟩ | ⟨rfl, rfl⟩
    · have notMilliseconds : dropTail? ['m', 's'] (numeral ++ blanks ++ ['s']) = none := by
        rw [Option.eq_none_iff_forall_ne_some]
        intro rest dropped
        have same : numeral ++ blanks ++ ['s'] = (rest ++ ['m']) ++ ['s'] := by
          rw [dropTail?_eq_some_iff.mp dropped, List.append_assoc, List.singleton_append]
        apply written.getLast?_append_ne blank 'm' (by decide) (by decide)
        rw [List.append_cancel_right same, List.getLast?_append]
        rfl
      rw [notMilliseconds, dropTail?_append]
      exact read
    · rw [other rfl (by decide), other rfl (by decide), dropTail?_append]
      exact read
    · rw [other rfl (by decide), other rfl (by decide), other rfl (by decide), dropTail?_append]
      exact read

/-- Exactly the written durations are read, each as the duration that it is written for. -/
theorem parse?_eq_some_iff {text : String} {duration : Duration} :
    parse? text = some duration ↔ IsWritten (trim text.toList) duration :=
  ⟨isWritten_of_parse?, parse?_of_isWritten⟩

/-! ## The parts of a written duration -/

/-- The units of written durations; without a unit, a number counts seconds. -/
inductive TimeUnit where
  | milliseconds
  | seconds
  | minutes
  | hours
  | unmarked
  deriving DecidableEq

namespace TimeUnit

/-- How a unit is written. -/
def symbol : TimeUnit → List Char
  | .milliseconds => ['m', 's']
  | .seconds => ['s']
  | .minutes => ['m']
  | .hours => ['h']
  | .unmarked => []

/-- What a number of minutes or hours is multiplied by to count seconds. -/
def factor : TimeUnit → Nat
  | .milliseconds | .seconds | .unmarked => 1
  | .minutes => 60
  | .hours => 3600

end TimeUnit

/-- A duration as it is written, taken apart: an optional sign, digits, blanks and a unit. Blanks
stand only before a unit. -/
structure Written where
  plus : Bool
  digits : List Char
  blanks : List Char
  unit : TimeUnit
  nonempty : digits ≠ []
  decimal : ∀ digit ∈ digits, digit.isDigit = true
  blank : ∀ character ∈ blanks, isBlank character = true
  attached : unit = .unmarked → blanks = []

namespace Written

/-- The sign and the digits. -/
def numeral (written : Written) : List Char :=
  if written.plus then '+' :: written.digits else written.digits

def text (written : Written) : List Char :=
  written.numeral ++ written.blanks ++ written.unit.symbol

/-- The number that the digits denote in base ten. -/
def number (written : Written) : Nat :=
  Nat.ofDigits 10 (written.digits.reverse.map fun digit => digit.toNat - '0'.toNat)

/-- The number fits into 64 bits, for minutes and hours also as a number of seconds. -/
def Fits (written : Written) : Prop :=
  written.number * written.unit.factor < 2 ^ 64

def duration (written : Written) : Duration :=
  match written.unit with
  | .milliseconds => ofMilliseconds written.number
  | unit => ofSeconds (written.number * unit.factor)

/-- A text holds a written duration if there are only blanks around it. -/
def StandsIn (written : Written) (whole : List Char) : Prop :=
  ∃ before after, whole = before ++ (written.text ++ after) ∧
    (∀ character ∈ before, isBlank character = true) ∧
    ∀ character ∈ after, isBlank character = true

theorem isUnsigned_numeral (written : Written) : IsUnsigned written.numeral written.number := by
  have digits : IsDigits written.digits written.number := by
    refine ⟨written.nonempty, ?_, digitsValue_eq_ofDigits written.digits⟩
    intro digit among
    rw [isDigit_eq, written.decimal digit among]
  rw [numeral]
  split
  · exact .plus digits
  · exact .bare digits

end Written

/-- Parts that fit make up a written duration. -/
theorem exists_written {numeral blanks : List Char} {number : Nat} {unit : TimeUnit}
    (unsigned : IsUnsigned numeral number)
    (blank : ∀ character ∈ blanks, isBlank character = true)
    (attached : unit = .unmarked → blanks = []) (fits : number * unit.factor < limit) :
    ∃ written : Written, written.text = numeral ++ blanks ++ unit.symbol ∧ written.Fits ∧
      written.unit = unit ∧ written.number = number := by
  rcases isUnsigned_iff.mp unsigned with ⟨plus, digits, isDigits, rfl⟩
  have decimal : ∀ digit ∈ digits, digit.isDigit = true := by
    intro digit among
    rw [← isDigit_eq, isDigits.all digit among]
  have same := (digitsValue_eq_ofDigits digits).symm.trans isDigits.value
  subst same
  exact ⟨⟨plus, digits, blanks, unit, isDigits.nonempty, decimal, blank, attached⟩, rfl, fits,
    rfl, rfl⟩

/-- The units that are multiples of a second have their symbols and factors. -/
theorem exists_unit_of_mem {symbol : Char} {count : Nat} (known : (symbol, count) ∈ longUnits) :
    ∃ unit : TimeUnit, unit.symbol = [symbol] ∧ unit.factor = count ∧ unit ≠ .milliseconds := by
  simp only [longUnits, List.mem_cons, Prod.mk.injEq, List.not_mem_nil, or_false] at known
  rcases known with ⟨rfl, rfl⟩ | ⟨rfl, rfl⟩ | ⟨rfl, rfl⟩
  · exact ⟨.seconds, rfl, rfl, by decide⟩
  · exact ⟨.minutes, rfl, rfl, by decide⟩
  · exact ⟨.hours, rfl, rfl, by decide⟩

theorem Written.duration_of_ne {written : Written} (other : written.unit ≠ .milliseconds) :
    written.duration = ofSeconds (written.number * written.unit.factor) := by
  rw [duration]
  split
  · next milliseconds => exact absurd milliseconds other
  · rfl

theorem exists_written_of_isWritten {core : List Char} {duration : Duration}
    (isWritten : IsWritten core duration) :
    ∃ written : Written, written.text = core ∧ written.Fits ∧ written.duration = duration := by
  cases isWritten with
  | @bare numeral number unsigned fits =>
      have none : ∀ character ∈ ([] : List Char), isBlank character = true := by simp
      have attached : TimeUnit.unmarked = .unmarked → ([] : List Char) = [] := fun _ => rfl
      rcases exists_written unsigned none attached (by simpa [TimeUnit.factor] using fits) with
        ⟨written, text, inRange, unit, rfl⟩
      refine ⟨written, by simpa [TimeUnit.symbol] using text, inRange, ?_⟩
      rw [written.duration_of_ne (by simp [unit]), unit, TimeUnit.factor, Nat.mul_one]
  | @milliseconds numeral blanks number unsigned blank fits =>
      have attached : TimeUnit.milliseconds = .unmarked → blanks = [] := fun same => by cases same
      rcases exists_written unsigned blank attached (by simpa [TimeUnit.factor] using fits) with
        ⟨written, text, inRange, unit, rfl⟩
      refine ⟨written, text, inRange, ?_⟩
      rw [Written.duration, unit]
  | @seconds numeral blanks number count symbol known unsigned blank fits =>
      rcases exists_unit_of_mem known with ⟨unit, symbolic, rfl, other⟩
      have attached : unit = .unmarked → blanks = [] := by
        rintro rfl
        cases symbolic
      rcases exists_written unsigned blank attached fits with
        ⟨written, text, inRange, rfl, rfl⟩
      exact ⟨written, by rw [text, symbolic], inRange, written.duration_of_ne other⟩

/-- A written duration that fits is one of the written durations that are read. -/
theorem Written.isWritten {written : Written} (fits : written.Fits) :
    IsWritten written.text written.duration := by
  have unsigned := written.isUnsigned_numeral
  have blank := written.blank
  rw [Fits] at fits
  rw [text, duration]
  cases same : written.unit with
  | milliseconds =>
      rw [same, TimeUnit.factor, Nat.mul_one] at fits
      exact .milliseconds unsigned blank fits
  | unmarked =>
      rw [same, TimeUnit.factor, Nat.mul_one] at fits
      rw [written.attached same, TimeUnit.symbol, List.append_nil, List.append_nil]
      simpa only [TimeUnit.factor, Nat.mul_one] using IsWritten.bare unsigned fits
  | seconds | minutes | hours =>
      rw [same] at fits
      exact .seconds (by decide) unsigned blank fits

theorem isWritten_iff {core : List Char} {duration : Duration} :
    IsWritten core duration ↔
      ∃ written : Written, written.text = core ∧ written.Fits ∧ written.duration = duration := by
  constructor
  · exact exists_written_of_isWritten
  · rintro ⟨written, rfl, fits, rfl⟩
    exact written.isWritten fits

theorem TimeUnit.exists_last {unit : TimeUnit} (marked : unit ≠ .unmarked) :
    ∃ last, unit.symbol.getLast? = some last ∧ isBlank last = false := by
  cases unit with
  | milliseconds => exact ⟨'s', rfl, by decide⟩
  | seconds => exact ⟨'s', rfl, by decide⟩
  | minutes => exact ⟨'m', rfl, by decide⟩
  | hours => exact ⟨'h', rfl, by decide⟩
  | unmarked => exact absurd rfl marked

/-- A written duration starts with its sign or a digit, and ends with its unit or a digit. -/
theorem Written.exists_ends (written : Written) :
    ∃ first last, written.text.head? = some first ∧ written.text.getLast? = some last ∧
      isBlank first = false ∧ isBlank last = false := by
  rcases written.isUnsigned_numeral.exists_ends with ⟨first, last, begins, ends, visible, digit⟩
  have start : written.text.head? = some first := by
    rw [text, List.append_assoc, List.head?_append, begins, Option.some_or]
  by_cases unmarked : written.unit = .unmarked
  · refine ⟨first, last, start, ?_, visible, isBlank_of_isDigit digit⟩
    rw [text, unmarked, written.attached unmarked, TimeUnit.symbol, List.append_nil,
      List.append_nil, ends]
  · rcases TimeUnit.exists_last unmarked with ⟨symbol, same, symbolVisible⟩
    refine ⟨first, symbol, start, ?_, visible, symbolVisible⟩
    rw [text, List.getLast?_append, same, Option.some_or]

theorem Written.standsIn_iff {written : Written} {whole : List Char} :
    written.StandsIn whole ↔ written.text = trim whole := by
  constructor
  · rintro ⟨before, after, rfl, blankBefore, blankAfter⟩
    rcases written.exists_ends with ⟨first, last, begins, ends, firstVisible, lastVisible⟩
    rw [trim_blank_append blankBefore, trim_append begins ends firstVisible lastVisible,
      trimEnd_of_blank blankAfter, List.append_nil]
  · intro same
    rw [StandsIn, same]
    exact exists_eq_append_trim whole

/-- A text is read as a duration exactly if it is, between outer blanks, an optional plus sign, the
digits of a number below `2 ^ 64`, and either a unit with or without blanks before it or nothing
more. A number of minutes or hours must be below `2 ^ 64` as a number of seconds, too. The duration
is that number of the unit, neither rounded nor wrapped, and all other texts are refused. -/
theorem read_exactly_if_written (text : String) :
    (∀ duration, parse? text = some duration ↔
      ∃ written : Written, written.StandsIn text.toList ∧ written.Fits ∧
        written.duration = duration) ∧
    (parse? text = none ↔ ∀ written : Written, written.StandsIn text.toList → ¬written.Fits) := by
  have read : ∀ duration, parse? text = some duration ↔
      ∃ written : Written, written.StandsIn text.toList ∧ written.Fits ∧
        written.duration = duration := by
    intro duration
    simp only [parse?_eq_some_iff, isWritten_iff, Written.standsIn_iff]
  refine ⟨read, ?_⟩
  rw [Option.eq_none_iff_forall_ne_some]
  constructor
  · intro refused written stands fits
    exact refused written.duration ((read written.duration).mpr ⟨written, stands, fits, rfl⟩)
  · intro refused duration known
    rcases (read duration).mp known with ⟨written, stands, fits, -⟩
    exact refused written stands fits

end Fleet.Duration
