import Fleet.Proofs.Text
import Fleet.Telemetry.Exposition

/-!
# The language of label blocks

A label block is described by a grammar that does not mention the reader. Each function of the
reader takes exactly one notion of the grammar off the start of a text: what it takes is derived
(soundness), and what is derived is taken, whatever follows (completeness). With the second
direction the grammar is unambiguous, since the reader gives one answer: a text starts with at most
one block, and a block has one reading. The bytes of the block are counted up to the place after its
brace, so that cutting the text there never cuts a character.
-/

namespace Fleet.Telemetry

open Text

/-! ## The grammar -/

/-- A key: without equals signs and blanks, and not starting with what separates labels or ends the
block. -/
structure IsKey (key : List Char) : Prop where
  nonempty : key ≠ []
  inside : ∀ character ∈ key, character ≠ '=' ∧ isBlank character = false
  start : key.head? ≠ some ',' ∧ key.head? ≠ some '}'

/-- The text between the quotes of a value, and the value that it stands for. -/
inductive IsEscaped : List Char → List Char → Prop where
  | nil : IsEscaped [] []
  | plain {character : Char} {written value : List Char}
      (ordinary : character ≠ '"' ∧ character ≠ '\\') (later : IsEscaped written value) :
      IsEscaped (character :: written) (character :: value)
  | feed {written value : List Char} (later : IsEscaped written value) :
      IsEscaped ('\\' :: 'n' :: written) ('\n' :: value)
  | literal {character : Char} {written value : List Char} (other : character ≠ 'n')
      (later : IsEscaped written value) :
      IsEscaped ('\\' :: character :: written) (character :: value)

/-- The text of a label: a key, an equals sign with blanks around it, and a value in quotes. -/
inductive IsLabel : List Char → Label → Prop where
  | intro {key before after written value : List Char} (isKey : IsKey key)
      (blankBefore : ∀ blank ∈ before, isBlank blank = true)
      (blankAfter : ∀ blank ∈ after, isBlank blank = true) (escaped : IsEscaped written value) :
      IsLabel (key ++ (before ++ '=' :: (after ++ '"' :: (written ++ ['"']))))
        (String.ofList key, String.ofList value)

/-- A run of commas and blanks. -/
def IsSeparation (text : List Char) : Prop :=
  ∀ character ∈ text, character = ',' ∨ isBlank character = true

/-- Labels, each after a separation, and the brace that closes the block. -/
inductive IsClosed : List Char → List Label → Prop where
  | brace {separation : List Char} (separates : IsSeparation separation) :
      IsClosed (separation ++ ['}']) []
  | label {separation written rest : List Char} {label : Label} {labels : List Label}
      (separates : IsSeparation separation) (isLabel : IsLabel written label)
      (later : IsClosed rest labels) :
      IsClosed (separation ++ (written ++ rest)) (label :: labels)

/-- The text of a block, from its opening to its closing brace, and its labels. -/
inductive IsBlock : List Char → List Label → Prop where
  | intro {text : List Char} {labels : List Label} (closed : IsClosed text labels) :
      IsBlock ('{' :: text) labels

/-! ## Values -/

theorem readValue?_sound {text value rest : List Char}
    (read : Label.readValue? text = some (value, rest)) :
    ∃ written, text = written ++ '"' :: rest ∧ IsEscaped written value := by
  fun_induction Label.readValue? text generalizing value rest with
  | case1 => cases read
  | case2 after =>
      cases read
      exact ⟨[], rfl, .nil⟩
  | case3 character after ih =>
      rcases Option.map_eq_some_iff.mp read with ⟨⟨later, remaining⟩, found, same⟩
      cases same
      rcases ih found with ⟨written, rfl, escaped⟩
      refine ⟨'\\' :: character :: written, rfl, ?_⟩
      by_cases feed : character = 'n'
      · subst feed
        exact .feed escaped
      · rw [Label.unescape, if_neg feed]
        exact .literal feed escaped
  | case4 => cases read
  | case5 character after notQuote _ notBackslash ih =>
      rcases Option.map_eq_some_iff.mp read with ⟨⟨later, remaining⟩, found, same⟩
      cases same
      rcases ih found with ⟨written, rfl, escaped⟩
      exact ⟨character :: written, rfl, .plain ⟨notQuote, notBackslash⟩ escaped⟩

theorem readValue?_complete {written value : List Char} (escaped : IsEscaped written value)
    (rest : List Char) : Label.readValue? (written ++ '"' :: rest) = some (value, rest) := by
  induction escaped with
  | nil => rfl
  | @plain character written value ordinary later ih =>
      rw [List.cons_append, Label.readValue?, if_neg ordinary.2, ih]
      · rfl
      · exact ordinary.1
      · exact fun _ _ same _ => ordinary.2 same
  | feed later ih => simp [Label.readValue?, ih, Label.unescape]
  | literal other later ih => simp [Label.readValue?, ih, Label.unescape, other]

/-! ## Labels -/

theorem isKeyCharacter_iff {character : Char} :
    Label.isKeyCharacter character = true ↔ character ≠ '=' ∧ isBlank character = false := by
  simp [Label.isKeyCharacter]

theorem isSeparator_iff {character : Char} :
    Label.isSeparator character = true ↔ character = ',' ∨ isBlank character = true := by
  simp [Label.isSeparator]

/-- What is taken for a key is one, where the separation before it has been skipped and no brace
stands. -/
theorem isKey_takeWhile {first : Char} {text : List Char}
    (notSeparator : Label.isSeparator first = false) (notBrace : first ≠ '}')
    (nonempty : (first :: text).takeWhile Label.isKeyCharacter ≠ []) :
    IsKey ((first :: text).takeWhile Label.isKeyCharacter) := by
  have begins : Label.isKeyCharacter first = true := by
    by_contra other
    exact nonempty (List.takeWhile_cons_of_neg other)
  refine ⟨nonempty, ?inside, ?comma, ?brace⟩
  case inside =>
    intro character among
    exact isKeyCharacter_iff.mp (List.mem_takeWhile_imp among)
  case comma =>
    rw [List.takeWhile_cons_of_pos begins, List.head?_cons, ne_eq, Option.some.injEq]
    rintro rfl
    exact absurd notSeparator (by decide)
  case brace =>
    rw [List.takeWhile_cons_of_pos begins, List.head?_cons, ne_eq, Option.some.injEq]
    exact notBrace

/-- What follows the key of a label that is read. -/
theorem afterKey_of_read? {text rest : List Char} {label : Label}
    (read : Label.read? text = some (label, rest)) :
    ∃ before after written value,
      text.dropWhile Label.isKeyCharacter =
        before ++ '=' :: (after ++ '"' :: (written ++ '"' :: rest)) ∧
      (∀ blank ∈ before, isBlank blank = true) ∧ (∀ blank ∈ after, isBlank blank = true) ∧
      IsEscaped written value ∧ text.takeWhile Label.isKeyCharacter ≠ [] ∧
      label = (String.ofList (text.takeWhile Label.isKeyCharacter), String.ofList value) := by
  rw [Label.read?] at read
  split at read
  · next afterEquals equals =>
    rcases exists_eq_append_of_trimStart equals with ⟨before, same, blankBefore⟩
    split at read
    · next afterQuote quote =>
      rcases exists_eq_append_of_trimStart quote with ⟨after, rfl, blankAfter⟩
      split at read
      · next value remaining found =>
        rcases readValue?_sound found with ⟨written, rfl, escaped⟩
        split at read
        · cases read
        · next nonempty =>
          cases read
          exact ⟨before, after, written, value, same, blankBefore, blankAfter, escaped,
            by simpa using nonempty, rfl⟩
      · cases read
    · cases read
  · cases read

theorem read?_sound {first : Char} {text rest : List Char} {label : Label}
    (notSeparator : Label.isSeparator first = false) (notBrace : first ≠ '}')
    (read : Label.read? (first :: text) = some (label, rest)) :
    ∃ written, first :: text = written ++ rest ∧ IsLabel written label := by
  rcases afterKey_of_read? read with
    ⟨before, after, written, value, same, blankBefore, blankAfter, escaped, nonempty, rfl⟩
  have isKey := isKey_takeWhile notSeparator notBrace nonempty
  have whole := List.takeWhile_append_dropWhile (p := Label.isKeyCharacter) (l := first :: text)
  refine ⟨_, ?_, .intro isKey blankBefore blankAfter escaped⟩
  rw [same] at whole
  simpa using whole.symm

/-- A key ends where blanks or the equals sign begin. -/
theorem exists_cons_afterKey {before : List Char} (blank : ∀ blank ∈ before, isBlank blank = true)
    (rest : List Char) : ∃ first tail, before ++ '=' :: rest = first :: tail ∧
      ¬Label.isKeyCharacter first = true := by
  cases before with
  | nil => exact ⟨'=', rest, rfl, by decide⟩
  | cons first before =>
      refine ⟨first, _, List.cons_append, ?_⟩
      simp [Label.isKeyCharacter, blank first List.mem_cons_self]

theorem read?_complete {written : List Char} {label : Label} (isLabel : IsLabel written label)
    (rest : List Char) : Label.read? (written ++ rest) = some (label, rest) := by
  cases isLabel with
  | @intro key before after written value isKey blankBefore blankAfter escaped =>
      have inside : ∀ character ∈ key, Label.isKeyCharacter character = true :=
        fun character among => isKeyCharacter_iff.mpr (isKey.inside character among)
      rcases exists_cons_afterKey blankBefore (after ++ '"' :: (written ++ '"' :: rest)) with
        ⟨first, tail, same, ends⟩
      have visible : isBlank '=' = false ∧ isBlank '"' = false := by decide
      simp only [List.append_assoc, List.cons_append, List.nil_append, Label.read?,
        List.takeWhile_append_of_pos inside, List.dropWhile_append_of_pos inside]
      rw [same, List.takeWhile_cons_of_neg ends, List.dropWhile_cons_of_neg ends, ← same,
        trimStart_append_cons blankBefore visible.1]
      simp only [trimStart_append_cons blankAfter visible.2, readValue?_complete escaped,
        List.append_nil]
      simp [isKey.nonempty]

/-! ## Blocks -/

/-- Reading is sound with any fuel, by induction on it. -/
theorem readUpToBrace?_sound {fuel : Nat} {text rest : List Char} {labels : List Label}
    (read : Label.readUpToBrace? fuel text = some (labels, rest)) :
    ∃ written, text = written ++ rest ∧ IsClosed written labels := by
  induction fuel generalizing text labels with
  | zero => cases read
  | succ fuel ih =>
      have whole := List.takeWhile_append_dropWhile (p := Label.isSeparator) (l := text)
      have separates : IsSeparation (text.takeWhile Label.isSeparator) :=
        fun character among => isSeparator_iff.mp (List.mem_takeWhile_imp among)
      have stops := List.head?_dropWhile_not Label.isSeparator text
      rw [Label.readUpToBrace?] at read
      generalize text.takeWhile Label.isSeparator = separation at *
      generalize text.dropWhile Label.isSeparator = start at *
      subst whole
      split at read
      · cases read
      · cases read
        exact ⟨separation ++ ['}'], by simp, .brace separates⟩
      · next notEmpty notBrace =>
        split at read
        · cases read
        · next label after found =>
          rcases Option.map_eq_some_iff.mp read with ⟨⟨later, remaining⟩, continued, same⟩
          cases same
          rcases ih continued with ⟨written, rfl, closed⟩
          cases start with
          | nil => exact absurd rfl notEmpty
          | cons first start =>
              have notSeparator : Label.isSeparator first = false := by simpa using stops
              have other : first ≠ '}' := by
                rintro rfl
                exact notBrace start rfl
              rcases read?_sound notSeparator other found with ⟨text, same, isLabel⟩
              refine ⟨separation ++ (text ++ written), ?_, .label separates isLabel closed⟩
              rw [same]
              simp

/-- A label starts with a character of its key. -/
theorem IsLabel.exists_cons {written : List Char} {label : Label}
    (isLabel : IsLabel written label) :
    ∃ first rest, written = first :: rest ∧ Label.isSeparator first = false ∧ first ≠ '}' := by
  cases isLabel with
  | intro isKey =>
      rcases List.exists_cons_of_ne_nil isKey.nonempty with ⟨first, rest, rfl⟩
      refine ⟨first, _, List.cons_append, ?_, ?_⟩
      · have visible := (isKey.inside first List.mem_cons_self).2
        have comma := isKey.start.1
        simp only [List.head?_cons, ne_eq, Option.some.injEq] at comma
        simp [Label.isSeparator, comma, visible]
      · simpa using isKey.start.2

/-- A separation is skipped up to the character that is none. -/
theorem IsSeparation.dropWhile {separation : List Char} (separates : IsSeparation separation)
    {first : Char} (notSeparator : Label.isSeparator first = false) (rest : List Char) :
    (separation ++ first :: rest).dropWhile Label.isSeparator = first :: rest := by
  have skipped : ∀ character ∈ separation, Label.isSeparator character = true :=
    fun character among => isSeparator_iff.mpr (separates character among)
  rw [List.dropWhile_append_of_pos skipped, List.dropWhile_cons_of_neg (by simp [notSeparator])]

/-- What is derived is read, by induction on its derivation: each label takes one unit of fuel and
at least one character. -/
theorem readUpToBrace?_complete {written : List Char} {labels : List Label}
    (closed : IsClosed written labels) {fuel : Nat} (enough : written.length ≤ fuel)
    (rest : List Char) : Label.readUpToBrace? fuel (written ++ rest) = some (labels, rest) := by
  induction closed generalizing fuel with
  | @brace separation separates =>
      cases fuel with
      | zero => simp at enough
      | succ fuel =>
          have brace : Label.isSeparator '}' = false := by decide
          simp only [Label.readUpToBrace?, List.append_assoc, List.singleton_append,
            separates.dropWhile brace]
  | @label separation written remaining label labels separates isLabel later ih =>
      rcases isLabel.exists_cons with ⟨first, tail, same, notSeparator, notBrace⟩
      have start : (separation ++ (written ++ remaining) ++ rest).dropWhile Label.isSeparator =
          written ++ (remaining ++ rest) := by
        rw [List.append_assoc, List.append_assoc, same, List.cons_append,
          separates.dropWhile notSeparator]
      have long : 0 < written.length := by simp [same]
      simp only [List.length_append] at enough
      cases fuel with
      | zero => omega
      | succ fuel =>
          rw [Label.readUpToBrace?, start]
          split
          · next empty => simp [same] at empty
          · next closed =>
            rw [same, List.cons_append] at closed
            exact absurd (List.head_eq_of_cons_eq closed) notBrace
          · rw [read?_complete isLabel]
            simp only [ih (by omega : remaining.length ≤ fuel), Option.map_some]

/-- Exactly the blocks are read, each with its labels, whatever follows. -/
theorem readBlock?_eq_some_iff {text rest : List Char} {labels : List Label} :
    Label.readBlock? text = some (labels, rest) ↔
      ∃ block, text = block ++ rest ∧ IsBlock block labels := by
  constructor
  · intro read
    unfold Label.readBlock? at read
    split at read
    · rcases readUpToBrace?_sound read with ⟨written, rfl, closed⟩
      exact ⟨'{' :: written, rfl, .intro closed⟩
    · cases read
  · rintro ⟨block, rfl, isBlock⟩
    cases isBlock with
    | intro closed =>
        rw [List.cons_append, Label.readBlock?]
        apply readUpToBrace?_complete closed
        rw [List.length_append]
        omega

/-- A text starts with at most one block, and a block has one reading. -/
theorem IsBlock.unique {text block other : List Char} {labels others : List Label}
    (isBlock : IsBlock block labels) (start : block <+: text) (isOther : IsBlock other others)
    (alsoStart : other <+: text) : other = block ∧ others = labels := by
  rcases start with ⟨rest, rfl⟩
  rcases alsoStart with ⟨remaining, same⟩
  have read : Label.readBlock? (block ++ rest) = some (labels, rest) :=
    readBlock?_eq_some_iff.mpr ⟨block, rfl, isBlock⟩
  have again : Label.readBlock? (block ++ rest) = some (others, remaining) :=
    readBlock?_eq_some_iff.mpr ⟨other, same.symm, isOther⟩
  rw [read] at again
  cases again
  exact ⟨List.append_cancel_right same, rfl⟩

/-! ## The length of a block -/

theorem IsClosed.exists_concat {text : List Char} {labels : List Label}
    (closed : IsClosed text labels) : ∃ inside, text = inside ++ ['}'] := by
  induction closed with
  | @brace separation _ => exact ⟨separation, rfl⟩
  | @label separation written _ _ _ _ _ _ ih =>
      rcases ih with ⟨inside, rfl⟩
      exact ⟨separation ++ (written ++ inside), by simp⟩

/-- A block is measured up to the place after its closing brace, which is its end. -/
theorem measureBlock?_of_isBlock {block : List Char} {labels : List Label}
    (isBlock : IsBlock block labels) (rest : List Char) :
    Label.measureBlock? (block ++ rest) = some (labels, byteLength block) := by
  have read : Label.readBlock? (block ++ rest) = some (labels, rest) :=
    readBlock?_eq_some_iff.mpr ⟨block, rfl, isBlock⟩
  rcases isBlock with ⟨closed⟩
  rcases closed.exists_concat with ⟨inside, rfl⟩
  have brace : byteLength ['}'] = 1 := by decide
  have whole : byteLength ('{' :: (inside ++ ['}']) ++ rest) =
      byteLength ('{' :: inside) + byteLength ('}' :: rest) := by
    rw [← byteLength_append]
    simp
  have block : byteLength ('{' :: (inside ++ ['}'])) = byteLength ('{' :: inside) + 1 := by
    rw [← brace, ← byteLength_append, List.cons_append]
  simp only [Label.measureBlock?, read, Option.map_some, whole, Nat.add_sub_cancel, block]

theorem measureBlock?_eq_some_iff {text : List Char} {labels : List Label} {count : Nat} :
    Label.measureBlock? text = some (labels, count) ↔
      ∃ block, block <+: text ∧ IsBlock block labels ∧ byteLength block = count := by
  constructor
  · intro measured
    rcases Option.map_eq_some_iff.mp measured with ⟨⟨found, rest⟩, read, -⟩
    rcases readBlock?_eq_some_iff.mp read with ⟨block, rfl, isBlock⟩
    rw [measureBlock?_of_isBlock isBlock] at measured
    cases measured
    exact ⟨block, List.prefix_append block rest, isBlock, rfl⟩
  · rintro ⟨block, ⟨rest, rfl⟩, isBlock, rfl⟩
    exact measureBlock?_of_isBlock isBlock rest

/-- The text after a measured block is what the reader of the block leaves. -/
theorem cut_measureBlock? (text : List Char) :
    ((Label.measureBlock? text).bind fun (labels, count) =>
      (dropBytes? count text).map fun after => (labels, after)) = Label.readBlock? text := by
  cases read : Label.readBlock? text with
  | none => rw [Label.measureBlock?, read, Option.map_none, Option.bind_none]
  | some result =>
      rcases result with ⟨labels, rest⟩
      rcases readBlock?_eq_some_iff.mp read with ⟨block, rfl, isBlock⟩
      simp only [measureBlock?_of_isBlock isBlock, Option.bind_some, dropBytes?_append,
        Option.map_some]

/-- Exactly the texts that start with a block have labels. The block at the start of a text is the
only one, its labels are the keys and the values that it derives, in their order, and its length in
bytes is the number that is measured, at which the text can be cut. -/
theorem measured_exactly (text : String) :
    ((Label.measureBlock? text.toList).isSome ↔
      ∃ block labels, block <+: text.toList ∧ IsBlock block labels) ∧
    ∀ block labels, block <+: text.toList → IsBlock block labels →
      Label.measureBlock? text.toList = some (labels, (String.ofList block).utf8ByteSize) ∧
        String.Pos.Raw.IsValid text ⟨(String.ofList block).utf8ByteSize⟩ ∧
        ∀ other others, other <+: text.toList → IsBlock other others →
          other = block ∧ others = labels := by
  refine ⟨⟨?derived, ?read⟩, ?only⟩
  case derived =>
    intro found
    rcases Option.isSome_iff_exists.mp found with ⟨⟨labels, count⟩, measured⟩
    rcases measureBlock?_eq_some_iff.mp measured with ⟨block, start, isBlock, -⟩
    exact ⟨block, labels, start, isBlock⟩
  case read =>
    rintro ⟨block, labels, start, isBlock⟩
    rw [measureBlock?_eq_some_iff.mpr ⟨block, start, isBlock, rfl⟩]
    rfl
  case only =>
    intro block labels start isBlock
    refine ⟨measureBlock?_eq_some_iff.mpr ⟨block, start, isBlock, rfl⟩, ?_, ?_⟩
    · rcases start with ⟨rest, same⟩
      apply String.Pos.Raw.isValid_iff_exists_append.mpr
      refine ⟨String.ofList block, String.ofList rest, ?_, rfl⟩
      rw [← String.ofList_append, same, String.ofList_toList]
    · intro other others alsoStart isOther
      exact isBlock.unique start isOther alsoStart

/-- A block with a key of two bytes, blanks, escapes, and a brace in its value. -/
def bracedBlock : String := "\x7b,é = \"\\n\\\"\x7d\"\x7d"

theorem bracedBlock_measured :
    IsBlock bracedBlock.toList [("é", "\n\"\x7d")] ∧
      Label.measureBlock? (bracedBlock ++ " 7").toList = some ([("é", "\n\"\x7d")], 15) := by
  have key : IsKey ['é'] := ⟨by decide, List.forall_mem_singleton.mpr (by decide), by decide⟩
  have space : ∀ blank ∈ [' '], isBlank blank = true := List.forall_mem_singleton.mpr (by decide)
  have escaped : IsEscaped ['\\', 'n', '\\', '"', '}'] ['\n', '"', '}'] :=
    .feed (.literal (by decide) (.plain (by decide) .nil))
  have comma : IsSeparation [','] := List.forall_mem_singleton.mpr (by decide)
  have none : IsSeparation [] := List.forall_mem_nil _
  have isBlock : IsBlock bracedBlock.toList [("é", "\n\"\x7d")] :=
    .intro (.label comma (.intro key space space escaped) (.brace none))
  have start : bracedBlock.toList <+: (bracedBlock ++ " 7").toList := by
    rw [String.toList_append]
    exact List.prefix_append _ _
  have bytes : (String.ofList bracedBlock.toList).utf8ByteSize = 15 := by decide
  have measured := ((measured_exactly (bracedBlock ++ " 7")).2 _ _ start isBlock).1
  rw [bytes] at measured
  exact ⟨isBlock, measured⟩

end Fleet.Telemetry
