import Fleet.Proofs.Text
import Fleet.Text.Percent

/-!
# Writing escapes

A writer of addresses keeps some characters as they are and writes the octets of all others as
escapes. Whichever characters it keeps, the percent sign apart, what it writes stands for the text
that it was given, and differs from it as soon as there is a character that it does not keep.
-/

namespace Fleet.Text

/-! ## Octets -/

theorem toList_loop (bytes : ByteArray) (index : Nat) (read : List UInt8) :
    ByteArray.toList.loop bytes index read = read.reverse ++ bytes.data.toList.drop index := by
  fun_induction ByteArray.toList.loop bytes index read with
  | case1 index read more ih =>
      have known : index < bytes.data.toList.length := by simpa using more
      have next : bytes.get! index = bytes.data.toList[index] := by
        change bytes.data[index]! = _
        rw [getElem!_pos bytes.data index more, Array.getElem_toList]
      rw [ih, List.drop_eq_getElem_cons known, next, List.reverse_cons, List.append_assoc,
        List.singleton_append]
  | case2 index read done =>
      have past : bytes.data.toList.length ≤ index := by simpa using Nat.le_of_not_lt done
      rw [List.drop_eq_nil_of_le past, List.append_nil]

theorem octets_eq (character : Char) : octets character = String.utf8EncodeChar character := by
  rw [octets, String.toUTF8_eq_toByteArray, String.toByteArray_singleton, ByteArray.toList,
    toList_loop, List.utf8Encode, List.data_toByteArray]
  simp

theorem octets_ne_nil (character : Char) : octets character ≠ [] := by
  rw [octets_eq, ← List.length_pos_iff, String.length_utf8EncodeChar]
  exact character.utf8Size_pos

/-- The octets of a text are read back as the text. -/
theorem fromUTF8?_octets (text : List Char) :
    String.fromUTF8? (ByteArray.mk (text.flatMap octets).toArray) = some (String.ofList text) := by
  have encoded : ByteArray.mk (text.flatMap octets).toArray = text.utf8Encode := by
    apply ByteArray.ext
    rw [List.utf8Encode, List.data_toByteArray, funext octets_eq]
  rw [encoded, String.fromUTF8?, dif_pos ByteArray.isValidUTF8_utf8Encode]
  exact congrArg some (String.toByteArray_inj.mp String.toByteArray_ofList.symm)

/-! ## Escapes -/

/-- A way to write escapes: which characters are kept, and the digits of the others. -/
structure Escaping where
  keeps : Char → Bool
  digit : Fin 16 → Char
  percent : keeps '%' = false := by decide
  value : ∀ number, hexValue? (digit number) = some number.val := by decide

namespace Escaping

/-- The kept characters are ASCII letters, digits and four marks, and the digits capital letters. -/
def standard : Escaping where
  keeps character := isAlphanumeric character || ['-', '.', '_', '~'].contains character
  digit number := "0123456789ABCDEF".toList[number]

variable (escaping : Escaping)

def writeOctet (octet : UInt8) : List Char :=
  ['%', escaping.digit ⟨octet.toNat / 16, by have := octet.toNat_lt; omega⟩,
    escaping.digit ⟨octet.toNat % 16, by omega⟩]

def writeCharacter (character : Char) : List Char :=
  if escaping.keeps character then [character]
  else (octets character).flatMap escaping.writeOctet

/-- The text with escapes. -/
def write (text : List Char) : List Char :=
  text.flatMap escaping.writeCharacter

variable {escaping}

theorem unescapedOctets_writeOctet (octet : UInt8) (rest : List Char) :
    unescapedOctets (escaping.writeOctet octet ++ rest) = octet :: unescapedOctets rest := by
  have parts : 16 * (octet.toNat / 16) + octet.toNat % 16 = octet.toNat := Nat.div_add_mod _ _
  simp only [writeOctet, List.cons_append, List.nil_append, unescapedOctets, escaping.value, parts,
    UInt8.ofNat_toNat]

theorem unescapedOctets_cons {character : Char} (other : character ≠ '%') (rest : List Char) :
    unescapedOctets (character :: rest) = octets character ++ unescapedOctets rest := by
  rw [unescapedOctets]
  rintro high low after rfl -
  exact other rfl

theorem writeCharacter_of_keeps {character : Char} (kept : escaping.keeps character = true) :
    escaping.writeCharacter character = [character] := by
  rw [writeCharacter, if_pos kept]

theorem writeCharacter_of_not_keeps {character : Char} (lost : ¬escaping.keeps character = true) :
    escaping.writeCharacter character = (octets character).flatMap escaping.writeOctet := by
  rw [writeCharacter, if_neg lost]

theorem unescapedOctets_writeCharacter (character : Char) (rest : List Char) :
    unescapedOctets (escaping.writeCharacter character ++ rest) =
      octets character ++ unescapedOctets rest := by
  by_cases kept : escaping.keeps character = true
  · rw [writeCharacter_of_keeps kept, List.singleton_append]
    apply unescapedOctets_cons
    rintro rfl
    rw [escaping.percent] at kept
    cases kept
  · rw [writeCharacter_of_not_keeps kept]
    induction octets character with
    | nil => rfl
    | cons octet others ih =>
        rw [List.flatMap_cons, List.append_assoc, unescapedOctets_writeOctet, ih, List.cons_append]

theorem unescapedOctets_write (text : List Char) :
    unescapedOctets (escaping.write text) = text.flatMap octets := by
  induction text with
  | nil => rfl
  | cons character text ih =>
      rw [write, List.flatMap_cons, unescapedOctets_writeCharacter, ← write, ih, List.flatMap_cons]

/-- What is written stands for the text that it was written for. -/
theorem unescape?_write (text : List Char) :
    unescape? (String.ofList (escaping.write text)) = some (String.ofList text) := by
  rw [unescape?, String.toList_ofList, unescapedOctets_write, fromUTF8?_octets]

/-- An escape is longer than the character that it stands for. -/
theorem one_lt_length_writeCharacter {character : Char}
    (lost : ¬escaping.keeps character = true) :
    1 < (escaping.writeCharacter character).length := by
  rw [writeCharacter_of_not_keeps lost]
  rcases List.exists_cons_of_ne_nil (octets_ne_nil character) with ⟨octet, others, octets⟩
  rw [octets, List.flatMap_cons, List.length_append, writeOctet]
  simp only [List.length_cons, List.length_nil]
  omega

theorem length_le_length_write (text : List Char) :
    text.length ≤ (escaping.write text).length := by
  induction text with
  | nil => exact Nat.le_refl 0
  | cons character text ih =>
      have long : 1 ≤ (escaping.writeCharacter character).length := by
        by_cases kept : escaping.keeps character = true
        · rw [writeCharacter_of_keeps kept, List.length_singleton]
        · exact Nat.le_of_lt (one_lt_length_writeCharacter kept)
      rw [write, List.flatMap_cons, List.length_append, List.length_cons, ← write]
      omega

/-- A text is written as it is exactly if all its characters are kept. -/
theorem write_eq_self_iff {text : List Char} :
    escaping.write text = text ↔ ∀ character ∈ text, escaping.keeps character = true := by
  induction text with
  | nil => simp [write]
  | cons character text ih =>
      rw [List.forall_mem_cons, write, List.flatMap_cons, ← write]
      by_cases kept : escaping.keeps character = true
      · rw [writeCharacter_of_keeps kept, List.singleton_append, List.cons_inj_right, ih]
        simp only [kept, true_and]
      · have longer := one_lt_length_writeCharacter kept
        have rest := @length_le_length_write escaping text
        refine ⟨fun same => ?_, fun all => absurd all.1 kept⟩
        have lengths := congrArg List.length same
        rw [List.length_append, List.length_cons] at lengths
        omega

/-- A character that is neither kept nor part of an escape does not occur in what is written. -/
theorem not_mem_write {character : Char} (lost : escaping.keeps character = false)
    (mark : character ≠ '%') (letter : hexValue? character = none) (text : List Char) :
    character ∉ escaping.write text := by
  intro among
  rcases List.mem_flatMap.mp among with ⟨source, -, written⟩
  by_cases kept : escaping.keeps source = true
  · rw [writeCharacter_of_keeps kept, List.mem_singleton] at written
    rw [written, kept] at lost
    cases lost
  · rw [writeCharacter_of_not_keeps kept] at written
    rcases List.mem_flatMap.mp written with ⟨octet, -, part⟩
    simp only [writeOctet, List.mem_cons, mark, List.not_mem_nil, or_false, false_or] at part
    rcases part with rfl | rfl <;> simp [escaping.value] at letter

end Escaping

end Fleet.Text
