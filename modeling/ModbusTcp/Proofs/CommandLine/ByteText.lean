import ModbusTcp.CommandLine.Arguments
import ModbusTcp.Proofs.Text.Characters
import ModbusTcp.Proofs.Text.Digits

/-!
# Texts of bytes

A byte is written as a decimal numeral, or as a hexadecimal one behind `0x` or `0X`, with blanks
around it or none. The reader takes exactly these texts, as long as the number is below 256
(`CommandLine.readByte_eq_ok_iff`). No text is both decimal and hexadecimal, because the marks are
no decimal digits.
-/

namespace ModbusTcp.CommandLine

variable {cs : List Char} {n : Nat}

/-- The characters write a number: in base sixteen behind `0x` or `0X`, else in base ten. -/
inductive Spells : List Char → Nat → Prop
  | decimal {cs : List Char} {n : Nat} (h : Number.Numeral 10 cs n) : Spells cs n
  | hex {mark : Char} {cs : List Char} {n : Nat} (hmark : mark = 'x' ∨ mark = 'X')
      (h : Number.Numeral 16 cs n) : Spells ('0' :: mark :: cs) n

theorem readByteChars_of_notMem (hx : 'x' ∉ cs) (hX : 'X' ∉ cs) :
    readByteChars cs = Number.readUnsigned 10 255 cs := by
  unfold readByteChars
  split
  · exact absurd (.tail _ (.head _)) hx
  · exact absurd (.tail _ (.head _)) hX
  · rfl

theorem readByteChars_hex {mark : Char} (hmark : mark = 'x' ∨ mark = 'X') (digits : List Char) :
    readByteChars ('0' :: mark :: digits) = Number.readUnsigned 16 255 digits := by
  rcases hmark with rfl | rfl <;> rfl

theorem spells_of_readByteChars (h : readByteChars cs = .ok n) : Spells cs n ∧ n ≤ 255 := by
  unfold readByteChars at h
  split at h <;>
    obtain ⟨hnumeral, hn⟩ := (Number.readUnsigned_eq_ok_iff (by omega) (by omega)).mp h
  · exact ⟨.hex (.inl rfl) hnumeral, hn⟩
  · exact ⟨.hex (.inr rfl) hnumeral, hn⟩
  · exact ⟨.decimal hnumeral, hn⟩

/-- A number is read if and only if the characters spell it and it is a byte. -/
theorem readByteChars_eq_ok_iff : readByteChars cs = .ok n ↔ Spells cs n ∧ n ≤ 255 := by
  constructor
  · exact spells_of_readByteChars
  · rintro ⟨hspells, hn⟩
    cases hspells with
    | decimal h =>
      have hdecimal := h.plus_or_digit (by omega)
      have hx : 'x' ∉ cs := fun hmem => absurd (hdecimal 'x' hmem) (by decide)
      have hX : 'X' ∉ cs := fun hmem => absurd (hdecimal 'X' hmem) (by decide)
      rw [readByteChars_of_notMem hx hX]
      exact (Number.readUnsigned_eq_ok_iff (by omega) (by omega)).mpr ⟨h, hn⟩
    | hex hmark h =>
      rw [readByteChars_hex hmark]
      exact (Number.readUnsigned_eq_ok_iff (by omega) (by omega)).mpr ⟨h, hn⟩

theorem Spells.not_isBlank (h : Spells cs n) : ∀ c ∈ cs, Blank.isBlank c = false := by
  cases h with
  | decimal h => exact h.not_isBlank (by omega)
  | @hex mark cs n hmark h =>
    have hmarkblank : Blank.isBlank mark = false := by
      rcases hmark with rfl | rfl <;> decide
    simpa using ⟨by decide, hmarkblank, h.not_isBlank (by omega)⟩

/-! ## The reader of bytes -/

theorem readByte_of_core {text : String} {core : List Char} (hcore : Blank.Core text.toList core)
    (hspells : Spells core n) (hn : n ≤ 255) : readByte text = .ok (UInt8.ofNat n) := by
  rw [readByte, hcore.trimList_eq, readByteChars_eq_ok_iff.mpr ⟨hspells, hn⟩]

/-- A byte is read if and only if the text spells it between its blanks. -/
theorem readByte_eq_ok_iff {text : String} {b : UInt8} :
    readByte text = .ok b ↔ ∃ core, Blank.Core text.toList core ∧ Spells core b.toNat := by
  constructor
  · intro h
    unfold readByte at h
    split at h
    · rename_i value hvalue
      cases h
      obtain ⟨hspells, hn⟩ := readByteChars_eq_ok_iff.mp hvalue
      rw [UInt8.toNat_ofNat_of_lt' (Nat.lt_succ_of_le hn)]
      exact ⟨_, Blank.core_trimList _, hspells⟩
    · cases h
  · rintro ⟨core, hcore, hspells⟩
    rw [readByte_of_core hcore hspells (Nat.le_of_lt_succ b.toNat_lt), UInt8.ofNat_toNat]

/-- A text without blanks that spells a byte is read as that byte. -/
theorem readByte_of_spells {text : String} {b : UInt8} (h : Spells text.toList b.toNat) :
    readByte text = .ok b :=
  readByte_eq_ok_iff.mpr ⟨_, Blank.core_self h.not_isBlank, h⟩

/-- A refusal quotes the text. -/
theorem eq_byte_of_readByte {text : String} {why : ValueFault} (h : readByte text = .error why) :
    ∃ fault, why = .byte text fault := by
  unfold readByte at h
  split at h
  · cases h
  · cases h
    exact ⟨_, rfl⟩

/-- A text is refused if and only if it spells no number below 256. -/
theorem readByte_eq_error_iff {text : String} :
    (∃ fault, readByte text = .error (.byte text fault)) ↔
      ∀ core n, Blank.Core text.toList core → Spells core n → 255 < n := by
  constructor
  · rintro ⟨fault, hfault⟩ core n hcore hspells
    by_contra hn
    rw [readByte_of_core hcore hspells (Nat.le_of_not_lt hn)] at hfault
    cases hfault
  · intro h
    rcases hread : readByte text with why | b
    · obtain ⟨fault, rfl⟩ := eq_byte_of_readByte hread
      exact ⟨fault, rfl⟩
    · obtain ⟨core, hcore, hspells⟩ := readByte_eq_ok_iff.mp hread
      exact absurd (h core b.toNat hcore hspells) (Nat.not_lt.mpr (Nat.le_of_lt_succ b.toNat_lt))

/-- A byte is read exactly from a text that has, between blanks, a decimal numeral, or a
hexadecimal one behind `0x` or `0X`, of a number below 256. Every other text is refused, and the
refusal quotes it as it is. So a byte has one value in decimal and in hexadecimal, behind any number
of zeros. -/
theorem readByte_exact :
    (∀ (text : String) (b : UInt8), readByte text = .ok b ↔
      ∃ core, Blank.Core text.toList core ∧ Spells core b.toNat) ∧
    (∀ text : String,
      (∃ fault, readByte text = .error (.byte text fault) ∧
        (ValueFault.byte text fault).message =
          "invalid byte value '" ++ text ++ "': " ++ fault.message) ↔
        ∀ core n, Blank.Core text.toList core → Spells core n → 255 < n) ∧
    ∀ (b : UInt8) (zeros : Nat),
      readByte (String.ofList (List.replicate zeros '0') ++ b.toNat.repr) = .ok b ∧
        readByte ("0x" ++ String.ofList (List.replicate zeros '0') ++ Hex.ofByte b) = .ok b := by
  refine ⟨fun text b => readByte_eq_ok_iff, ?_, ?_⟩
  · intro text
    rw [← readByte_eq_error_iff]
    refine exists_congr fun fault => and_iff_left ?_
    rfl
  · intro b zeros
    constructor
    · apply readByte_of_spells
      have hwritten := (Number.written_repr b.toNat).zeros (by omega) zeros
      simpa using Spells.decimal hwritten.numeral
    · apply readByte_of_spells
      have hwritten := (Number.written_byteChars b).zeros (by omega) zeros
      simpa [Hex.ofByte] using Spells.hex (.inl rfl) hwritten.numeral

example : readByte " 0X+00fF\u3000" = .ok 255 ∧
    readByte "0x0x1" = .error (.byte "0x0x1" .invalidDigit) := by decide

end ModbusTcp.CommandLine
