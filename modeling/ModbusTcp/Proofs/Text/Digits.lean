import Mathlib.Data.List.Forall2
import Mathlib.Data.Nat.Digits.Defs
import ModbusTcp.Bytes
import ModbusTcp.Text.Characters
import ModbusTcp.Text.Terminal

/-!
# Digits read back

What digits write is read back from them: the number that they spell in a base, the number inside
a longer text, and the bytes of a dump.
-/

namespace ModbusTcp

/-!
## Numbers read back

Reading digits gives the number that they write, as long as that number is in range: the reader
looks only at the values on the way to it, which are smaller. The decimal form of a number and its
hexadecimal forms are cases of this.
-/

namespace Number

variable {base bound value n : Nat} {beyond : Fault} {cs : List Char} {ds : List Nat}

/-- The characters are digits with these values. -/
def Digits (base : Nat) : List Char → List Nat → Prop :=
  List.Forall₂ fun c d => digitValue? base c = some d

/-- The number that more digits make of a value. -/
def evaluate (base value : Nat) (ds : List Nat) : Nat := ds.foldl (fun v d => base * v + d) value

theorem le_evaluate (hbase : 0 < base) : value ≤ evaluate base value ds := by
  induction ds generalizing value with
  | nil => exact Nat.le_refl _
  | cons d ds ih =>
    calc
      value ≤ base * value := Nat.le_mul_of_pos_left value hbase
      _ ≤ base * value + d := Nat.le_add_right _ _
      _ ≤ evaluate base value (d :: ds) := ih

/-- The digits are read if the number that they end at is in range. -/
theorem readDigits_of_digits (hbase : 0 < base) (h : Digits base cs ds)
    (hbound : evaluate base value ds ≤ bound) :
    readDigits base bound beyond value cs = .ok (evaluate base value ds) := by
  induction h generalizing value with
  | nil => rfl
  | @cons c d cs ds hc _ ih =>
    have hnext : base * value + d ≤ bound := (le_evaluate hbase).trans hbound
    simp only [readDigits, hc, hnext, if_true]
    exact ih hbound

theorem toNat_of_digitValue? {c : Char} {d : Nat} (h : digitValue? base c = some d) :
    48 ≤ c.toNat ∧ c.toNat ≤ 122 := by
  by_contra hout
  have hnone : ¬('0' ≤ c ∧ c ≤ '9') ∧ ¬('a' ≤ c ∧ c ≤ 'z') ∧ ¬('A' ≤ c ∧ c ≤ 'Z') := by
    simp only [Char.le_def, UInt32.le_iff_toNat_le, Char.toNat_val, Char.reduceToNat]
    omega
  simp [digitValue?, hnone] at h

theorem Digits.isSome_of_mem (h : Digits base cs ds) :
    ∀ c ∈ cs, (digitValue? base c).isSome = true := by
  induction h with
  | nil =>
    intro c hc
    cases hc
  | cons hd _ ih => exact List.forall_mem_cons.mpr ⟨Option.isSome_of_eq_some hd, ih⟩

/-- A sign is no digit. -/
theorem digitValue?_sign {c : Char} (h : c = '+' ∨ c = '-') : digitValue? base c = none := by
  rcases h with rfl | rfl
  all_goals simp [digitValue?]

theorem Digits.not_sign (h : Digits base cs ds) : ∀ c ∈ cs, c ≠ '+' ∧ c ≠ '-' := by
  intro c hc
  have hsome := h.isSome_of_mem c hc
  constructor
  · rintro rfl
    rw [digitValue?_sign (.inl rfl)] at hsome
    cases hsome
  · rintro rfl
    rw [digitValue?_sign (.inr rfl)] at hsome
    cases hsome

theorem readUnsigned_of_digits (hbase : 0 < base) (hne : cs ≠ []) (h : Digits base cs ds)
    (hbound : evaluate base 0 ds ≤ bound) :
    readUnsigned base bound cs = .ok (evaluate base 0 ds) := by
  unfold readUnsigned
  split
  · exact absurd rfl hne
  · exact absurd rfl (h.not_sign _ (.head _)).1
  · exact absurd rfl (h.not_sign _ (.head _)).1
  · exact readDigits_of_digits hbase h hbound

theorem readSigned_of_digits (hne : cs ≠ []) (h : Digits 10 cs ds)
    (hbound : evaluate 10 0 ds ≤ bound) :
    readSigned bound cs = .ok (Int.ofNat (evaluate 10 0 ds)) := by
  unfold readSigned
  split
  · exact absurd rfl hne
  · exact absurd rfl (h.not_sign _ (.head _)).1
  · exact absurd rfl (h.not_sign _ (.head _)).2
  · exact absurd rfl (h.not_sign _ (.head _)).1
  · exact absurd rfl (h.not_sign _ (.head _)).2
  · rw [readDigits_of_digits (by omega) h hbound]
    rfl

/-! ### Decimal -/

theorem digitValue?_of_isDigit {c : Char} (h : c.isDigit) :
    digitValue? 10 c = some (c.toNat - '0'.toNat) := by
  have hrange : '0' ≤ c ∧ c ≤ '9' := by
    simpa [Char.isDigit, Char.le_def] using h
  have hlast : c.toNat ≤ 57 := hrange.2
  have hvalue : c.toNat - 48 < 10 := by omega
  simp [digitValue?, hrange, hvalue]

theorem digits_repr (n : Nat) :
    Digits 10 n.repr.toList (n.repr.toList.map fun c => c.toNat - '0'.toNat) := by
  rw [Nat.toList_repr, Digits, List.forall₂_map_right_iff, List.forall₂_same]
  intro c hc
  exact digitValue?_of_isDigit (Nat.isDigit_of_mem_toDigits (by omega) (by omega) hc)

theorem evaluate_repr (n : Nat) :
    evaluate 10 0 (n.repr.toList.map fun c => c.toNat - '0'.toNat) = n := by
  rw [evaluate, List.foldl_map, Nat.toList_repr]
  exact Nat.ofDigitChars_toDigits (by omega) (by omega)

theorem repr_ne_nil (n : Nat) : n.repr.toList ≠ [] := by
  rw [Nat.toList_repr]
  exact Nat.toDigits_ne_nil

theorem readUnsigned_repr (h : n ≤ bound) : readUnsigned 10 bound n.repr.toList = .ok n := by
  have hread := @readUnsigned_of_digits 10 bound _ _ (by omega) (repr_ne_nil n) (digits_repr n)
  rw [evaluate_repr] at hread
  exact hread h

theorem readSigned_repr (h : n ≤ bound) : readSigned bound n.repr.toList = .ok (n : Int) := by
  have hread := @readSigned_of_digits bound _ _ (repr_ne_nil n) (digits_repr n)
  rw [evaluate_repr] at hread
  exact hread h

/-! ### Hexadecimal -/

/-- The character is the hexadecimal digit of a value, in upper or in lower case. -/
def IsHexDigit (c : Char) (d : Nat) : Prop := d < 16 ∧ (c = Hex.digit d ∨ c = Terminal.digit d)

theorem digitValue?_of_isHexDigit {c : Char} {d : Nat} (h : IsHexDigit c d) :
    digitValue? 16 c = some d := by
  have hdigits : ∀ d : Fin 16, digitValue? 16 (Hex.digit d) = some d.val ∧
      digitValue? 16 (Terminal.digit d) = some d.val := by decide
  obtain ⟨hd, rfl | rfl⟩ := h
  · exact (hdigits ⟨d, hd⟩).1
  · exact (hdigits ⟨d, hd⟩).2

theorem evaluate_eq_ofDigits (base : Nat) (ds : List Nat) :
    evaluate base 0 ds = Nat.ofDigits base ds.reverse := by
  rw [Nat.ofDigits_eq_foldr, List.foldr_reverse, evaluate]
  simp only [Nat.cast_id, Nat.add_comm]

/-! ### Numbers inside a text -/

/-- The number that a text spells, if it is made of digits. -/
def value? (base : Nat) (cs : List Char) : Option Nat :=
  if cs = [] then none else (cs.mapM (digitValue? base)).map (evaluate base 0)

/-- The character is a digit in the base. -/
def isDigit (base : Nat) (c : Char) : Bool := (digitValue? base c).isSome

/-- The number at the front of a text, as far as its digits go, and what stands behind it. -/
def front? (base : Nat) (cs : List Char) : Option (Nat × List Char) :=
  (value? base (cs.takeWhile (isDigit base))).map fun n => (n, cs.dropWhile (isDigit base))

theorem value?_of_digits (hne : cs ≠ []) (h : Digits base cs ds) :
    value? base cs = some (evaluate base 0 ds) := by
  have hvalues : cs.mapM (digitValue? base) = some ds := by
    clear hne
    induction h with
    | nil => rfl
    | cons hd _ ih => simp [hd, ih]
  rw [value?, if_neg hne, hvalues, Option.map_some]

/-- A number ends at the first character that is no digit. -/
theorem front?_repr_append {head : List Char} (h : head.head?.map (isDigit 10) = some false)
    (n : Nat) (rest : List Char) :
    front? 10 (n.repr.toList ++ (head ++ rest)) = some (n, head ++ rest) := by
  obtain ⟨c, hhead, hc⟩ := Option.map_eq_some_iff.mp h
  obtain ⟨tail, rfl⟩ := List.head?_eq_some_iff.mp hhead
  have hstop : ¬ isDigit 10 c = true := Bool.eq_false_iff.mp hc
  have hdigits : ∀ c ∈ n.repr.toList, isDigit 10 c = true := (digits_repr n).isSome_of_mem
  have hvalue := value?_of_digits (repr_ne_nil n) (digits_repr n)
  rw [evaluate_repr] at hvalue
  rw [front?, List.takeWhile_append_of_pos hdigits, List.dropWhile_append_of_pos hdigits,
    List.cons_append, List.takeWhile_cons_of_neg hstop, List.dropWhile_cons_of_neg hstop,
    List.append_nil, hvalue, Option.map_some]

/-!
## Numerals

A numeral is one digit or more, with a plus sign in front or none (`Number.Numeral`). Its value is
that of its digits, however many of them are zeros at the front. A reader takes exactly the
numerals whose value is in range (`Number.readUnsigned_eq_ok_iff`): digits behind the one that takes
the value out of range cannot bring it back, because more digits never make a number smaller.
-/

/-- The character is the digit of a value in a base up to sixteen, in upper or in lower case. -/
def IsDigitOf (base : Nat) (c : Char) (d : Nat) : Prop := d < base ∧ IsHexDigit c d

/-- The characters are one digit or more, and write a number. -/
def Written (base : Nat) (cs : List Char) (n : Nat) : Prop :=
  cs ≠ [] ∧ ∃ ds, List.Forall₂ (IsDigitOf base) cs ds ∧ Nat.ofDigits base ds.reverse = n

/-- The characters write a number, perhaps with a plus sign in front. -/
def Numeral (base : Nat) (cs : List Char) (n : Nat) : Prop :=
  ∃ sign digits, cs = sign ++ digits ∧ (sign = [] ∨ sign = ['+']) ∧ Written base digits n

/-! ### Digits -/

/-- A digit has the same value in every base in which it is one. -/
theorem digitValue?_eq_some_iff_lt {c : Char} {d : Nat} (hbase : base ≤ 16) :
    digitValue? base c = some d ↔ d < base ∧ digitValue? 16 c = some d := by
  unfold digitValue?
  split_ifs <;> simp <;> omega

theorem isHexDigit_of_digitValue? {c : Char} {d : Nat} (h : digitValue? 16 c = some d) :
    IsHexDigit c d := by
  have hrange {first last : Char} : first ≤ c ∧ c ≤ last ↔
      first.toNat ≤ c.toNat ∧ c.toNat ≤ last.toNat := Iff.rfl
  have hchar {n : Nat} (hn : n = c.toNat) : c = Char.ofNat n := by rw [hn, Char.ofNat_toNat]
  simp only [digitValue?, hrange, Char.reduceToNat] at h
  split_ifs at h with hdecimal _ hlower _ hupper
  · cases h
    refine ⟨by omega, .inl ?_⟩
    rw [Hex.digit, if_pos (by omega)]
    exact hchar (by omega)
  · cases h
    refine ⟨by omega, .inr ?_⟩
    rw [Terminal.digit, if_neg (by omega)]
    exact hchar (by omega)
  · cases h
    refine ⟨by omega, .inl ?_⟩
    rw [Hex.digit, if_neg (by omega)]
    exact hchar (by omega)
  · exact absurd ‹16 < 16› (by omega)

theorem digitValue?_eq_some_iff {c : Char} {d : Nat} (hbase : base ≤ 16) :
    digitValue? base c = some d ↔ IsDigitOf base c d := by
  rw [digitValue?_eq_some_iff_lt hbase, IsDigitOf]
  exact and_congr_right fun _ => ⟨isHexDigit_of_digitValue?, digitValue?_of_isHexDigit⟩

theorem digits_iff (hbase : base ≤ 16) :
    Digits base cs ds ↔ List.Forall₂ (IsDigitOf base) cs ds := by
  constructor
  · exact List.Forall₂.imp fun _ _ => (digitValue?_eq_some_iff hbase).mp
  · exact List.Forall₂.imp fun _ _ => (digitValue?_eq_some_iff hbase).mpr

theorem written_iff (hbase : base ≤ 16) :
    Written base cs n ↔ cs ≠ [] ∧ ∃ ds, Digits base cs ds ∧ evaluate base 0 ds = n := by
  simp only [Written, ← digits_iff hbase, evaluate_eq_ofDigits]

/-! ### Reading -/

/-- Digits are read if and only if the number that they end at is in range. -/
theorem readDigits_eq_ok_iff (hpos : 0 < base) (hvalue : value ≤ bound) :
    readDigits base bound beyond value cs = .ok n ↔
      (∃ ds, Digits base cs ds ∧ evaluate base value ds = n) ∧ n ≤ bound := by
  constructor
  · intro h
    induction cs generalizing value with
    | nil =>
      cases h
      exact ⟨⟨[], .nil, rfl⟩, hvalue⟩
    | cons c cs ih =>
      rcases hc : digitValue? base c with _ | d
      · simp [readDigits, hc] at h
      · by_cases hnext : base * value + d ≤ bound
        · simp only [readDigits, hc, hnext, if_true] at h
          obtain ⟨⟨ds, hds, hn⟩, hbound⟩ := ih hnext h
          exact ⟨⟨d :: ds, .cons hc hds, hn⟩, hbound⟩
        · simp [readDigits, hc, hnext] at h
  · rintro ⟨⟨ds, hds, rfl⟩, hbound⟩
    exact readDigits_of_digits hpos hds hbound

theorem readUnsigned_plus (hne : cs ≠ []) :
    readUnsigned base bound ('+' :: cs) = readDigits base bound .tooLarge 0 cs := by
  cases cs with
  | nil => exact absurd rfl hne
  | cons c cs => rfl

/-- What is read is digits, behind a plus sign or without one. -/
theorem digits_of_readUnsigned (h : readUnsigned base bound cs = .ok n) :
    ∃ sign digits, cs = sign ++ digits ∧ (sign = [] ∨ sign = ['+']) ∧ digits ≠ [] ∧
      readDigits base bound .tooLarge 0 digits = .ok n := by
  unfold readUnsigned at h
  split at h
  · cases h
  · cases h
  · rename_i digits hne
    exact ⟨['+'], digits, rfl, .inr rfl, hne, h⟩
  · rename_i hne _ _
    exact ⟨[], cs, rfl, .inl rfl, hne, h⟩

/-- A number is read if and only if the text is a numeral of it and it is in range. -/
theorem readUnsigned_eq_ok_iff (hpos : 0 < base) (hbase : base ≤ 16) :
    readUnsigned base bound cs = .ok n ↔ Numeral base cs n ∧ n ≤ bound := by
  constructor
  · intro h
    obtain ⟨sign, digits, rfl, hsign, hne, hread⟩ := digits_of_readUnsigned h
    obtain ⟨hds, hbound⟩ := (readDigits_eq_ok_iff hpos (Nat.zero_le _)).mp hread
    exact ⟨⟨sign, digits, rfl, hsign, (written_iff hbase).mpr ⟨hne, hds⟩⟩, hbound⟩
  · rintro ⟨⟨sign, digits, rfl, hsign, hwritten⟩, hbound⟩
    obtain ⟨hne, ds, hds, rfl⟩ := (written_iff hbase).mp hwritten
    rcases hsign with rfl | rfl
    · exact readUnsigned_of_digits hpos hne hds hbound
    · exact (readUnsigned_plus hne).trans (readDigits_of_digits hpos hds hbound)

/-! ### Writing -/

theorem Written.numeral (h : Written base cs n) : Numeral base cs n := ⟨[], cs, rfl, .inl rfl, h⟩

/-- Zeros at the front are digits too, and leave the value as it is. -/
theorem Written.zeros (hpos : 0 < base) (h : Written base cs n) (k : Nat) :
    Written base (List.replicate k '0' ++ cs) n := by
  obtain ⟨hne, ds, hcs, rfl⟩ := h
  refine ⟨by simp [hne], List.replicate k 0 ++ ds, ?_, ?_⟩
  · induction k with
    | zero => exact hcs
    | succ k ih => exact .cons ⟨hpos, by decide, by decide⟩ ih
  · rw [List.reverse_append, List.reverse_replicate, Nat.ofDigits_append_replicate_zero]

/-- The decimal form of a number writes it. -/
theorem written_repr (n : Nat) : Written 10 n.repr.toList n :=
  (written_iff (by omega)).mpr ⟨repr_ne_nil n, _, digits_repr n, evaluate_repr n⟩

theorem isDigitOf_digit {d : Nat} (hd : d < 16) : IsDigitOf 16 (Hex.digit d) d :=
  ⟨hd, hd, .inl rfl⟩

/-- The two digits of a byte write it. -/
theorem written_byteChars (b : UInt8) : Written 16 (Hex.byteChars b) b.toNat := by
  have hb : b.toNat < 256 := b.toNat_lt
  have hhigh := isDigitOf_digit (d := b.toNat / 16) (by omega)
  have hlow := isDigitOf_digit (d := b.toNat % 16) (by omega)
  refine ⟨List.cons_ne_nil _ _, [b.toNat / 16, b.toNat % 16], .cons hhigh (.cons hlow .nil), ?_⟩
  simp only [List.reverse_cons, List.reverse_nil, List.nil_append, List.singleton_append,
    Nat.ofDigits_cons, Nat.ofDigits_nil]
  omega

/-- A numeral is made of digits and the plus sign. -/
theorem Numeral.plus_or_digit (hbase : base ≤ 16) (h : Numeral base cs n) :
    ∀ c ∈ cs, c = '+' ∨ isDigit base c = true := by
  obtain ⟨sign, digits, rfl, hsign, hwritten⟩ := h
  obtain ⟨-, ds, hds, -⟩ := (written_iff hbase).mp hwritten
  intro c hc
  rcases List.mem_append.mp hc with hc | hc
  · rcases hsign with rfl | rfl
    · cases hc
    · exact .inl (List.mem_singleton.mp hc)
  · exact .inr (hds.isSome_of_mem c hc)

theorem Numeral.not_isBlank (hbase : base ≤ 16) (h : Numeral base cs n) :
    ∀ c ∈ cs, Blank.isBlank c = false := by
  intro c hc
  rcases h.plus_or_digit hbase c hc with rfl | hdigit
  · decide
  · obtain ⟨d, hd⟩ := Option.isSome_iff_exists.mp hdigit
    have hrange := toNat_of_digitValue? hd
    exact Blank.isBlank_eq_false (by omega) (by omega)

end Number

namespace Hex

/-!
## Reading a dump back

A dump is taken apart at its spaces, and in each piece two hexadecimal digits are a byte
(`Hex.readDump?`). This undoes `Hex.dump` for every byte string (`Hex.readDump?_dump`), so a dump
shows all of what was dumped (`Hex.dump_injective`).
-/

/-- The bytes that pairs of hexadecimal digits spell. -/
def readPairs? : List Char → Option Bytes
  | [] => some []
  | [_] => none
  | hi :: lo :: rest => do
    let high ← Number.digitValue? 16 hi
    let low ← Number.digitValue? 16 lo
    let bytes ← readPairs? rest
    return UInt8.ofNat (16 * high + low) :: bytes

/-- The bytes that a text spells in pairs of hexadecimal digits, with spaces between them. -/
def readDump? (text : String) : Option Bytes :=
  ((text.toList.splitOn ' ').mapM readPairs?).map List.flatten

theorem digitValue?_digit {n : Nat} (h : n < 16) : Number.digitValue? 16 (digit n) = some n :=
  Number.digitValue?_of_isHexDigit ⟨h, .inl rfl⟩

theorem digit_ne_space {n : Nat} (h : n < 16) : digit n ≠ ' ' := by
  have hall : ∀ n < 16, digit n ≠ ' ' := by decide
  exact hall n h

theorem readPairs?_byteChars (b : UInt8) : readPairs? (byteChars b) = some [b] := by
  have hb := b.toNat_lt
  have hsum : 16 * (b.toNat / 16) + b.toNat % 16 = b.toNat := Nat.div_add_mod b.toNat 16
  have hhigh := digitValue?_digit (n := b.toNat / 16) (by omega)
  have hlow := digitValue?_digit (n := b.toNat % 16) (by omega)
  simp only [readPairs?, byteChars, hhigh, hlow, Option.bind_eq_bind, Option.bind_some,
    Option.pure_def, hsum, UInt8.ofNat_toNat]

theorem space_notMem_byteChars (b : UInt8) : ' ' ∉ byteChars b := by
  have hb := b.toNat_lt
  intro hmem
  rw [byteChars, List.mem_cons, List.mem_singleton] at hmem
  rcases hmem with h | h
  · exact digit_ne_space (by omega) h.symm
  · exact digit_ne_space (by omega) h.symm

theorem dumpChars_eq_intercalate (data : Bytes) :
    dumpChars data = [' '].intercalate (data.map byteChars) := by
  induction data with
  | nil => rfl
  | cons b rest ih =>
    cases rest with
    | nil => simp [dumpChars]
    | cons next rest => simp [dumpChars, ih]

/-- The pieces of a dump are the digits of the bytes; the dump of nothing is one empty piece. -/
theorem splitOn_dumpChars {data : Bytes} (h : data ≠ []) :
    (dumpChars data).splitOn ' ' = data.map byteChars := by
  rw [dumpChars_eq_intercalate]
  apply List.splitOn_intercalate
  · intro piece hpiece
    obtain ⟨b, -, rfl⟩ := List.mem_map.mp hpiece
    exact space_notMem_byteChars b
  · simpa using h

theorem mapM_readPairs?_byteChars (data : Bytes) :
    (data.map byteChars).mapM readPairs? = some (data.map fun b => [b]) := by
  induction data with
  | nil => rfl
  | cons b rest ih => simp [readPairs?_byteChars, ih]

/-- A dump gives back the bytes that were dumped. -/
@[simp]
theorem readDump?_dump (data : Bytes) : readDump? (dump data) = some data := by
  unfold readDump? dump
  rw [String.toList_ofList]
  by_cases h : data = []
  · subst h
    rfl
  · rw [splitOn_dumpChars h, mapM_readPairs?_byteChars, Option.map_some, ← List.flatMap_def,
      List.flatMap_singleton']

theorem dump_injective : Function.Injective dump := by
  intro data other h
  have hread := readDump?_dump data
  rw [h, readDump?_dump] at hread
  exact (Option.some.inj hread).symm

end Hex

end ModbusTcp
