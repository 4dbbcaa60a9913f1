/-!
# Bytes and big-endian words

Everything on the wire is a list of bytes. A 16-bit field takes two of them, the more significant
one first; `Word.toBytes` writes one, `Word.ofBytes` reads one, and the two undo each other
(`Word.ofBytes_high_low`, `Word.high_ofBytes`, `Word.low_ofBytes`). A block of registers is words
without separators. For the eye, bytes and words are written in hexadecimal digits (`Hex.dump`).
-/

namespace ModbusTcp

/-- A string of bytes as it stands on the wire, the first one first. -/
abbrev Bytes := List UInt8

namespace Word

/-- The more significant byte of a word. -/
def high (w : UInt16) : UInt8 := UInt8.ofNat (w.toNat / 256)

/-- The less significant byte of a word. -/
def low (w : UInt16) : UInt8 := UInt8.ofNat (w.toNat % 256)

/-- The word that `hi` and `lo` spell. -/
def ofBytes (hi lo : UInt8) : UInt16 := UInt16.ofNat (256 * hi.toNat + lo.toNat)

/-- The two bytes of a word, the more significant one first. -/
def toBytes (w : UInt16) : Bytes := [high w, low w]

/-- The words that a block of bytes spells; an odd last byte spells none. -/
def listOfBytes : Bytes → List UInt16
  | hi :: lo :: rest => ofBytes hi lo :: listOfBytes rest
  | _ => []

/-- The bytes of a block of words, without separators. -/
def listToBytes (ws : List UInt16) : Bytes := ws.flatMap toBytes

theorem toNat_ofBytes (hi lo : UInt8) : (ofBytes hi lo).toNat = 256 * hi.toNat + lo.toNat := by
  have := hi.toNat_lt
  have := lo.toNat_lt
  simp only [ofBytes, UInt16.toNat_ofNat']
  omega

theorem toNat_high (w : UInt16) : (high w).toNat = w.toNat / 256 := by
  have := w.toNat_lt
  simp only [high, UInt8.toNat_ofNat']
  omega

theorem toNat_low (w : UInt16) : (low w).toNat = w.toNat % 256 := by
  simp only [low, UInt8.toNat_ofNat']
  omega

@[simp]
theorem ofBytes_high_low (w : UInt16) : ofBytes (high w) (low w) = w := by
  rw [← UInt16.toNat_inj, toNat_ofBytes, toNat_high, toNat_low]
  omega

@[simp]
theorem high_ofBytes (hi lo : UInt8) : high (ofBytes hi lo) = hi := by
  have := lo.toNat_lt
  rw [← UInt8.toNat_inj, toNat_high, toNat_ofBytes]
  omega

@[simp]
theorem low_ofBytes (hi lo : UInt8) : low (ofBytes hi lo) = lo := by
  have := lo.toNat_lt
  rw [← UInt8.toNat_inj, toNat_low, toNat_ofBytes]
  omega

@[simp]
theorem length_toBytes (w : UInt16) : (toBytes w).length = 2 := rfl

@[simp]
theorem listOfBytes_nil : listOfBytes [] = [] := rfl

@[simp]
theorem listOfBytes_cons_cons (hi lo : UInt8) (rest : Bytes) :
    listOfBytes (hi :: lo :: rest) = ofBytes hi lo :: listOfBytes rest := rfl

@[simp]
theorem listToBytes_nil : listToBytes [] = [] := rfl

@[simp]
theorem listToBytes_cons (w : UInt16) (ws : List UInt16) :
    listToBytes (w :: ws) = high w :: low w :: listToBytes ws := rfl

/-- Reading back what was written gives the same words. -/
@[simp]
theorem listOfBytes_listToBytes (ws : List UInt16) : listOfBytes (listToBytes ws) = ws := by
  induction ws with
  | nil => rfl
  | cons w ws ih => simp [ih]

/-- The beginning of a block spells the first of its words; half a word spells none. -/
theorem listOfBytes_take (bs : Bytes) (n : Nat) :
    listOfBytes (bs.take n) = (listOfBytes bs).take (n / 2) := by
  induction bs using listOfBytes.induct generalizing n with
  | case1 hi lo rest ih =>
    match n with
    | 0 => rfl
    | 1 => rfl
    | n + 2 =>
      have hhalf : (n + 2) / 2 = n / 2 + 1 := by omega
      rw [hhalf]
      simp [ih]
  | case2 bs hshort =>
    -- at most one byte is left, and no piece of it spells a word
    match bs, hshort with
    | [], _ => simp
    | [b], _ => cases n <;> simp [listOfBytes]
    | hi :: lo :: rest, hshort => exact (hshort hi lo rest rfl).elim

/-- A block spells half as many words as it has bytes. -/
theorem length_listOfBytes (bs : Bytes) : (listOfBytes bs).length = bs.length / 2 := by
  induction bs using listOfBytes.induct with
  | case1 hi lo rest ih =>
    rw [listOfBytes_cons_cons, List.length_cons, List.length_cons, List.length_cons, ih]
    omega
  | case2 bs hshort =>
    match bs, hshort with
    | [], _ => simp
    | [b], _ => simp [listOfBytes]
    | hi :: lo :: rest, hshort => exact (hshort hi lo rest rfl).elim

/-- Writing what was read gives the same bytes, but for an odd last one. -/
theorem listToBytes_listOfBytes (bs : Bytes) :
    listToBytes (listOfBytes bs) = bs.take (2 * (bs.length / 2)) := by
  induction bs using listOfBytes.induct with
  | case1 hi lo rest ih =>
    have hhalf : 2 * ((rest.length + 1 + 1) / 2) = 2 * (rest.length / 2) + 2 := by omega
    rw [listOfBytes_cons_cons, listToBytes_cons, high_ofBytes, low_ofBytes, ih, List.length_cons,
      List.length_cons, hhalf, List.take_succ_cons, List.take_succ_cons]
  | case2 bs hshort =>
    match bs, hshort with
    | [], _ => simp
    | [b], _ => simp [listOfBytes]
    | hi :: lo :: rest, hshort => exact (hshort hi lo rest rfl).elim

/-- The words that a block spells are told by their number and their bytes. -/
theorem listOfBytes_eq_iff {bs : Bytes} {ws : List UInt16} :
    listOfBytes bs = ws ↔
      ws.length = bs.length / 2 ∧ listToBytes ws = bs.take (2 * ws.length) := by
  constructor
  · rintro rfl
    rw [length_listOfBytes]
    exact ⟨rfl, listToBytes_listOfBytes bs⟩
  · rintro ⟨hlength, hbytes⟩
    have hall : (listOfBytes bs).take ws.length = listOfBytes bs := by
      apply List.take_of_length_le
      apply Nat.le_of_eq
      rw [length_listOfBytes, hlength]
    calc listOfBytes bs = (listOfBytes bs).take (2 * ws.length / 2) := by
          rw [Nat.mul_div_cancel_left _ (by decide), hall]
      _ = listOfBytes (bs.take (2 * ws.length)) := (listOfBytes_take bs _).symm
      _ = ws := by rw [← hbytes, listOfBytes_listToBytes]

@[simp]
theorem length_listToBytes (ws : List UInt16) : (listToBytes ws).length = 2 * ws.length := by
  induction ws with
  | nil => rfl
  | cons w ws ih =>
    simp only [listToBytes_cons, List.length_cons, ih]
    omega

end Word

end ModbusTcp

namespace ModbusTcp.Hex

/-!
## Upper-case hexadecimal

Bytes are shown as two upper-case hexadecimal digits and words as four. A dump of a byte string has
one space between two bytes, and the dump of nothing is empty.
-/

/-- The hexadecimal digit of a number below sixteen. -/
def digit (n : Nat) : Char := if n < 10 then Char.ofNat (48 + n) else Char.ofNat (55 + n)

/-- The two digits of a byte, the more significant one first. -/
def byteChars (b : UInt8) : List Char := [digit (b.toNat / 16), digit (b.toNat % 16)]

/-- A byte as two digits. -/
def ofByte (b : UInt8) : String := String.ofList (byteChars b)

/-- A word as four digits. -/
def ofWord (w : UInt16) : String :=
  String.ofList (byteChars (Word.high w) ++ byteChars (Word.low w))

/-- The characters of a dump: the digits of each byte, and a space between two bytes. -/
def dumpChars : Bytes → List Char
  | [] => []
  | [b] => byteChars b
  | b :: rest => byteChars b ++ ' ' :: dumpChars rest

/-- A byte string for the eye: two digits a byte, with single spaces between. -/
def dump (data : Bytes) : String := String.ofList (dumpChars data)

end ModbusTcp.Hex
