import ModbusTcp.Proofs.Wire.Collection

/-!
# Streams that only bring bytes

A plain stream brings bytes, in chunks cut anywhere, and interrupted reads between them. Reading
from it never waits, so what an exact read does depends on its bytes alone and not on how they are
cut (`Arrival.readExact_plain`), and collecting from it stops right behind a frame
(`Wire.collect_frame`). A willing peer takes whatever is written (`Uptake.writeAll_willing`).
-/

namespace ModbusTcp

namespace Arrival

/-- A chunk of bytes, or a read that is to be tried again. -/
def isPlain : Arrival → Bool
  | .data _ => true
  | .fault f => f.kind == .interrupted
  | .eof | .pause _ => false

/-- Enough bytes on a plain stream: an exact read takes what it wants, in no time. -/
theorem readExact_plain (d : Deadline) (now want : Nat) (got : Bytes) {events : List Arrival}
    (hplain : events.all isPlain) (henough : want ≤ (bytes events).length) :
    ∃ rest, readExact d now want got events =
        ⟨.ready (.ok (got ++ (bytes events).take want)), rest, now⟩ ∧
      bytes rest = (bytes events).drop want ∧ rest.all isPlain := by
  induction events generalizing want got with
  | nil =>
    have hwant : want = 0 := Nat.le_zero.mp henough
    subst hwant
    exact ⟨[], by simp [readExact], rfl, rfl⟩
  | cons event rest ih =>
    rw [List.all_cons, Bool.and_eq_true] at hplain
    obtain ⟨hevent, hrest⟩ := hplain
    by_cases hwant : want = 0
    · subst hwant
      refine ⟨event :: rest, by simp [readExact], rfl, ?_⟩
      simp [hevent, hrest]
    · cases event with
      | data chunk =>
        rw [bytes, List.length_append] at henough
        by_cases hlt : want < chunk.length
        · refine ⟨.data (chunk.drop want) :: rest, ?_, ?_, ?_⟩
          · simp [readExact, hwant, hlt, bytes, List.take_append_of_le_length (Nat.le_of_lt hlt)]
          · simp [bytes, List.drop_append_of_le_length (Nat.le_of_lt hlt)]
          · simp [hrest, isPlain]
        -- the chunk is not enough: the read goes on behind it
        · have hle : chunk.length ≤ want := Nat.le_of_not_lt hlt
          obtain ⟨left, hread, hbytes, hleft⟩ :=
            ih (want - chunk.length) (got ++ chunk) hrest (by omega)
          refine ⟨left, ?_, ?_, hleft⟩
          · simp only [readExact, hwant, hlt, if_false]
            rw [hread, bytes, List.take_append, List.take_of_length_le hle, List.append_assoc]
          · rw [hbytes, bytes, List.drop_append, List.drop_of_length_le hle, List.nil_append]
      | fault f =>
        obtain ⟨left, hread, hbytes, hleft⟩ := ih want got hrest henough
        have hf : f.kind = .interrupted := by simpa [isPlain] using hevent
        refine ⟨left, ?_, hbytes, hleft⟩
        simp only [readExact, hwant, hf, if_false, if_true]
        exact hread
      | eof | pause p => cases hevent

/-- Too few bytes on a plain stream: an exact read takes them all and fails at the end. -/
theorem readExact_plain_short (d : Deadline) (now want : Nat) (got : Bytes)
    {events : List Arrival} (hplain : events.all isPlain) (hshort : (bytes events).length < want) :
    readExact d now want got events = ⟨.ready (.error earlyEnd), [], now⟩ := by
  induction events generalizing want got with
  | nil =>
    have hwant : want ≠ 0 := Nat.ne_zero_of_lt hshort
    simp [readExact, hwant]
  | cons event rest ih =>
    rw [List.all_cons, Bool.and_eq_true] at hplain
    obtain ⟨hevent, hrest⟩ := hplain
    have hwant : want ≠ 0 := Nat.ne_zero_of_lt hshort
    cases event with
    | data chunk =>
      rw [bytes, List.length_append] at hshort
      have hlt : ¬ want < chunk.length := by omega
      simp only [readExact, hwant, hlt, if_false]
      exact ih (want - chunk.length) (got ++ chunk) hrest (by omega)
    | fault f =>
      have hf : f.kind = .interrupted := by simpa [isPlain] using hevent
      simp only [readExact, hwant, hf, if_false, if_true]
      exact ih want got hrest hshort
    | eof | pause p => cases hevent

end Arrival

namespace Uptake

/-- A write of which something is taken, or one that is to be tried again. -/
def isWilling : Uptake → Bool
  | .accept most => most != 0
  | .fault f => f.kind == .interrupted
  | .pause _ => false

/-- A peer that is willing takes all that is written, in no time, and stays willing. -/
theorem writeAll_willing (d : Deadline) (now : Nat) (taken left : Bytes) {events : List Uptake}
    (hwilling : events.all isWilling) :
    (writeAll d now taken left events).answer = .ready (.ok ()) ∧
      (writeAll d now taken left events).now = now ∧
      (writeAll d now taken left events).rest.all isWilling := by
  induction events generalizing taken left with
  | nil => exact ⟨rfl, rfl, rfl⟩
  | cons event rest ih =>
    by_cases hleft : left.isEmpty
    · simpa [writeAll, hleft] using hwilling
    · rw [List.all_cons, Bool.and_eq_true] at hwilling
      obtain ⟨hevent, hrest⟩ := hwilling
      cases event with
      | accept most =>
        have hmost : most ≠ 0 := by simpa [isWilling] using hevent
        simp only [writeAll, hleft, hmost, if_false, Bool.false_eq_true]
        exact ih _ _ hrest
      | fault f =>
        have hf : f.kind = .interrupted := by simpa [isWilling] using hevent
        simp only [writeAll, hleft, hf, if_false, if_true, Bool.false_eq_true]
        exact ih _ _ hrest
      | pause p => cases hevent

end Uptake

namespace Wire

/-- What there is to read is bytes, however they are cut. -/
def Plain (w : Wire) : Prop := w.reads.all Arrival.isPlain = true

/-- An exact read on a plain wire, by the bytes it takes. -/
theorem readExact_plain {w : Wire} (hplain : w.Plain) (d : Deadline) {bs more : Bytes}
    (hunread : w.unread = bs ++ more) :
    ∃ w', w.readExact bs.length d = (.ready (.ok bs), w') ∧ w'.unread = more ∧ w'.Plain ∧
      w' = { w with reads := w'.reads } := by
  unfold unread at hunread
  have hlen : bs.length ≤ (Arrival.bytes w.reads).length := by
    rw [hunread, List.length_append]
    omega
  obtain ⟨rest, hread, hbytes, hrest⟩ := Arrival.readExact_plain d w.now _ [] hplain hlen
  rw [hunread, List.take_left, List.nil_append] at hread
  rw [hunread, List.drop_left] at hbytes
  refine ⟨{ w with reads := rest }, ?_, hbytes, hrest, rfl⟩
  rw [readExact, hread]

/-- Collecting from a plain wire takes a frame that stands in front, and nothing behind it. -/
theorem collect_frame {w : Wire} (hplain : w.Plain) (d : Deadline) (f : Frame) {more : Bytes}
    (hunread : w.unread = f.toBytes ++ more) :
    ∃ w', w.collect d = (.ready (.ok f.toBytes), w') ∧ w'.unread = more ∧ w'.Plain ∧
      w' = { w with reads := w'.reads } := by
  rw [Frame.toBytes, List.append_assoc] at hunread
  obtain ⟨w₁, hheader, hunread₁, hplain₁, heq₁⟩ := readExact_plain hplain d hunread
  obtain ⟨w₂, hbody, hunread₂, hplain₂, heq₂⟩ := readExact_plain hplain₁ d hunread₁
  rw [f.length_header] at hheader
  refine ⟨w₂, ?_, hunread₂, hplain₂, ?_⟩
  · have hgood : ¬ (f.body.length = 0 ∨ Limits.maxMbapLength < f.body.length) := by
      have hpos := f.body_pos
      have hle := f.body_le
      omega
    simp only [collect, hheader, readBody, f.lengthField_header, hgood, if_false, hbody]
    rfl
  · rw [heq₂, heq₁]

/-- A header that cannot be used is taken from a plain wire, and nothing behind it. -/
theorem collect_badLength {w : Wire} (hplain : w.Plain) (d : Deadline) {head more : Bytes}
    (hhead : head.length = Limits.headerLength)
    (hbad : Header.lengthField head = 0 ∨ Limits.maxMbapLength < Header.lengthField head)
    (hunread : w.unread = head ++ more) :
    ∃ w', w.collect d =
        (.ready (.error (.invalidFrame (.length (Header.lengthField head)))), w') ∧
      w'.unread = more := by
  obtain ⟨w₁, hheader, hunread₁, -, -⟩ := readExact_plain hplain d hunread
  rw [hhead] at hheader
  refine ⟨w₁, ?_, hunread₁⟩
  simp only [collect, hheader, readBody, hbad, if_true]

/-- A plain wire that ends within a header is closed. -/
theorem collect_short {w : Wire} (hplain : w.Plain) (d : Deadline)
    (hshort : w.unread.length < Limits.headerLength) :
    w.collect d = (.ready (.error .connectionClosed), { w with reads := [] }) := by
  have hread := Arrival.readExact_plain_short d w.now Limits.headerLength [] hplain hshort
  simp only [collect, readExact, hread]
  rfl

end Wire

end ModbusTcp
