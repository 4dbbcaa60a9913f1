import ModbusTcp.Proofs.Frame.Decoding

/-!
# The outcome of every reply

Every string of bytes decodes, and to one outcome only: `Reading.Decodes` lists the outcomes, each
with the bytes that tell it, and the outcome of decoding is the one that is listed
(`Reading.ofFrame_eq_iff`). What a register read is answered with decodes to the registers that
were written, and of any other reply the registers are those whose bytes came
(`Reading.decode_exact`). Decoding looks at no place that a reply does not have: with look-ups that
may find nothing it is the same (`Reading.lookUp?_eq`).
-/

namespace ModbusTcp.Reading

/-- The outcomes of a reply, each with the bytes that tell it. -/
inductive Decodes (frame : Bytes) : Except Failure Reading → Prop
  | tooShort (hshort : frame.length < Limits.minReplyLength) :
      Decodes frame (.error (.tooShort frame.length))
  | exception {function code : UInt8}
      (hfunction : frame[Limits.functionOffset]? = some function)
      (hcode : frame[Limits.byteCountOffset]? = some code) (hmark : 0x80 ≤ function) :
      Decodes frame (.error (.exception (function - 0x80) code))
  /-- the registers whose bytes came, as far as the byte count goes -/
  | registers {function count : UInt8} {values : List UInt16}
      (hfunction : frame[Limits.functionOffset]? = some function)
      (hcount : frame[Limits.byteCountOffset]? = some count)
      (hreads : function = 3 ∨ function = 4)
      (hlength : values.length =
        min count.toNat (frame.length - Limits.registerDataOffset) / 2)
      (hbytes : Word.listToBytes values =
        (frame.drop Limits.registerDataOffset).take (2 * values.length)) :
      Decodes frame (.ok (.registers values))
  /-- any other function without the mark of an exception -/
  | raw {function : UInt8} (hlong : Limits.minReplyLength ≤ frame.length)
      (hfunction : frame[Limits.functionOffset]? = some function) (hmark : function < 0x80)
      (hother : ¬ (function = 3 ∨ function = 4)) :
      Decodes frame (.ok (.raw (frame.drop Limits.byteCountOffset)))

variable {frame : Bytes} {function ninth : UInt8}

theorem minReplyLength_le_of_ninth (h : frame[Limits.byteCountOffset]? = some ninth) :
    Limits.minReplyLength ≤ frame.length := (List.getElem?_eq_some_iff.mp h).1

/-- The parts of a reply that is long enough, and its outcome by them. -/
theorem ofFrame_of_parts (hfunction : frame[Limits.functionOffset]? = some function)
    (hninth : frame[Limits.byteCountOffset]? = some ninth) :
    frame.drop Limits.byteCountOffset = ninth :: frame.drop Limits.registerDataOffset ∧
      ofFrame frame = ofBody function ninth (frame.drop Limits.registerDataOffset) := by
  obtain ⟨hlt₇, rfl⟩ := List.getElem?_eq_some_iff.mp hfunction
  obtain ⟨hlt₈, rfl⟩ := List.getElem?_eq_some_iff.mp hninth
  have hbehind : frame.drop Limits.byteCountOffset =
      frame[Limits.byteCountOffset] :: frame.drop Limits.registerDataOffset :=
    List.drop_eq_getElem_cons hlt₈
  refine ⟨hbehind, ?_⟩
  apply ofFrame_of_drop_eq
  rw [← hbehind]
  exact List.drop_eq_getElem_cons hlt₇

/-- The registers among the bytes behind the byte count, told by their number and their bytes. -/
theorem listOfBytes_data_eq_iff (frame : Bytes) (ninth : UInt8) (values : List UInt16) :
    Word.listOfBytes ((frame.drop Limits.registerDataOffset).take ninth.toNat) = values ↔
      values.length = min ninth.toNat (frame.length - Limits.registerDataOffset) / 2 ∧
        Word.listToBytes values =
          (frame.drop Limits.registerDataOffset).take (2 * values.length) := by
  rw [Word.listOfBytes_eq_iff, List.length_take, List.length_drop]
  apply and_congr_right
  intro hlength
  -- the registers take no more bytes than the byte count allows
  have hle : 2 * values.length ≤ ninth.toNat := by omega
  rw [List.take_take, Nat.min_eq_left hle]

/-- The outcome that is listed is the outcome of decoding. -/
theorem Decodes.ofFrame_eq {outcome : Except Failure Reading} (h : Decodes frame outcome) :
    ofFrame frame = outcome := by
  cases h with
  | tooShort hshort => exact ofFrame_of_length_lt hshort
  | exception hfunction hcode hmark =>
    rw [(ofFrame_of_parts hfunction hcode).2]
    exact ofBody_of_isException _ _ ((FunctionCode.isException_iff _).mpr hmark)
  | registers hfunction hcount hreads hlength hbytes =>
    rw [(ofFrame_of_parts hfunction hcount).2,
      ofBody_of_readsRegisters _ _ ((FunctionCode.readsRegisters_iff _).mpr hreads),
      (listOfBytes_data_eq_iff _ _ _).mpr ⟨hlength, hbytes⟩]
  | raw hlong hfunction hmark hother =>
    obtain ⟨_, ninth, _, _, _, hninth, _⟩ := exists_drop_eq hlong
    obtain ⟨hbehind, houtcome⟩ := ofFrame_of_parts hfunction hninth
    have hunmarked := mt (FunctionCode.isException_iff _).mp (UInt8.not_le.mpr hmark)
    have hnoRead := mt (FunctionCode.readsRegisters_iff _).mp hother
    rw [houtcome, ofBody, if_neg hunmarked, if_neg hnoRead, hbehind]

/-- The outcome of decoding is one of those listed. -/
theorem decodes_ofFrame (frame : Bytes) : Decodes frame (ofFrame frame) := by
  by_cases hshort : frame.length < Limits.minReplyLength
  · rw [ofFrame_of_length_lt hshort]
    exact .tooShort hshort
  · have hlong := Nat.le_of_not_lt hshort
    obtain ⟨function, ninth, _, _, hfunction, hninth, _⟩ := exists_drop_eq hlong
    by_cases hmark : 0x80 ≤ function
    · have h := Decodes.exception hfunction hninth hmark
      rwa [h.ofFrame_eq]
    · by_cases hreads : function = 3 ∨ function = 4
      · obtain ⟨hlength, hbytes⟩ := (listOfBytes_data_eq_iff frame ninth _).mp rfl
        have h := Decodes.registers hfunction hninth hreads hlength hbytes
        rwa [h.ofFrame_eq]
      · have h := Decodes.raw hlong hfunction (UInt8.not_le.mp hmark) hreads
        rwa [h.ofFrame_eq]

/-- A reply decodes to the outcome that is listed for it, and to no other. -/
theorem ofFrame_eq_iff {outcome : Except Failure Reading} :
    ofFrame frame = outcome ↔ Decodes frame outcome := by
  constructor
  · rintro rfl
    exact decodes_ofFrame frame
  · exact Decodes.ofFrame_eq

theorem ofFrame_eq_tooShort_iff {length : Nat} :
    ofFrame frame = .error (.tooShort length) ↔
      length = frame.length ∧ frame.length < Limits.minReplyLength := by
  rw [ofFrame_eq_iff]
  constructor
  · intro h
    cases h with
    | tooShort hshort => exact ⟨rfl, hshort⟩
  · rintro ⟨rfl, hshort⟩
    exact .tooShort hshort

theorem ofFrame_eq_exception_iff {function code : UInt8} :
    ofFrame frame = .error (.exception function code) ↔
      Limits.minReplyLength ≤ frame.length ∧
        ∃ marked, frame[Limits.functionOffset]? = some marked ∧ 0x80 ≤ marked ∧
          function = marked - 0x80 ∧ frame[Limits.byteCountOffset]? = some code := by
  rw [ofFrame_eq_iff]
  constructor
  · intro h
    cases h with
    | exception hfunction hcode hmark =>
      exact ⟨minReplyLength_le_of_ninth hcode, _, hfunction, hmark, rfl, hcode⟩
  · rintro ⟨-, marked, hfunction, hmark, rfl, hcode⟩
    exact .exception hfunction hcode hmark

theorem ofFrame_eq_registers_iff {values : List UInt16} :
    ofFrame frame = .ok (.registers values) ↔
      Limits.minReplyLength ≤ frame.length ∧
        ∃ function count, frame[Limits.functionOffset]? = some function ∧
          (function = 3 ∨ function = 4) ∧ frame[Limits.byteCountOffset]? = some count ∧
          values.length = min count.toNat (frame.length - Limits.registerDataOffset) / 2 ∧
          Word.listToBytes values =
            (frame.drop Limits.registerDataOffset).take (2 * values.length) := by
  rw [ofFrame_eq_iff]
  constructor
  · intro h
    cases h with
    | registers hfunction hcount hreads hlength hbytes =>
      exact ⟨minReplyLength_le_of_ninth hcount, _, _, hfunction, hreads, hcount, hlength, hbytes⟩
  · rintro ⟨-, function, count, hfunction, hreads, hcount, hlength, hbytes⟩
    exact .registers hfunction hcount hreads hlength hbytes

theorem ofFrame_eq_raw_iff {payload : Bytes} :
    ofFrame frame = .ok (.raw payload) ↔
      Limits.minReplyLength ≤ frame.length ∧ payload = frame.drop Limits.byteCountOffset ∧
        ∃ function, frame[Limits.functionOffset]? = some function ∧ function < 0x80 ∧
          ¬ (function = 3 ∨ function = 4) := by
  rw [ofFrame_eq_iff]
  constructor
  · intro h
    cases h with
    | raw hlong hfunction hmark hother => exact ⟨hlong, rfl, _, hfunction, hmark, hother⟩
  · rintro ⟨hlong, rfl, function, hfunction, hmark, hother⟩
    exact .raw hlong hfunction hmark hother

/-- A payload has at least the byte behind the function. -/
theorem payload_ne_nil {payload : Bytes} (h : ofFrame frame = .ok (.raw payload)) :
    payload ≠ [] := by
  obtain ⟨hlong, rfl, -⟩ := ofFrame_eq_raw_iff.mp h
  rw [← List.length_pos_iff, List.length_drop]
  exact Nat.sub_pos_of_lt hlong

theorem eq_tooShort_or_exception {f : Failure} (h : ofFrame frame = .error f) :
    f = .tooShort frame.length ∨ ∃ function code, f = .exception function code := by
  cases ofFrame_eq_iff.mp h with
  | tooShort => exact .inl rfl
  | exception => exact .inr ⟨_, _, rfl⟩

/-! ## Looking up places -/

/-- The bytes of a frame from one place up to another, if the frame has these places. -/
def slice? (frame : Bytes) (first last : Nat) : Option Bytes :=
  if first ≤ last ∧ last ≤ frame.length then some ((frame.take last).drop first) else none

/-- Decoding by the places of a frame, with nothing to be found outside it. -/
def lookUp? (frame : Bytes) : Option (Except Failure Reading) :=
  if frame.length < Limits.minReplyLength then return .error (.tooShort frame.length)
  else do
    let function ← frame[Limits.functionOffset]?
    if FunctionCode.isException function then
      let code ← frame[Limits.byteCountOffset]?
      return .error (.exception (FunctionCode.base function) code)
    else if FunctionCode.readsRegisters function then
      let count ← frame[Limits.byteCountOffset]?
      let last := min (Limits.registerDataOffset + count.toNat) frame.length
      let data ← slice? frame Limits.registerDataOffset last
      return .ok (.registers (Word.listOfBytes data))
    else
      let payload ← slice? frame Limits.byteCountOffset frame.length
      return .ok (.raw payload)

theorem slice?_data (hlong : Limits.minReplyLength ≤ frame.length) (count : Nat) :
    slice? frame Limits.registerDataOffset
        (min (Limits.registerDataOffset + count) frame.length) =
      some ((frame.drop Limits.registerDataOffset).take count) := by
  have hplaces : Limits.registerDataOffset ≤
        min (Limits.registerDataOffset + count) frame.length ∧
      min (Limits.registerDataOffset + count) frame.length ≤ frame.length :=
    ⟨Nat.le_min.mpr ⟨Nat.le_add_right _ _, hlong⟩, Nat.min_le_right _ _⟩
  have hlast : frame.take (min (Limits.registerDataOffset + count) frame.length) =
      frame.take (Limits.registerDataOffset + count) := by
    rw [← List.take_take, List.take_length]
  rw [slice?, if_pos hplaces, hlast, List.drop_take, Nat.add_sub_cancel_left]

theorem slice?_rest (hlong : Limits.minReplyLength ≤ frame.length) :
    slice? frame Limits.byteCountOffset frame.length =
      some (frame.drop Limits.byteCountOffset) := by
  have hplaces : Limits.byteCountOffset ≤ frame.length ∧ frame.length ≤ frame.length :=
    ⟨Nat.le_of_succ_le hlong, Nat.le_refl _⟩
  rw [slice?, if_pos hplaces, List.take_length]

/-- Every place that decoding looks up is one of the frame. -/
theorem lookUp?_eq (frame : Bytes) : lookUp? frame = some (ofFrame frame) := by
  by_cases hshort : frame.length < Limits.minReplyLength
  · rw [lookUp?, if_pos hshort, ofFrame_of_length_lt hshort]
    rfl
  · have hlong := Nat.le_of_not_lt hshort
    obtain ⟨function, ninth, _, _, hfunction, hninth, _⟩ := exists_drop_eq hlong
    obtain ⟨hbehind, houtcome⟩ := ofFrame_of_parts hfunction hninth
    rw [lookUp?, if_neg hshort, hfunction, hninth, slice?_rest hlong, hbehind, houtcome, ofBody]
    simp only [Option.bind_eq_bind, Option.bind_some, slice?_data hlong, pure]
    split
    · rfl
    · split
      · rfl
      · rfl

/-! ## Decoding, exactly -/

/-- What was written as the answer to a register read decodes to the registers, whatever stands in
front and behind. Of any reply at all the outcome is told by its bytes: below nine it is too short;
with the mark in its function it is that exception; after a register read it is the registers whose
bytes came, as far as the byte count goes; after any other function it is the bytes behind it, and
there are some. There is no other failure, and no place outside the reply is looked up. -/
theorem decode_exact :
    (∀ (head : Bytes) (function : UInt8) (values : List UInt16) (trail : Bytes),
      head.length = 7 → function = 3 ∨ function = 4 → values.length ≤ 127 →
      (decode (head ++ [function, UInt8.ofNat (2 * values.length)] ++ Word.listToBytes values ++
        trail)).value = .ok (.registers values)) ∧
    ∀ frame : Bytes,
      (∀ length, (decode frame).value = .error (.tooShort length) ↔
        length = frame.length ∧ frame.length < 9) ∧
      (∀ function code, (decode frame).value = .error (.exception function code) ↔
        9 ≤ frame.length ∧ ∃ marked, frame[7]? = some marked ∧ 0x80 ≤ marked ∧
          function = marked - 0x80 ∧ frame[8]? = some code) ∧
      (∀ values, (decode frame).value = .ok (.registers values) ↔
        9 ≤ frame.length ∧ ∃ function count, frame[7]? = some function ∧
          (function = 3 ∨ function = 4) ∧ frame[8]? = some count ∧
          values.length = min count.toNat (frame.length - 9) / 2 ∧
          Word.listToBytes values = (frame.drop 9).take (2 * values.length)) ∧
      (∀ payload, (decode frame).value = .ok (.raw payload) ↔
        9 ≤ frame.length ∧ payload = frame.drop 8 ∧ ∃ function, frame[7]? = some function ∧
          function < 0x80 ∧ ¬ (function = 3 ∨ function = 4)) ∧
      (∀ payload, (decode frame).value = .ok (.raw payload) → payload ≠ []) ∧
      (∀ f, (decode frame).value = .error f →
        f = .tooShort frame.length ∨ ∃ function code, f = .exception function code) ∧
      lookUp? frame = some (decode frame).value := by
  constructor
  · intro head function values trail hhead hreads hfits
    have hdrop : (head ++ [function, UInt8.ofNat (2 * values.length)] ++
          Word.listToBytes values ++ trail).drop Limits.functionOffset =
        function :: UInt8.ofNat (2 * values.length) :: (Word.listToBytes values ++ trail) := by
      rw [List.append_assoc, List.append_assoc]
      exact List.drop_left' hhead
    exact ofFrame_of_registers ((FunctionCode.readsRegisters_iff function).mpr hreads) hfits hdrop
  · intro frame
    refine ⟨?_, ?_, ?_, ?_, ?_, ?_, lookUp?_eq frame⟩
    · intro length
      exact ofFrame_eq_tooShort_iff
    · intro function code
      exact ofFrame_eq_exception_iff
    · intro values
      exact ofFrame_eq_registers_iff
    · intro payload
      exact ofFrame_eq_raw_iff
    · intro payload
      exact payload_ne_nil
    · intro f
      exact eq_tooShort_or_exception

/-- Two registers with a byte behind them, and a reply that is cut off inside the second. -/
theorem decode_exact_of_cut_register :
    (decode ([0, 1, 0, 0, 0, 7, 1] ++ [3, 4] ++ Word.listToBytes [258, 772] ++ [9])).value =
        .ok (.registers [258, 772]) ∧
      (decode [0, 1, 0, 0, 0, 7, 1, 3, 4, 1, 2, 3]).value = .ok (.registers [258]) := by
  obtain ⟨hwritten, hread⟩ := decode_exact
  obtain ⟨-, -, hregisters, -⟩ := hread [0, 1, 0, 0, 0, 7, 1, 3, 4, 1, 2, 3]
  constructor
  · exact hwritten [0, 1, 0, 0, 0, 7, 1] 3 [258, 772] [9] rfl (.inl rfl) (by decide)
  · exact (hregisters [258]).mpr ⟨by decide, 3, 4, rfl, .inl rfl, rfl, rfl, rfl⟩

end ModbusTcp.Reading
