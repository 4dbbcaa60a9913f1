import ModbusTcp.Proofs.Frame.Decoding

/-!
# A server of registers

A reference for what a device answers: a request is parsed, and the registers it asks for are sent
behind a header that repeats its transaction. Up to 125 registers the answer is a whole frame
(`RegisterServer.exists_toBytes_eq_answer`). With 126 or 127 registers the byte count still fits,
so the answer decodes (`RegisterServer.ofFrame_answer`), but its length field is too large for a
frame.
-/

namespace ModbusTcp

/-- A device with a register at every address. -/
structure RegisterServer where
  memory : UInt16 → UInt16

namespace RegisterServer

/-- The registers from an address on, as many as asked for; the last address is followed by the
first. -/
def block (s : RegisterServer) (start quantity : UInt16) : List UInt16 :=
  (List.range quantity.toNat).map fun i => s.memory (start + UInt16.ofNat i)

/-- The six bytes before the unit of an answer; its length counts the unit, the function, the byte
count and the registers. -/
def answerHead (r : Request) : Bytes :=
  Word.toBytes r.transaction ++ Word.toBytes Limits.modbusProtocol ++
    Word.toBytes (UInt16.ofNat (3 + 2 * r.quantity.toNat))

/-- The unit, the function and the registers of the answer behind their byte count. -/
def answerBody (s : RegisterServer) (r : Request) : Bytes :=
  r.unit :: r.function :: UInt8.ofNat (2 * r.quantity.toNat) ::
    Word.listToBytes (s.block r.start r.quantity)

/-- The answer to a request. -/
def answer (s : RegisterServer) (r : Request) : Bytes := answerHead r ++ s.answerBody r

/-- The answer to the bytes of a request, if they are those of a request. -/
def reply? (s : RegisterServer) (bytes : Bytes) : Option Bytes :=
  (Request.ofBytes? bytes).map s.answer

@[simp]
theorem length_block (s : RegisterServer) (start quantity : UInt16) :
    (s.block start quantity).length = quantity.toNat := by
  rw [block, List.length_map, List.length_range]

@[simp]
theorem length_answerBody (s : RegisterServer) (r : Request) :
    (s.answerBody r).length = 3 + 2 * r.quantity.toNat := by
  rw [answerBody, List.length_cons, List.length_cons, List.length_cons, Word.length_listToBytes,
    length_block]
  omega

theorem length_answerHead (r : Request) : (answerHead r).length = Limits.headerLength := rfl

theorem lengthField_answerHead (r : Request) (h : r.quantity.toNat ≤ 127) :
    Header.lengthField (answerHead r) = 3 + 2 * r.quantity.toNat := by
  have hfield := Header.lengthField_append
    (Word.toBytes r.transaction ++ Word.toBytes Limits.modbusProtocol)
    (UInt16.ofNat (3 + 2 * r.quantity.toNat)) [] rfl
  rw [List.append_nil] at hfield
  rw [answerHead, hfield, UInt16.toNat_ofNat']
  omega

/-- As many registers as one reply can carry make a whole frame. -/
theorem exists_toBytes_eq_answer (s : RegisterServer) {r : Request}
    (h : r.quantity.toNat ≤ Limits.maxReadRegisters) : ∃ f : Frame, f.toBytes = s.answer r := by
  have hquantity : r.quantity.toNat ≤ 125 := h
  have hfield := lengthField_answerHead r (by omega)
  apply Frame.exists_toBytes_eq (length_answerHead r)
  · omega
  · rw [hfield]
    show 3 + 2 * r.quantity.toNat ≤ 254
    omega
  · rw [hfield, length_answerBody]

/-- Any more registers make the length field too large. -/
theorem maxMbapLength_lt_lengthField {r : Request}
    (hmany : Limits.maxReadRegisters < r.quantity.toNat) (hfits : r.quantity.toNat ≤ 127) :
    Limits.maxMbapLength < Header.lengthField (answerHead r) := by
  have hquantity : 125 < r.quantity.toNat := hmany
  rw [lengthField_answerHead r hfits]
  show 254 < 3 + 2 * r.quantity.toNat
  omega

theorem ofFrame?_answer (s : RegisterServer) (r : Request) :
    Header.ofFrame? (s.answer r) =
      some ⟨r.transaction, Limits.modbusProtocol, UInt16.ofNat (3 + 2 * r.quantity.toNat),
        r.unit⟩ := by
  simp [answer, answerHead, answerBody, Word.toBytes, Header.ofFrame?]

theorem drop_answer (s : RegisterServer) (r : Request) :
    (s.answer r).drop Limits.functionOffset =
      r.function :: UInt8.ofNat (2 * r.quantity.toNat) ::
        Word.listToBytes (s.block r.start r.quantity) := rfl

theorem toNat_byteCount {r : Request} (hfits : r.quantity.toNat ≤ 127) :
    (UInt8.ofNat (2 * r.quantity.toNat)).toNat = 2 * r.quantity.toNat := by
  rw [UInt8.toNat_ofNat']
  omega

/-- An answer decodes to the registers asked for, as long as its byte count fits. -/
theorem ofFrame_answer (s : RegisterServer) {r : Request}
    (hfunction : FunctionCode.readsRegisters r.function = true) (hfits : r.quantity.toNat ≤ 127) :
    Reading.ofFrame (s.answer r) = .ok (.registers (s.block r.start r.quantity)) := by
  apply Reading.ofFrame_of_registers hfunction
  · rw [length_block]
    exact hfits
  · rw [drop_answer, length_block, List.append_nil]

/-- Decoding an answer remarks on its header only. -/
theorem remarks_answer (s : RegisterServer) {r : Request}
    (hfunction : FunctionCode.readsRegisters r.function = true) (hfits : r.quantity.toNat ≤ 127) :
    ∃ header, Reading.remarks (s.answer r) = [.replyHeader header] := by
  have hlength : ¬ (Word.listToBytes (s.block r.start r.quantity)).length <
      2 * r.quantity.toNat := by
    rw [Word.length_listToBytes, length_block]
    exact Nat.lt_irrefl _
  rw [Reading.remarks, drop_answer, ofFrame?_answer]
  simp only [Reading.bodyRemarks, hfunction,
    FunctionCode.not_isException_of_readsRegisters hfunction, toNat_byteCount hfits, hlength,
    if_true, if_false, Bool.false_eq_true]
  exact ⟨_, rfl⟩

@[simp]
theorem reply?_toBytes (s : RegisterServer) (r : Request) :
    s.reply? r.toBytes = some (s.answer r) := by
  rw [reply?, Request.ofBytes?_toBytes]
  rfl

end RegisterServer

end ModbusTcp
