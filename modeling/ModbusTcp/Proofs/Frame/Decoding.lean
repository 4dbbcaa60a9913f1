import ModbusTcp.Frame.Layout
import ModbusTcp.Frame.Reading

/-!
# What decoding depends on

Decoding looks at no byte behind those that it needs: of a reply that is complete, whatever follows
it changes nothing (`Reading.Complete.ofFrame_append`). What came of a reply that is cut off is
decoded as far as it goes (`Reading.ofFrame_take`).
-/

namespace ModbusTcp.Reading

/-! ## What follows a reply -/

/-- The body has all the bytes that its function needs: an exception needs none, and registers need
as many as the byte count says. -/
def Ample (function ninth : UInt8) (available : Nat) : Prop :=
  0x80 ≤ function ∨ (function = 3 ∨ function = 4) ∧ ninth.toNat ≤ available

/-- What follows an ample body changes nothing. -/
theorem ofBody_append {function ninth : UInt8} {rest : Bytes} (more : Bytes)
    (h : Ample function ninth rest.length) :
    ofBody function ninth (rest ++ more) = ofBody function ninth rest := by
  rcases h with hmark | ⟨hreads, hcount⟩
  · have hexception := (FunctionCode.isException_iff function).mpr hmark
    rw [ofBody_of_isException _ _ hexception, ofBody_of_isException _ _ hexception]
  · have hregisters := (FunctionCode.readsRegisters_iff function).mpr hreads
    rw [ofBody_of_readsRegisters _ _ hregisters, ofBody_of_readsRegisters _ _ hregisters,
      List.take_append_of_le_length hcount]

/-- What follows a reply with an ample body changes nothing. -/
theorem ofFrame_append_of_ample {reply : Bytes} {function ninth : UInt8} {rest : Bytes}
    (more : Bytes) (hlong : Limits.minReplyLength ≤ reply.length)
    (hdrop : reply.drop Limits.functionOffset = function :: ninth :: rest)
    (hample : Ample function ninth rest.length) : ofFrame (reply ++ more) = ofFrame reply := by
  have hle : Limits.functionOffset ≤ reply.length := Nat.le_trans (by decide) hlong
  have hdrop' : (reply ++ more).drop Limits.functionOffset =
      function :: ninth :: (rest ++ more) := by
    rw [List.drop_append_of_le_length hle, hdrop]
    rfl
  rw [ofFrame_of_drop_eq hdrop, ofFrame_of_drop_eq hdrop', ofBody_append more hample]

/-- A reply that is a whole frame, with an ample body. -/
structure Complete (reply : Bytes) : Prop where
  length_eq : reply.length = Limits.headerLength + Header.lengthField reply
  three_le : 3 ≤ Header.lengthField reply
  le_max : Header.lengthField reply ≤ Limits.maxMbapLength
  ample : ∃ function ninth, reply[Limits.functionOffset]? = some function ∧
    reply[Limits.byteCountOffset]? = some ninth ∧
    Ample function ninth (Header.lengthField reply - 3)

theorem Complete.minReplyLength_le {reply : Bytes} (h : Complete reply) :
    Limits.minReplyLength ≤ reply.length := by
  have hlength := h.length_eq
  have hthree := h.three_le
  simp only [Limits.minReplyLength, Limits.headerLength] at hlength ⊢
  omega

/-- A complete reply by its function and what follows. -/
theorem Complete.exists_drop_eq {reply : Bytes} (h : Complete reply) :
    ∃ function ninth rest, reply.drop Limits.functionOffset = function :: ninth :: rest ∧
      Ample function ninth rest.length := by
  obtain ⟨function, ninth, rest, hdrop, hfunction, hninth, hrest⟩ :=
    Reading.exists_drop_eq h.minReplyLength_le
  obtain ⟨function', ninth', hfunction', hninth', hample⟩ := h.ample
  obtain rfl : function = function' := by simpa [hfunction] using hfunction'
  obtain rfl : ninth = ninth' := by simpa [hninth] using hninth'
  have hlength : rest.length = Header.lengthField reply - 3 := by
    have hframe := h.length_eq
    simp only [Limits.minReplyLength, Limits.headerLength] at hrest hframe
    omega
  exact ⟨function, ninth, rest, hdrop, by rwa [hlength]⟩

/-- What follows a complete reply changes nothing. -/
theorem Complete.ofFrame_append {reply : Bytes} (h : Complete reply) (more : Bytes) :
    ofFrame (reply ++ more) = ofFrame reply := by
  obtain ⟨function, ninth, rest, hdrop, hample⟩ := h.exists_drop_eq
  exact ofFrame_append_of_ample more h.minReplyLength_le hdrop hample

/-- A complete reply is a list of registers or an exception. -/
theorem Complete.outcome_ofFrame {reply : Bytes} (h : Complete reply) :
    (∃ values, ofFrame reply = .ok (.registers values)) ∨
      ∃ function code, ofFrame reply = .error (.exception function code) := by
  obtain ⟨function, ninth, rest, hdrop, hample⟩ := h.exists_drop_eq
  rw [ofFrame_of_drop_eq hdrop]
  rcases hample with hmark | ⟨hreads, -⟩
  · have hexception := (FunctionCode.isException_iff function).mpr hmark
    exact .inr ⟨_, _, ofBody_of_isException ninth rest hexception⟩
  · have hregisters := (FunctionCode.readsRegisters_iff function).mpr hreads
    exact .inl ⟨_, ofBody_of_readsRegisters ninth rest hregisters⟩

/-- A complete reply is a whole frame. -/
theorem Complete.exists_toBytes_eq {reply : Bytes} (h : Complete reply) :
    ∃ f : Frame, f.toBytes = reply := by
  have hsplit := List.take_append_drop Limits.headerLength reply
  have hhead : (reply.take Limits.headerLength).length = Limits.headerLength := by
    rw [List.length_take, h.length_eq]
    omega
  have hfield : Header.lengthField (reply.take Limits.headerLength) =
      Header.lengthField reply := by
    rw [← Header.lengthField_append_right (reply.drop Limits.headerLength) hhead, hsplit]
  have hbody : (reply.drop Limits.headerLength).length = Header.lengthField reply := by
    rw [List.length_drop, h.length_eq]
    omega
  rw [← hfield] at hbody
  have hpos : 0 < Header.lengthField (reply.take Limits.headerLength) := by
    rw [hfield]
    exact Nat.lt_of_lt_of_le (by decide) h.three_le
  have hle : Header.lengthField (reply.take Limits.headerLength) ≤ Limits.maxMbapLength := by
    rw [hfield]
    exact h.le_max
  obtain ⟨f, hf⟩ := Frame.exists_toBytes_eq hhead hpos hle hbody
  exact ⟨f, hf.trans hsplit⟩

/-!
## Replies that come in part

Of a reply that is cut off, what is decoded is the beginning of what the whole reply says: the
same exception, the first registers, or the first bytes of the payload (`Reading.ofFrame_take`).
A register whose second byte is missing is not among them. On the other side, what follows the
registers of a reply is never read (`Reading.CarriesRegisters.ofFrame_append`).
-/

/-- What is left of a reading if its reply is cut off behind `n` bytes. -/
def truncate (n : Nat) : Reading → Reading
  | .registers values => .registers (values.take ((n - Limits.registerDataOffset) / 2))
  | .raw payload => .raw (payload.take (n - Limits.byteCountOffset))

/-- A body that is cut off decodes to the beginning of what the whole body decodes to. -/
theorem ofBody_take (function ninth : UInt8) (rest : Bytes) (k : Nat) :
    ofBody function ninth (rest.take k) =
      (ofBody function ninth rest).map (truncate (k + Limits.registerDataOffset)) := by
  have hbehind : k + Limits.registerDataOffset - Limits.registerDataOffset = k :=
    Nat.add_sub_cancel ..
  have hpayload : k + Limits.registerDataOffset - Limits.byteCountOffset = k + 1 := by
    simp only [Limits.registerDataOffset, Limits.byteCountOffset]
    omega
  cases hmark : FunctionCode.isException function with
  | true =>
    rw [ofBody_of_isException _ _ hmark, ofBody_of_isException _ _ hmark]
    rfl
  | false =>
    cases hreads : FunctionCode.readsRegisters function with
    | true =>
      rw [ofBody_of_readsRegisters _ _ hreads, ofBody_of_readsRegisters _ _ hreads]
      -- the cut and the byte count may come in either order, and the smaller one counts
      have hcut : (rest.take k).take ninth.toNat = (rest.take ninth.toNat).take k := by
        rw [List.take_take, List.take_take, Nat.min_comm]
      rw [hcut, Word.listOfBytes_take]
      simp only [Except.map, truncate, hbehind]
    | false =>
      simp only [ofBody, hmark, hreads, Bool.false_eq_true, if_false, Except.map, truncate,
        hpayload, List.take_succ_cons]

/-- A reply that is cut off, but not below nine bytes, decodes to the beginning of what the whole
reply decodes to. -/
theorem ofFrame_take {n : Nat} (frame : Bytes) (h : Limits.minReplyLength ≤ n) :
    ofFrame (frame.take n) = (ofFrame frame).map (truncate n) := by
  by_cases hshort : frame.length < Limits.minReplyLength
  · -- nothing is cut off
    have hall : frame.take n = frame := List.take_of_length_le (by omega)
    rw [hall, ofFrame_of_length_lt hshort]
    rfl
  · obtain ⟨function, ninth, rest, hdrop, -⟩ := exists_drop_eq (Nat.le_of_not_lt hshort)
    obtain ⟨k, rfl⟩ : ∃ k, n = k + Limits.registerDataOffset := ⟨_, (Nat.sub_add_cancel h).symm⟩
    have hcut : (frame.take (k + Limits.registerDataOffset)).drop Limits.functionOffset =
        function :: ninth :: rest.take k := by
      have hleft : k + Limits.registerDataOffset - Limits.functionOffset = k + 2 := by
        simp only [Limits.registerDataOffset, Limits.functionOffset]
        omega
      rw [List.drop_take, hleft, hdrop]
      rfl
    rw [ofFrame_of_drop_eq hcut, ofFrame_of_drop_eq hdrop]
    exact ofBody_take function ninth rest k

/-- The registers of a reply that is cut off are the first ones of the whole reply. -/
theorem exists_registers_of_take {n : Nat} {frame : Bytes} {values : List UInt16}
    (h : ofFrame (frame.take n) = .ok (.registers values)) :
    ∃ all, ofFrame frame = .ok (.registers all) ∧
      values = all.take ((n - Limits.registerDataOffset) / 2) := by
  have hlong : Limits.minReplyLength ≤ n := by
    apply Nat.le_of_not_lt
    intro hn
    have hlength : (frame.take n).length < Limits.minReplyLength := by
      rw [List.length_take]
      omega
    rw [ofFrame_of_length_lt hlength] at h
    cases h
  rw [ofFrame_take frame hlong] at h
  rcases hwhole : ofFrame frame with f | (all | payload)
  · rw [hwhole] at h
    cases h
  · rw [hwhole] at h
    simp only [Except.map, truncate, Except.ok.injEq, registers.injEq] at h
    exact ⟨all, rfl, h.symm⟩
  · rw [hwhole] at h
    cases h

/-- A reply to a register read that has all the bytes its byte count says. -/
structure CarriesRegisters (reply : Bytes) : Prop where
  function : reply[Limits.functionOffset]? = some FunctionCode.readHoldingRegisters ∨
    reply[Limits.functionOffset]? = some FunctionCode.readInputRegisters
  data : ∃ count, reply[Limits.byteCountOffset]? = some count ∧
    Limits.registerDataOffset + count.toNat ≤ reply.length

/-- What follows the registers of a reply changes nothing. -/
theorem CarriesRegisters.ofFrame_append {reply : Bytes} (h : CarriesRegisters reply)
    (more : Bytes) : ofFrame (reply ++ more) = ofFrame reply := by
  obtain ⟨count, hcount, hdata⟩ := h.data
  have hlong : Limits.minReplyLength ≤ reply.length := Nat.le_trans (Nat.le_add_right _ _) hdata
  obtain ⟨function, ninth, rest, hdrop, hfunction, hninth, hrest⟩ := exists_drop_eq hlong
  obtain rfl : ninth = count := by
    rw [hninth, Option.some.injEq] at hcount
    exact hcount
  have hreads : function = 3 ∨ function = 4 := by
    have hcode := h.function
    rw [hfunction, Option.some.injEq, Option.some.injEq] at hcode
    exact hcode
  apply ofFrame_append_of_ample more hlong hdrop
  refine .inr ⟨hreads, ?_⟩
  simp only [Limits.registerDataOffset, Limits.minReplyLength] at hdata hrest
  omega

end ModbusTcp.Reading
