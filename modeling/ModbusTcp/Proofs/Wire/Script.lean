import ModbusTcp.Wire.Basic

/-!
# Streams that nothing has waited for

A script says what a stream does before anything has waited for it: its pauses have not begun. An
operation begins at most the pause that it leaves in front, so of a stream that was a script only
the first event can be one that was waited for (`Wire.Tidy`), and settling it once leaves nothing
to settle (`Wire.Tidy.settled`).
-/

namespace ModbusTcp

/-- Nothing has waited for the pause yet. -/
def Pause.isUnbegun : Pause → Bool
  | .delay _ | .stall => true
  | .running _ | .hanging => false

/-- Nothing has waited for the arrival yet. -/
def Arrival.isUnbegun : Arrival → Bool
  | .pause p => p.isUnbegun
  | _ => true

/-- Nothing has waited for the uptake yet. -/
def Uptake.isUnbegun : Uptake → Bool
  | .pause p => p.isUnbegun
  | _ => true

/-- What a stream does, before anything has waited for it. -/
structure Script where
  reads : List Arrival
  writes : List Uptake
  shutdownFault : Option IoFault
  reads_unbegun : ∀ e ∈ reads, e.isUnbegun
  writes_unbegun : ∀ e ∈ writes, e.isUnbegun

/-! ## What operations begin -/

theorem forall_mem_tail {ε : Type} {P : ε → Prop} {e : ε} {rest : List ε}
    (h : ∀ x ∈ (e :: rest).tail, P x) : ∀ x ∈ rest.tail, P x :=
  fun x hx => h x (List.mem_of_mem_tail hx)

theorem Arrival.isUnbegun_tail_read {most : Nat} {d : Deadline} {now : Nat}
    {events : List Arrival} (h : ∀ e ∈ events.tail, e.isUnbegun) :
    ∀ e ∈ (read most d now events).rest.tail, e.isUnbegun := by
  fun_induction read most d now events with
  | case1 | case3 | case8 => exact h
  | case4 | case5 | case6 => exact forall_mem_tail h
  | case2 now rest ih => exact ih (forall_mem_tail h)
  | case7 now p rest later hw ih => exact ih (forall_mem_tail h)

theorem Arrival.isUnbegun_tail_readExact {d : Deadline} {now want : Nat} {got : Bytes}
    {events : List Arrival} (h : ∀ e ∈ events.tail, e.isUnbegun) :
    ∀ e ∈ (readExact d now want got events).rest.tail, e.isUnbegun := by
  fun_induction readExact d now want got events with
  | case1 | case2 | case3 | case4 | case10 => exact h
  | case6 | case8 => exact forall_mem_tail h
  | case5 now want got rest hw chunk hle ih => exact ih (forall_mem_tail h)
  | case7 now want got rest hw f hf ih => exact ih (forall_mem_tail h)
  | case9 now want got rest hw p later hp ih => exact ih (forall_mem_tail h)

theorem Uptake.isUnbegun_tail_writeAll {d : Deadline} {now : Nat} {taken left : Bytes}
    {events : List Uptake} (h : ∀ e ∈ events.tail, e.isUnbegun) :
    ∀ e ∈ (writeAll d now taken left events).rest.tail, e.isUnbegun := by
  fun_induction writeAll d now taken left events with
  | case1 | case2 | case8 => exact h
  | case3 | case6 => exact forall_mem_tail h
  | case4 now taken left rest hl most hm ih => exact ih (forall_mem_tail h)
  | case5 now taken left rest hl f hf ih => exact ih (forall_mem_tail h)
  | case7 now taken left rest hl p later hp ih => exact ih (forall_mem_tail h)

namespace Wire

/-- Only the events in front can have been waited for. -/
structure Tidy (w : Wire) : Prop where
  reads : ∀ e ∈ w.reads.tail, e.isUnbegun
  writes : ∀ e ∈ w.writes.tail, e.isUnbegun

theorem Tidy.send {w : Wire} (h : w.Tidy) (request : Bytes) (d : Deadline) :
    (w.send request d).2.Tidy :=
  ⟨h.reads, Uptake.isUnbegun_tail_writeAll h.writes⟩

theorem Tidy.read {w : Wire} (h : w.Tidy) (most : Nat) (d : Deadline) : (w.read most d).2.Tidy :=
  ⟨Arrival.isUnbegun_tail_read h.reads, h.writes⟩

theorem Tidy.readExact {w : Wire} (h : w.Tidy) (want : Nat) (d : Deadline) :
    (w.readExact want d).2.Tidy :=
  ⟨Arrival.isUnbegun_tail_readExact h.reads, h.writes⟩

theorem Tidy.collect {w : Wire} (h : w.Tidy) (d : Deadline) : (w.collect d).2.Tidy := by
  have hheader := h.readExact Limits.headerLength d
  unfold Wire.collect
  rcases hread : w.readExact Limits.headerLength d with ⟨(f | bs) | _, w'⟩ <;>
    rw [hread] at hheader
  · exact hheader
  · simp only [readBody]
    split
    · exact hheader
    · exact hheader.readExact _ d
  · exact hheader

/-! ## Settling -/

/-- Drops at most the first event, and only one that was waited for. -/
def DropsFirst {ε : Type} (isUnbegun : ε → Bool) (drop : List ε → List ε) : Prop :=
  ∀ events, drop events = events ∨
    ∃ e rest, isUnbegun e = false ∧ events = e :: rest ∧ drop events = rest

section

variable {ε : Type} {isUnbegun : ε → Bool} {drop : List ε → List ε} {events : List ε}

theorem DropsFirst.eq_self (hdrop : DropsFirst isUnbegun drop) (h : ∀ e ∈ events, isUnbegun e) :
    drop events = events := by
  rcases hdrop events with hsame | ⟨e, rest, hbegun, rfl, -⟩
  · exact hsame
  · rw [h e (List.mem_cons_self ..)] at hbegun
    cases hbegun

theorem DropsFirst.forall_mem_tail (hdrop : DropsFirst isUnbegun drop)
    (h : ∀ e ∈ events.tail, isUnbegun e) : ∀ e ∈ (drop events).tail, isUnbegun e := by
  rcases hdrop events with hsame | ⟨e, rest, -, rfl, hrest⟩
  · rw [hsame]
    exact h
  · rw [hrest]
    exact ModbusTcp.forall_mem_tail h

theorem DropsFirst.drop_drop (hdrop : DropsFirst isUnbegun drop)
    (h : ∀ e ∈ events.tail, isUnbegun e) : drop (drop events) = drop events := by
  rcases hdrop events with hsame | ⟨e, rest, -, rfl, hrest⟩
  · rw [hsame, hsame]
  · rw [hrest]
    exact hdrop.eq_self h

end

theorem dropsFirst_dropHanging : DropsFirst Arrival.isUnbegun dropHanging := by
  intro events
  unfold dropHanging
  split
  · exact .inr ⟨_, _, rfl, rfl, rfl⟩
  · exact .inl rfl

theorem dropsFirst_dropHangingWrite : DropsFirst Uptake.isUnbegun dropHangingWrite := by
  intro events
  unfold dropHangingWrite
  split
  · exact .inr ⟨_, _, rfl, rfl, rfl⟩
  · exact .inl rfl

theorem Tidy.settle {w : Wire} (h : w.Tidy) : w.settle.Tidy where
  reads := dropsFirst_dropHanging.forall_mem_tail h.reads
  writes := dropsFirst_dropHangingWrite.forall_mem_tail h.writes

/-- Nothing stands in front that was waited for in vain. -/
def Settled (w : Wire) : Prop := w.settle = w

theorem Tidy.settled {w : Wire} (h : w.Tidy) : w.settle.Settled := by
  unfold Settled Wire.settle
  simp only [dropsFirst_dropHanging.drop_drop h.reads,
    dropsFirst_dropHangingWrite.drop_drop h.writes]

end Wire

namespace Script

/-- The wire of a connection that was just made. -/
def wire (s : Script) : Wire where
  reads := s.reads
  writes := s.writes
  shutdownFault := s.shutdownFault

theorem tidy_wire (s : Script) : s.wire.Tidy where
  reads e he := s.reads_unbegun e (List.mem_of_mem_tail he)
  writes e he := s.writes_unbegun e (List.mem_of_mem_tail he)

theorem settled_wire (s : Script) : s.wire.Settled := by
  unfold Wire.Settled Wire.settle
  rw [wire, Wire.dropsFirst_dropHanging.eq_self s.reads_unbegun,
    Wire.dropsFirst_dropHangingWrite.eq_self s.writes_unbegun]

end Script

end ModbusTcp
