import ModbusTcp.Proofs.Wire.Collection
import ModbusTcp.Proofs.Wire.Stopping

/-!
# Frames in what a stream delivers

What a stream delivers are the bytes in front of the barrier, the first event that an exact read
cannot pass. An exact read that is never given up takes its bytes from there, and what is left
begins right behind the last of them (`Arrival.LeftBehind`); if there are too few, it takes all of
them and the barrier as well. So a frame is told by the delivered bytes and by the event at the
barrier, however the bytes are cut, delayed or interrupted (`Wire.readFrame_delivered`).
-/

namespace ModbusTcp

/-- Waiting for the pause comes to an end. -/
def Pause.isFinite : Pause → Bool
  | .delay _ | .running _ => true
  | .stall | .hanging => false

theorem Pause.exists_wait_ended {p : Pause} (h : p.isFinite = true) (now : Nat) :
    ∃ later, p.wait none now = .ended later := by
  cases p with
  | delay | running => exact ⟨_, rfl⟩
  | stall | hanging => cases h

namespace Arrival

/-- The event is no pause without end. -/
def isFinite : Arrival → Bool
  | .pause p => p.isFinite
  | _ => true

/-- The bytes in front of the first event that an exact read cannot pass. -/
def delivered (events : List Arrival) : Bytes := bytes (events.takeWhile isPassed)

theorem bytes_append (events more : List Arrival) :
    bytes (events ++ more) = bytes events ++ bytes more := by
  induction events with
  | nil => rfl
  | cons e rest ih =>
    cases e with
    | data chunk =>
      rw [List.cons_append, bytes, bytes, ih, List.append_assoc]
    | eof | fault | pause => exact ih

theorem delivered_cons_of_isPassed {e : Arrival} (rest : List Arrival) (h : e.isPassed = true) :
    delivered (e :: rest) = bytes [e] ++ delivered rest := by
  unfold delivered
  rw [List.takeWhile_cons_of_pos h]
  exact bytes_append [e] _

theorem delivered_cons_of_not_isPassed {e : Arrival} (rest : List Arrival)
    (h : e.isPassed = false) : delivered (e :: rest) = [] := by
  unfold delivered
  rw [List.takeWhile_cons_of_neg (Bool.not_eq_true _ ▸ h)]
  rfl

theorem delivered_data (chunk : Bytes) (rest : List Arrival) :
    delivered (.data chunk :: rest) = chunk ++ delivered rest := by
  rw [delivered_cons_of_isPassed rest rfl, bytes, bytes, List.append_nil]

theorem delivered_append {before : List Arrival} (h : ∀ e ∈ before, e.isPassed = true)
    (rest : List Arrival) : delivered (before ++ rest) = bytes before ++ delivered rest := by
  unfold delivered
  rw [List.takeWhile_append_of_pos h, bytes_append]

theorem barrier_append {before : List Arrival} (h : ∀ e ∈ before, e.isPassed = true)
    (rest : List Arrival) : barrier (before ++ rest) = barrier rest :=
  List.dropWhile_append_of_pos h

/-- What is left of a chunk of which nothing, or only the end, was not taken. -/
def behind (remains : Bytes) (after : List Arrival) : List Arrival :=
  if remains = [] then after else .data remains :: after

theorem bytes_behind (remains : Bytes) (after : List Arrival) :
    bytes (behind remains after) = remains ++ bytes after := by
  unfold behind
  split
  · rename_i hnone
    rw [hnone, List.nil_append]
  · rfl

theorem delivered_behind (remains : Bytes) (after : List Arrival) :
    delivered (behind remains after) = remains ++ delivered after := by
  unfold behind
  split
  · rename_i hnone
    rw [hnone, List.nil_append]
  · exact delivered_data remains after

theorem barrier_behind (remains : Bytes) (after : List Arrival) :
    barrier (behind remains after) = barrier after := by
  unfold behind
  split
  · rfl
  · exact barrier_cons_of_isPassed after rfl

/-- The events left behind bytes that were taken begin right behind the last of these bytes: the
chunk that has it is cut there, and nothing after it was met. -/
def LeftBehind (taken : Bytes) (events left : List Arrival) : Prop :=
  ∃ before last remains after, events = before ++ .data (last ++ remains) :: after ∧
    (∀ e ∈ before, e.isPassed = true) ∧ last ≠ [] ∧ taken = bytes before ++ last ∧
    left = behind remains after

namespace LeftBehind

variable {taken more : Bytes} {events left rest : List Arrival}

theorem of_chunk {last : Bytes} (remains : Bytes) (after : List Arrival) (h : last ≠ []) :
    LeftBehind last (.data (last ++ remains) :: after) (behind remains after) := by
  refine ⟨[], last, remains, after, rfl, ?_, h, rfl, rfl⟩
  intro e he
  cases he

theorem cons {e : Arrival} (hpassed : e.isPassed = true) (h : LeftBehind taken events left) :
    LeftBehind (bytes [e] ++ taken) (e :: events) left := by
  obtain ⟨before, last, remains, after, rfl, hbefore, hlast, rfl, rfl⟩ := h
  refine ⟨e :: before, last, remains, after, rfl, ?_, hlast, ?_, rfl⟩
  · exact List.forall_mem_cons.mpr ⟨hpassed, hbefore⟩
  · rw [← List.append_assoc, ← bytes_append]
    rfl

/-- What was taken stood in front of what is delivered now, and the barrier is where it was. -/
theorem delivered_eq (h : LeftBehind taken events left) :
    delivered events = taken ++ delivered left ∧ barrier left = barrier events := by
  obtain ⟨before, last, remains, after, rfl, hbefore, -, rfl, rfl⟩ := h
  constructor
  · rw [delivered_append hbefore, delivered_data, delivered_behind, List.append_assoc,
      List.append_assoc]
  · rw [barrier_append hbefore, barrier_cons_of_isPassed after rfl, barrier_behind]

theorem isFinite_of_mem (h : LeftBehind taken events left)
    (hfinite : ∀ e ∈ events, e.isFinite = true) : ∀ e ∈ left, e.isFinite = true := by
  obtain ⟨before, last, remains, after, rfl, -, -, -, rfl⟩ := h
  have hafter : ∀ e ∈ after, e.isFinite = true := by
    intro e he
    exact hfinite e (List.mem_append_right _ (List.mem_cons_of_mem _ he))
  unfold behind
  split
  · exact hafter
  · exact List.forall_mem_cons.mpr ⟨rfl, hafter⟩

/-- Taking from what is left is taking more. -/
theorem append (first : LeftBehind taken events left) (second : LeftBehind more left rest) :
    LeftBehind (taken ++ more) events rest := by
  obtain ⟨before, last, remains, after, rfl, hbefore, hlast, rfl, rfl⟩ := first
  obtain ⟨between, end', remains', after', hleft, hbetween, hend, rfl, rfl⟩ := second
  by_cases hremains : remains = []
  -- the first chunk was used up, and the second read began behind it
  · rw [behind, if_pos hremains] at hleft
    subst hremains hleft
    refine ⟨before ++ .data last :: between, end', remains', after', ?_, ?_, hend, ?_, rfl⟩
    · simp
    · simp only [List.forall_mem_append, List.forall_mem_cons]
      exact ⟨hbefore, rfl, hbetween⟩
    · simp [bytes_append, bytes]
  · rw [behind, if_neg hremains] at hleft
    cases between with
    -- both ends lie in one chunk
    | nil =>
      rw [List.nil_append, List.cons.injEq, Arrival.data.injEq] at hleft
      obtain ⟨rfl, rfl⟩ := hleft
      refine ⟨before, last ++ end', remains', after, ?_, hbefore, ?_, ?_, rfl⟩
      · rw [List.append_assoc]
      · simp [hlast]
      · simp [bytes]
    | cons e between =>
      rw [List.cons_append, List.cons.injEq] at hleft
      obtain ⟨rfl, rfl⟩ := hleft
      refine ⟨before ++ .data (last ++ remains) :: between, end', remains', after', ?_, ?_, hend,
        ?_, rfl⟩
      · simp
      · simp only [List.forall_mem_append, List.forall_mem_cons] at hbetween ⊢
        exact ⟨hbefore, rfl, hbetween.2⟩
      · simp [bytes_append, bytes]

end LeftBehind

/-! ## Exact reads -/

theorem readExact_zero (d : Deadline) (now : Nat) (got : Bytes) (events : List Arrival) :
    readExact d now 0 got events = ⟨.ready (.ok got), events, now⟩ := by
  cases events with
  | nil => rfl
  | cons e rest => rfl

theorem readExact_pause {p : Pause} (hfinite : p.isFinite = true) {want : Nat} (hwant : want ≠ 0)
    (now : Nat) (got : Bytes) (rest : List Arrival) :
    ∃ later, readExact none now want got (.pause p :: rest) =
      readExact none later want got rest := by
  obtain ⟨later, hwait⟩ := Pause.exists_wait_ended hfinite now
  refine ⟨later, ?_⟩
  simp only [readExact, hwant, if_false, hwait]

theorem readExact_interrupted {f : IoFault} (hf : f.kind = .interrupted) {want : Nat}
    (hwant : want ≠ 0) (d : Deadline) (now : Nat) (got : Bytes) (rest : List Arrival) :
    readExact d now want got (.fault f :: rest) = readExact d now want got rest := by
  simp only [readExact, hwant, hf, if_false, if_true]

/-- With enough bytes delivered, an exact read takes what it wants and stops right behind. -/
theorem readExact_delivered {events : List Arrival} (hfinite : ∀ e ∈ events, e.isFinite = true)
    (now : Nat) {want : Nat} (got : Bytes) (hwant : want ≠ 0)
    (henough : want ≤ (delivered events).length) :
    (readExact none now want got events).answer =
        .ready (.ok (got ++ (delivered events).take want)) ∧
      LeftBehind ((delivered events).take want) events
        (readExact none now want got events).rest := by
  induction events generalizing now want got with
  | nil => exact absurd (Nat.le_zero.mp henough) hwant
  | cons e rest ih =>
    obtain ⟨he, hrest⟩ := List.forall_mem_cons.mp hfinite
    cases e with
    | data chunk =>
      rw [delivered_data] at henough ⊢
      by_cases hlt : want < chunk.length
      · have htake : (chunk ++ delivered rest).take want = chunk.take want :=
          List.take_append_of_le_length (Nat.le_of_lt hlt)
        have hlast : chunk.take want ≠ [] := by
          rw [← List.length_pos_iff, List.length_take]
          omega
        have hremains : chunk.drop want ≠ [] := by
          rw [← List.length_pos_iff, List.length_drop]
          omega
        have hleft := LeftBehind.of_chunk (chunk.drop want) rest hlast
        rw [List.take_append_drop, behind, if_neg hremains] at hleft
        simp only [readExact, hwant, hlt, if_true, if_false, htake]
        exact ⟨trivial, hleft⟩
      · have hread : readExact none now want got (.data chunk :: rest) =
            readExact none now (want - chunk.length) (got ++ chunk) rest := by
          simp only [readExact, hwant, hlt, if_false]
        have htake : (chunk ++ delivered rest).take want =
            chunk ++ (delivered rest).take (want - chunk.length) := by
          rw [List.take_append, List.take_of_length_le (Nat.le_of_not_lt hlt)]
        rw [hread, htake]
        by_cases hlast : want - chunk.length = 0
        -- the chunk has just what is wanted: nothing behind it is met
        · have hchunk : chunk ≠ [] := by
            rw [← List.length_pos_iff]
            omega
          have hleft := LeftBehind.of_chunk [] rest hchunk
          rw [List.append_nil, behind, if_pos rfl] at hleft
          rw [hlast, readExact_zero, List.take_zero, List.append_nil]
          exact ⟨rfl, hleft⟩
        · rw [List.length_append] at henough
          obtain ⟨hanswer, hleft⟩ := ih hrest now (got ++ chunk) hlast (by omega)
          have hcons := hleft.cons (e := .data chunk) rfl
          rw [bytes, bytes, List.append_nil] at hcons
          rw [hanswer, List.append_assoc]
          exact ⟨rfl, hcons⟩
    | eof =>
      rw [delivered_cons_of_not_isPassed rest rfl] at henough
      exact absurd (Nat.le_zero.mp henough) hwant
    | fault f =>
      by_cases hf : f.kind = .interrupted
      · have hpassed := isPassed_fault.mpr hf
        rw [delivered_cons_of_isPassed rest hpassed] at henough ⊢
        rw [readExact_interrupted hf hwant]
        obtain ⟨hanswer, hleft⟩ := ih hrest now got hwant henough
        exact ⟨hanswer, hleft.cons hpassed⟩
      · have hstop : (Arrival.fault f).isPassed = false :=
          Bool.not_eq_true _ ▸ mt isPassed_fault.mp hf
        rw [delivered_cons_of_not_isPassed rest hstop] at henough
        exact absurd (Nat.le_zero.mp henough) hwant
    | pause p =>
      rw [delivered_cons_of_isPassed rest rfl] at henough ⊢
      obtain ⟨later, hread⟩ := readExact_pause he hwant now got rest
      obtain ⟨hanswer, hleft⟩ := ih hrest later got hwant henough
      rw [hread]
      exact ⟨hanswer, hleft.cons rfl⟩

theorem exists_fault_readExact {events : List Arrival}
    (hfinite : ∀ e ∈ events, e.isFinite = true) (now : Nat) {want : Nat} (got : Bytes)
    (hshort : (delivered events).length < want) :
    ∃ f, (readExact none now want got events).answer = .ready (.error f) := by
  induction events generalizing now want got with
  | nil =>
    have hwant : want ≠ 0 := Nat.ne_zero_of_lt hshort
    refine ⟨earlyEnd, ?_⟩
    simp only [readExact, hwant, if_false]
  | cons e rest ih =>
    have hwant : want ≠ 0 := Nat.ne_zero_of_lt hshort
    obtain ⟨he, hrest⟩ := List.forall_mem_cons.mp hfinite
    cases e with
    | data chunk =>
      rw [delivered_data, List.length_append] at hshort
      have hlt : ¬ want < chunk.length := by omega
      simp only [readExact, hwant, hlt, if_false]
      exact ih hrest now (got ++ chunk) (by omega)
    | eof =>
      refine ⟨earlyEnd, ?_⟩
      simp only [readExact, hwant, if_false]
    | fault f =>
      by_cases hf : f.kind = .interrupted
      · rw [delivered_cons_of_isPassed rest (isPassed_fault.mpr hf)] at hshort
        rw [readExact_interrupted hf hwant]
        exact ih hrest now got hshort
      · refine ⟨f, ?_⟩
        simp only [readExact, hwant, hf, if_false]
    | pause p =>
      rw [delivered_cons_of_isPassed rest rfl] at hshort
      obtain ⟨later, hread⟩ := readExact_pause he hwant now got rest
      rw [hread]
      exact ih hrest later got hshort

/-- With too few bytes delivered, an exact read takes them all, and the barrier with them. -/
theorem readExact_short {events : List Arrival} (hfinite : ∀ e ∈ events, e.isFinite = true)
    (now : Nat) {want : Nat} (got : Bytes) (hshort : (delivered events).length < want) :
    (readExact none now want got events).answer =
        .ready (.error (stopFault (barrier events))) ∧
      (readExact none now want got events).rest = (barrier events).tail := by
  obtain ⟨f, hf⟩ := exists_fault_readExact hfinite now got hshort
  have hbarrier := barrier_readExact none now want got events
  rw [hf] at hbarrier
  rw [hf, hbarrier.1]
  exact ⟨rfl, hbarrier.2⟩

theorem stopFault_of_head? {events more : List Arrival} (h : events.head? = more.head?) :
    stopFault events = stopFault more := by
  cases events with
  | nil =>
    rw [List.head?_nil] at h
    rw [List.head?_eq_none_iff.mp h.symm]
  | cons e rest =>
    obtain ⟨others, rfl⟩ := List.head?_eq_some_iff.mp h.symm
    cases e with
    | data | eof | fault | pause => rfl

end Arrival

/-! ## Frames -/

/-- The length field by its two bytes. -/
theorem Header.lengthField_eq_getD {bytes : Bytes} (h : Limits.headerLength ≤ bytes.length) :
    lengthField bytes = 256 * (bytes.getD 4 0).toNat + (bytes.getD 5 0).toNat := by
  match bytes, h with
  | _ :: _ :: _ :: _ :: hi :: lo :: _, _ => exact Word.toNat_ofBytes hi lo

theorem Header.lengthField_take {bytes : Bytes} (h : Limits.headerLength ≤ bytes.length) :
    lengthField (bytes.take Limits.headerLength) = lengthField bytes := by
  have hhead : (bytes.take Limits.headerLength).length = Limits.headerLength := by
    rw [List.length_take, Nat.min_eq_left h]
  rw [← lengthField_append_right (bytes.drop Limits.headerLength) hhead, List.take_append_drop]

namespace Wire

open Arrival (delivered barrier stopFault LeftBehind)

variable {w : Wire}

theorem readExact_delivered (hfinite : ∀ e ∈ w.reads, e.isFinite = true) {want : Nat}
    (hwant : want ≠ 0) (henough : want ≤ (delivered w.reads).length) :
    ∃ w', w.readExact want none = (.ready (.ok ((delivered w.reads).take want)), w') ∧
      LeftBehind ((delivered w.reads).take want) w.reads w'.reads := by
  obtain ⟨hanswer, hleft⟩ := Arrival.readExact_delivered hfinite w.now [] hwant henough
  refine ⟨(w.readExact want none).2, ?_, hleft⟩
  rw [List.nil_append] at hanswer
  exact Prod.ext hanswer rfl

theorem readExact_short (hfinite : ∀ e ∈ w.reads, e.isFinite = true) {want : Nat}
    (hshort : (delivered w.reads).length < want) :
    ∃ w', w.readExact want none = (.ready (.error (stopFault (barrier w.reads))), w') ∧
      w'.reads = (barrier w.reads).tail := by
  obtain ⟨hanswer, hrest⟩ := Arrival.readExact_short hfinite w.now [] hshort
  exact ⟨(w.readExact want none).2, Prod.ext hanswer rfl, hrest⟩

/-- The header of a frame in what is delivered, and the body that is collected behind it. -/
theorem collect_of_header (hfinite : ∀ e ∈ w.reads, e.isFinite = true)
    (hhead : Limits.headerLength ≤ (delivered w.reads).length) :
    ∃ w' : Wire, w.collect none =
        w'.readBody ((delivered w.reads).take Limits.headerLength) none ∧
      LeftBehind ((delivered w.reads).take Limits.headerLength) w.reads w'.reads := by
  obtain ⟨w', hread, hleft⟩ := readExact_delivered hfinite (by decide) hhead
  refine ⟨w', ?_, hleft⟩
  rw [collect, hread]

theorem collect_delivered (hfinite : ∀ e ∈ w.reads, e.isFinite = true)
    (hpos : 0 < Header.lengthField (delivered w.reads))
    (hle : Header.lengthField (delivered w.reads) ≤ Limits.maxMbapLength)
    (henough : Limits.headerLength + Header.lengthField (delivered w.reads) ≤
      (delivered w.reads).length) :
    let whole := (delivered w.reads).take
      (Limits.headerLength + Header.lengthField (delivered w.reads))
    (w.collect none).1 = .ready (.ok whole) ∧
      LeftBehind whole w.reads (w.collect none).2.reads := by
  have hhead : Limits.headerLength ≤ (delivered w.reads).length := by omega
  obtain ⟨w₁, hcollect, hleft₁⟩ := collect_of_header hfinite hhead
  have hbehind : delivered w₁.reads = (delivered w.reads).drop Limits.headerLength := by
    have hsplit := hleft₁.delivered_eq.1
    exact (List.append_cancel_left ((List.take_append_drop ..).trans hsplit)).symm
  have hbody : Header.lengthField (delivered w.reads) ≤ (delivered w₁.reads).length := by
    rw [hbehind, List.length_drop]
    omega
  obtain ⟨w₂, hread, hleft₂⟩ :=
    readExact_delivered (hleft₁.isFinite_of_mem hfinite) (Nat.ne_of_gt hpos) hbody
  have hgood : ¬ (Header.lengthField (delivered w.reads) = 0 ∨
      Limits.maxMbapLength < Header.lengthField (delivered w.reads)) := by omega
  have hbodyRead : w₁.readBody ((delivered w.reads).take Limits.headerLength) none =
      (.ready (.ok ((delivered w.reads).take Limits.headerLength ++
        (delivered w₁.reads).take (Header.lengthField (delivered w.reads)))), w₂) := by
    simp only [readBody, Header.lengthField_take hhead, hgood, if_false, hread]
    rfl
  have hwhole : (delivered w.reads).take
        (Limits.headerLength + Header.lengthField (delivered w.reads)) =
      (delivered w.reads).take Limits.headerLength ++
        (delivered w₁.reads).take (Header.lengthField (delivered w.reads)) := by
    rw [hbehind, List.take_add]
  rw [hcollect, hbodyRead, hwhole]
  exact ⟨rfl, hleft₁.append hleft₂⟩

theorem collect_delivered_badLength (hfinite : ∀ e ∈ w.reads, e.isFinite = true)
    (hhead : Limits.headerLength ≤ (delivered w.reads).length)
    (hbad : Header.lengthField (delivered w.reads) = 0 ∨
      Limits.maxMbapLength < Header.lengthField (delivered w.reads)) :
    (w.collect none).1 =
        .ready (.error (.invalidFrame (.length (Header.lengthField (delivered w.reads))))) ∧
      LeftBehind ((delivered w.reads).take Limits.headerLength) w.reads
        (w.collect none).2.reads := by
  obtain ⟨w', hcollect, hleft⟩ := collect_of_header hfinite hhead
  rw [hcollect]
  simp only [readBody, Header.lengthField_take hhead, hbad, if_true]
  exact ⟨trivial, hleft⟩

/-- Less than a frame in what is delivered. -/
theorem collect_delivered_short (hfinite : ∀ e ∈ w.reads, e.isFinite = true)
    (hcut : Frame.Cut (delivered w.reads)) :
    (w.collect none).1 = .ready (.error (frameFailure (stopFault (barrier w.reads)))) ∧
      (w.collect none).2.reads = (barrier w.reads).tail := by
  rcases hcut with hshort | ⟨hhead, hpos, hle, hshort⟩
  · obtain ⟨w', hread, hrest⟩ := readExact_short hfinite hshort
    rw [collect, hread]
    exact ⟨rfl, hrest⟩
  · obtain ⟨w₁, hcollect, hleft⟩ := collect_of_header hfinite hhead
    obtain ⟨hsplit, hbarrier⟩ := hleft.delivered_eq
    have hbody : (delivered w₁.reads).length < Header.lengthField (delivered w.reads) := by
      have hlength := congrArg List.length hsplit
      rw [List.length_append, List.length_take, Nat.min_eq_left hhead] at hlength
      omega
    obtain ⟨w₂, hread, hrest⟩ := readExact_short (hleft.isFinite_of_mem hfinite) hbody
    have hgood : ¬ (Header.lengthField (delivered w.reads) = 0 ∨
        Limits.maxMbapLength < Header.lengthField (delivered w.reads)) := by omega
    rw [hcollect, ← hbarrier]
    simp only [readBody, Header.lengthField_take hhead, hgood, if_false, hread]
    exact ⟨rfl, hrest⟩

/-- What is collected depends on the delivered bytes and on the event at the barrier alone. -/
theorem collect_congr {v : Wire} (hfinite : ∀ e ∈ w.reads, e.isFinite = true)
    (hfinite' : ∀ e ∈ v.reads, e.isFinite = true)
    (hbytes : delivered v.reads = delivered w.reads)
    (hstop : (barrier v.reads).head? = (barrier w.reads).head?) :
    (v.collect none).1 = (w.collect none).1 := by
  have hfault := Arrival.stopFault_of_head? hstop
  rcases Nat.lt_or_ge (delivered w.reads).length Limits.headerLength with hshort | hhead
  · rw [(collect_delivered_short hfinite (.inl hshort)).1,
      (collect_delivered_short hfinite' (hbytes ▸ .inl hshort)).1, hfault]
  · by_cases hbad : Header.lengthField (delivered w.reads) = 0 ∨
        Limits.maxMbapLength < Header.lengthField (delivered w.reads)
    · rw [(collect_delivered_badLength hfinite hhead hbad).1,
        (collect_delivered_badLength hfinite' (hbytes ▸ hhead) (hbytes ▸ hbad)).1, hbytes]
    · obtain ⟨hne, hnot⟩ := not_or.mp hbad
      have hpos := Nat.pos_of_ne_zero hne
      have hle := Nat.le_of_not_lt hnot
      rcases Nat.lt_or_ge (delivered w.reads).length
        (Limits.headerLength + Header.lengthField (delivered w.reads)) with hshort | henough
      · have hcut : Frame.Cut (delivered w.reads) := .inr ⟨hhead, hpos, hle, hshort⟩
        rw [(collect_delivered_short hfinite hcut).1,
          (collect_delivered_short hfinite' (hbytes ▸ hcut)).1, hfault]
      · rw [(collect_delivered hfinite hpos hle henough).1,
          (collect_delivered hfinite' (hbytes ▸ hpos) (hbytes ▸ hle) (hbytes ▸ henough)).1, hbytes]

end Wire

end ModbusTcp
