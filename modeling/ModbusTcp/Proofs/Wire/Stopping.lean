import Mathlib.Data.List.TakeWhile
import ModbusTcp.Wire.Basic

/-!
# Where a stream stops an operation

An operation that fails was stopped by an event of the stream: the first that it could not pass.
Which one that is depends on the list of events alone, not on how many bytes are wanted, nor on
deadlines; what an operation passes on its way, it passes for every later one too. So a fault that
is told is the fault of that event (`Arrival.barrier_readExact`, `Arrival.answering_read`,
`Uptake.barrier_writeAll`), and the events behind it are what is left.
-/

namespace ModbusTcp

namespace Arrival

/-- An exact read goes on behind it: bytes, an interrupted read, or something to wait for. -/
def isPassed : Arrival → Bool
  | .data _ | .pause _ => true
  | .fault f => f.kind == .interrupted
  | .eof => false

/-- The events from the first on that an exact read cannot pass. -/
def barrier (events : List Arrival) : List Arrival := events.dropWhile isPassed

/-- What an exact read is told where it cannot go on. -/
def stopFault : List Arrival → IoFault
  | .fault f :: _ => f
  | _ => earlyEnd

/-- The stream ends here: there is nothing more to come, or it says that it is at its end. -/
def Ended : List Arrival → Prop
  | [] | .eof :: _ => True
  | .fault f :: _ => f.kind = .unexpectedEof
  | _ => False

theorem barrier_cons_of_isPassed {e : Arrival} (rest : List Arrival) (h : e.isPassed = true) :
    barrier (e :: rest) = barrier rest := List.dropWhile_cons_of_pos h

theorem barrier_cons_of_not_isPassed {e : Arrival} (rest : List Arrival)
    (h : e.isPassed = false) : barrier (e :: rest) = e :: rest :=
  List.dropWhile_cons_of_neg (Bool.not_eq_true _ ▸ h)

theorem isPassed_fault {f : IoFault} : (Arrival.fault f).isPassed = true ↔ f.kind = .interrupted :=
  beq_iff_eq

/-- An exact read that fails was stopped at the barrier, and any other leaves the barrier where it
is. -/
theorem barrier_readExact (d : Deadline) (now want : Nat) (got : Bytes) (events : List Arrival) :
    match (readExact d now want got events).answer with
    | .ready (.error f) =>
      f = stopFault (barrier events) ∧
        (readExact d now want got events).rest = (barrier events).tail
    | _ => barrier (readExact d now want got events).rest = barrier events := by
  fun_induction readExact d now want got events with
  | case1 | case3 | case4 => rfl
  | case2 | case6 => exact ⟨rfl, rfl⟩
  | case5 now want got rest hw chunk hle ih =>
    rw [barrier_cons_of_isPassed rest rfl]
    exact ih
  | case7 now want got rest hw f hf ih =>
    rw [barrier_cons_of_isPassed rest (isPassed_fault.mpr hf)]
    exact ih
  | case8 now want got rest hw f hf =>
    rw [barrier_cons_of_not_isPassed rest (Bool.not_eq_true _ ▸ mt isPassed_fault.mp hf)]
    exact ⟨rfl, rfl⟩
  | case9 now want got rest hw p later hp ih =>
    rw [barrier_cons_of_isPassed rest rfl]
    exact ih
  | case10 now want got rest hw p left later hp =>
    exact (barrier_cons_of_isPassed rest rfl).trans (barrier_cons_of_isPassed rest rfl).symm

/-- At the barrier the stream has ended or reports a fault, and an exact read is told which. -/
theorem ended_or_fault (events : List Arrival) :
    Ended (barrier events) ∧ (stopFault (barrier events)).kind = .unexpectedEof ∨
      ∃ f rest, barrier events = .fault f :: rest ∧ f.kind ≠ .unexpectedEof := by
  induction events with
  | nil => exact .inl ⟨trivial, rfl⟩
  | cons e rest ih =>
    cases hpassed : e.isPassed with
    | true =>
      rw [barrier_cons_of_isPassed rest hpassed]
      exact ih
    | false =>
      rw [barrier_cons_of_not_isPassed rest hpassed]
      cases e with
      | data | pause => cases hpassed
      | eof => exact .inl ⟨trivial, rfl⟩
      | fault f =>
        by_cases hkind : f.kind = .unexpectedEof
        · exact .inl ⟨hkind, hkind⟩
        · exact .inr ⟨f, rest, rfl, hkind⟩

/-- A single read goes on behind it: an empty chunk, or something to wait for. -/
def isIdle : Arrival → Bool
  | .data [] | .pause _ => true
  | _ => false

/-- The events from the first on that a single read answers to. -/
def answering (events : List Arrival) : List Arrival := events.dropWhile isIdle

/-- A single read that fails answers to a fault. -/
theorem answering_read {most : Nat} {d : Deadline} {now : Nat} {events : List Arrival}
    {f : IoFault} (h : (read most d now events).answer = .ready (.error f)) :
    answering events = .fault f :: (read most d now events).rest := by
  fun_induction read most d now events with
  | case1 | case3 | case4 | case5 | case8 => simp at h
  | case2 now rest ih =>
    rw [← ih h]
    exact List.dropWhile_cons_of_pos rfl
  | case6 now g rest =>
    simp only [Awaited.ready.injEq, Except.error.injEq] at h
    rw [← h]
    exact List.dropWhile_cons_of_neg (by simp [isIdle])
  | case7 now p rest later hw ih =>
    rw [← ih h]
    exact List.dropWhile_cons_of_pos rfl

theorem answering_data {chunk : Bytes} (rest : List Arrival) (h : chunk ≠ []) :
    answering (.data chunk :: rest) = .data chunk :: rest := by
  obtain ⟨b, bs, rfl⟩ := List.exists_cons_of_ne_nil h
  rfl

/-- A single read that succeeds brings the beginning of the chunk it answers to, as far as it has
room, or nothing if the stream ends there. -/
theorem answering_read_ok {most : Nat} {d : Deadline} {now : Nat} {events : List Arrival}
    {bs : Bytes} (h : (read most d now events).answer = .ready (.ok bs)) :
    (∃ chunk rest, answering events = .data chunk :: rest ∧ bs = chunk.take most) ∨
      Ended (answering events) ∧ bs = [] := by
  fun_induction read most d now events with
  | case1 =>
    simp only [Awaited.ready.injEq, Except.ok.injEq] at h
    exact .inr ⟨trivial, h.symm⟩
  | case2 now rest ih => exact ih h
  | case3 now chunk rest hne hlt =>
    simp only [Awaited.ready.injEq, Except.ok.injEq] at h
    exact .inl ⟨chunk, rest, answering_data rest hne, h.symm⟩
  | case4 now chunk rest hne hle =>
    simp only [Awaited.ready.injEq, Except.ok.injEq] at h
    refine .inl ⟨chunk, rest, answering_data rest hne, ?_⟩
    rw [List.take_of_length_le (Nat.le_of_not_lt hle), h]
  | case5 now rest =>
    simp only [Awaited.ready.injEq, Except.ok.injEq] at h
    exact .inr ⟨trivial, h.symm⟩
  | case6 | case8 => simp at h
  | case7 now p rest later hw ih => exact ih h

end Arrival

namespace Uptake

/-- A write goes on behind it: something was taken, the write was interrupted, or there is
something to wait for. -/
def isPassed : Uptake → Bool
  | .accept most => most != 0
  | .fault f => f.kind == .interrupted
  | .pause _ => true

/-- The events from the first on that a write cannot pass. -/
def barrier (events : List Uptake) : List Uptake := events.dropWhile isPassed

/-- Writing that fails was stopped at the barrier, by a fault or because nothing was taken. -/
theorem barrier_writeAll {d : Deadline} {now : Nat} {taken left : Bytes} {events : List Uptake}
    {f : IoFault} (h : (writeAll d now taken left events).answer = .ready (.error f)) :
    barrier events = .fault f :: (writeAll d now taken left events).rest ∨
      f = nothingTaken ∧
        barrier events = .accept 0 :: (writeAll d now taken left events).rest := by
  fun_induction writeAll d now taken left events with
  | case1 | case2 | case8 => simp at h
  | case3 now taken left rest hl =>
    simp only [Awaited.ready.injEq, Except.error.injEq] at h
    exact .inr ⟨h.symm, List.dropWhile_cons_of_neg (by simp [isPassed])⟩
  | case4 now taken left rest hl most hm ih =>
    have hpassed : barrier (.accept most :: rest) = barrier rest :=
      List.dropWhile_cons_of_pos (by simpa [isPassed] using hm)
    rw [hpassed]
    exact ih h
  | case5 now taken left rest hl g hg ih =>
    have hpassed : barrier (.fault g :: rest) = barrier rest :=
      List.dropWhile_cons_of_pos (by simpa [isPassed] using hg)
    rw [hpassed]
    exact ih h
  | case6 now taken left rest hl g hg =>
    simp only [Awaited.ready.injEq, Except.error.injEq] at h
    rw [← h]
    exact .inl (List.dropWhile_cons_of_neg (by simpa [isPassed] using hg))
  | case7 now taken left rest hl p later hp ih =>
    have hpassed : barrier (.pause p :: rest) = barrier rest := List.dropWhile_cons_of_pos rfl
    rw [hpassed]
    exact ih h

/-- The first event that a write cannot pass stands behind events that it passes. -/
theorem exists_eq_of_barrier {events rest : List Uptake} {e : Uptake}
    (h : barrier events = e :: rest) :
    ∃ passed, events = passed ++ e :: rest ∧ (∀ x ∈ passed, x.isPassed = true) ∧
      e.isPassed = false := by
  unfold barrier at h
  refine ⟨events.takeWhile isPassed, ?_, fun x => List.mem_takeWhile_imp, ?_⟩
  · rw [← h, List.takeWhile_append_dropWhile]
  · have hstop := List.head?_dropWhile_not isPassed events
    rw [h] at hstop
    exact hstop

/-- Writing that is given up was waiting for a pause, behind events that it passed. -/
theorem exists_eq_of_overdue {d : Deadline} {now : Nat} {taken left : Bytes}
    {events : List Uptake} (h : (writeAll d now taken left events).answer = .overdue) :
    ∃ passed p remains later, events = passed ++ .pause p :: later ∧
      (∀ x ∈ passed, x.isPassed = true) ∧
      (writeAll d now taken left events).rest = .pause remains :: later := by
  fun_induction writeAll d now taken left events with
  | case1 | case2 | case3 | case6 => simp at h
  | case4 now taken left rest hl most hm ih =>
    obtain ⟨passed, p, remains, later, rfl, hpassed, hrest⟩ := ih h
    have hmost : (Uptake.accept most).isPassed = true := by simpa [isPassed] using hm
    exact ⟨_, p, remains, later, rfl, List.forall_mem_cons.mpr ⟨hmost, hpassed⟩, hrest⟩
  | case5 now taken left rest hl g hg ih =>
    obtain ⟨passed, p, remains, later, rfl, hpassed, hrest⟩ := ih h
    have hfault : (Uptake.fault g).isPassed = true := by simpa [isPassed] using hg
    exact ⟨_, p, remains, later, rfl, List.forall_mem_cons.mpr ⟨hfault, hpassed⟩, hrest⟩
  | case7 now taken left rest hl p' moment hw ih =>
    obtain ⟨passed, p, remains, later, rfl, hpassed, hrest⟩ := ih h
    exact ⟨_, p, remains, later, rfl, List.forall_mem_cons.mpr ⟨rfl, hpassed⟩, hrest⟩
  | case8 now taken left rest hl p remains moment hw =>
    exact ⟨[], p, remains, rest, rfl, by simp, rfl⟩

end Uptake

namespace Wire

theorem barrier_readExact (w : Wire) (want : Nat) (d : Deadline) :
    match (w.readExact want d).1 with
    | .ready (.error f) =>
      f = Arrival.stopFault (Arrival.barrier w.reads) ∧
        (w.readExact want d).2.reads = (Arrival.barrier w.reads).tail
    | _ => Arrival.barrier (w.readExact want d).2.reads = Arrival.barrier w.reads :=
  Arrival.barrier_readExact d w.now want [] w.reads

/-- Reading the body of a frame fails over its header, or was stopped at the barrier. -/
theorem barrier_readBody {w : Wire} {head : Bytes} {d : Deadline} {f : Failure}
    (h : (w.readBody head d).1 = .ready (.error f)) :
    (∃ why, f = .invalidFrame why) ∨
      f = frameFailure (Arrival.stopFault (Arrival.barrier w.reads)) ∧
        (w.readBody head d).2.reads = (Arrival.barrier w.reads).tail := by
  unfold readBody at h ⊢
  by_cases hbad : Header.lengthField head = 0 ∨ Limits.maxMbapLength < Header.lengthField head
  · simp only [hbad, if_true, Awaited.ready.injEq, Except.error.injEq] at h
    exact .inl ⟨_, h.symm⟩
  · simp only [hbad, if_false] at h ⊢
    have hbarrier := w.barrier_readExact (Header.lengthField head) d
    rcases hread : w.readExact (Header.lengthField head) d with ⟨(g | bs) | _, w'⟩ <;>
      rw [hread] at h hbarrier
    · obtain ⟨hfault, hrest⟩ := hbarrier
      change Awaited.ready (Except.error (frameFailure g)) = _ at h
      simp only [Awaited.ready.injEq, Except.error.injEq] at h
      exact .inr ⟨by rw [← h, hfault], hrest⟩
    · change Awaited.ready (Except.ok (head ++ bs)) = _ at h
      cases h
    · change Awaited.overdue = _ at h
      cases h

/-- Collecting a frame fails over its header, or was stopped at the barrier. -/
theorem barrier_collect {w : Wire} {d : Deadline} {f : Failure}
    (h : (w.collect d).1 = .ready (.error f)) :
    (∃ why, f = .invalidFrame why) ∨
      f = frameFailure (Arrival.stopFault (Arrival.barrier w.reads)) ∧
        (w.collect d).2.reads = (Arrival.barrier w.reads).tail := by
  have hbarrier := w.barrier_readExact Limits.headerLength d
  unfold collect at h ⊢
  rcases hread : w.readExact Limits.headerLength d with ⟨(g | bs) | _, w'⟩ <;>
    rw [hread] at h hbarrier
  · obtain ⟨hfault, hrest⟩ := hbarrier
    simp only [Awaited.ready.injEq, Except.error.injEq] at h
    exact .inr ⟨by rw [← h, hfault], hrest⟩
  · -- the header left the barrier where it was, so the body is stopped at the same one
    have hbody := barrier_readBody h
    rw [hbarrier] at hbody
    exact hbody
  · cases h

end Wire

end ModbusTcp
