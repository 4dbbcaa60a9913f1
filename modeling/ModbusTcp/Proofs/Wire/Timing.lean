import ModbusTcp.Proofs.Wire.Collection
import ModbusTcp.Proofs.Wire.Punctual

/-!
# Reading and writing against the clock

What writes to a wire or reads from it is only cut off by a deadline, over as many events as that
takes: each event is passed at once or is a pause. Collecting a frame reads twice, but under one
deadline (`Wire.punctual_collect`).
-/

namespace ModbusTcp

namespace Awaited

/-- The deadline passed first. -/
def isOverdue {α : Type} : Awaited α → Bool
  | .ready _ => false
  | .overdue => true

theorem isOverdue_iff {α : Type} {a : Awaited α} : a.isOverdue = true ↔ a = .overdue := by
  cases a with
  | ready => simp [isOverdue]
  | overdue => simp [isOverdue]

theorem exists_of_not_isOverdue {α : Type} {a : Awaited α} (h : a.isOverdue = false) :
    ∃ answer, a = .ready answer := by
  cases a with
  | ready answer => exact ⟨answer, rfl⟩
  | overdue => cases h

end Awaited

namespace Arrival

/-- The pauses that reading may have to sit out. -/
def pauses : List Arrival → List Pause
  | [] => []
  | .pause p :: rest => p :: pauses rest
  | _ :: rest => pauses rest

/-- Progress in reading is watched by the pauses among the arrivals. -/
def watch (α : Type) : Watch (Progress Arrival α) where
  overdue r := r.answer.isOverdue
  now := Progress.now
  pauses r := pauses r.rest

theorem punctual_read (most now : Nat) (events : List Arrival) :
    Punctual (watch (Except IoFault Bytes)) now (pauses events)
      (fun d => read most d now events) := by
  induction events generalizing now with
  | nil => exact Punctual.ready (fun _ => rfl) rfl rfl rfl
  | cons event rest ih =>
    cases event with
    | data chunk =>
      cases chunk with
      | nil => exact ih now
      | cons b bs =>
        by_cases hlt : most < (b :: bs).length
        · simp only [read, hlt, if_true]
          exact Punctual.ready (fun _ => rfl) rfl rfl rfl
        · simp only [read, hlt, if_false]
          exact Punctual.ready (fun _ => rfl) rfl rfl rfl
    | eof | fault f => exact Punctual.ready (fun _ => rfl) rfl rfl rfl
    | pause p =>
      exact p.punctual_behind (fun moment d => read most d moment rest)
        (fun remains moment => ⟨.overdue, .pause remains :: rest, moment⟩) ih
        (fun _ _ => ⟨rfl, rfl, rfl⟩)

theorem punctual_readExact (now want : Nat) (got : Bytes) (events : List Arrival) :
    Punctual (watch (Except IoFault Bytes)) now (pauses events)
      (fun d => readExact d now want got events) := by
  induction events generalizing now want got with
  | nil =>
    by_cases hwant : want = 0
    · simp only [readExact, hwant, if_true]
      exact Punctual.ready (fun _ => rfl) rfl rfl rfl
    · simp only [readExact, hwant, if_false]
      exact Punctual.ready (fun _ => rfl) rfl rfl rfl
  | cons event rest ih =>
    by_cases hwant : want = 0
    · simp only [readExact, hwant, if_true]
      exact Punctual.ready (fun _ => rfl) rfl rfl rfl
    · cases event with
      | data chunk =>
        by_cases hlt : want < chunk.length
        · simp only [readExact, hwant, hlt, if_true, if_false]
          exact Punctual.ready (fun _ => rfl) rfl rfl rfl
        · simp only [readExact, hwant, hlt, if_false]
          exact ih now _ _
      | eof =>
        simp only [readExact, hwant, if_false]
        exact Punctual.ready (fun _ => rfl) rfl rfl rfl
      | fault f =>
        by_cases hf : f.kind = .interrupted
        · simp only [readExact, hwant, hf, if_true, if_false]
          exact ih now want got
        · simp only [readExact, hwant, hf, if_false]
          exact Punctual.ready (fun _ => rfl) rfl rfl rfl
      | pause p =>
        simp only [readExact, hwant, if_false]
        exact p.punctual_behind (fun moment d => readExact d moment want got rest)
          (fun remains moment => ⟨.overdue, .pause remains :: rest, moment⟩)
          (fun moment => ih moment want got) (fun _ _ => ⟨rfl, rfl, rfl⟩)

end Arrival

namespace Uptake

/-- The pauses that writing may have to sit out. -/
def pauses : List Uptake → List Pause
  | [] => []
  | .pause p :: rest => p :: pauses rest
  | _ :: rest => pauses rest

/-- Progress in writing is watched by the pauses among the uptakes. -/
def watch : Watch Delivery where
  overdue r := r.answer.isOverdue
  now := Delivery.now
  pauses r := pauses r.rest

theorem punctual_writeAll (now : Nat) (taken left : Bytes) (events : List Uptake) :
    Punctual watch now (pauses events) (fun d => writeAll d now taken left events) := by
  induction events generalizing now taken left with
  | nil => exact Punctual.ready (fun _ => rfl) rfl rfl rfl
  | cons event rest ih =>
    by_cases hleft : left.isEmpty
    · simp only [writeAll, hleft, if_true]
      exact Punctual.ready (fun _ => rfl) rfl rfl rfl
    · cases event with
      | accept most =>
        by_cases hmost : most = 0
        · simp only [writeAll, hleft, hmost, if_true]
          exact Punctual.ready (fun _ => rfl) rfl rfl rfl
        · simp only [writeAll, hleft, hmost, if_false]
          exact ih now _ _
      | fault f =>
        by_cases hf : f.kind = .interrupted
        · simp only [writeAll, hleft, hf, if_true]
          exact ih now taken left
        · simp only [writeAll, hleft, hf, if_false]
          exact Punctual.ready (fun _ => rfl) rfl rfl rfl
      | pause p =>
        simp only [writeAll, hleft]
        exact p.punctual_behind (fun moment d => writeAll d moment taken left rest)
          (fun remains moment => ⟨.overdue, taken, .pause remains :: rest, moment⟩)
          (fun moment => ih moment taken left) (fun _ _ => ⟨rfl, rfl, rfl⟩)

end Uptake

namespace Wire

/-- The answer of an operation on a wire, and the wire behind it, by the pauses of one side. -/
def watch (α : Type) (side : Wire → List Pause) : Watch (Awaited α × Wire) where
  overdue r := r.1.isOverdue
  now r := r.2.now
  pauses r := side r.2

/-- The pauses among what reading will meet. -/
def readPauses (w : Wire) : List Pause := Arrival.pauses w.reads

/-- The pauses among what writing will meet. -/
def writePauses (w : Wire) : List Pause := Uptake.pauses w.writes

theorem punctual_send (w : Wire) (request : Bytes) :
    Punctual (watch _ writePauses) w.now w.writePauses (w.send request) :=
  (Uptake.punctual_writeAll w.now [] request w.writes).map
    (fun p => (p.answer, { w with writes := p.rest, now := p.now, sent := p.taken :: w.sent }))
    (fun _ => ⟨rfl, rfl, rfl⟩)

theorem punctual_read (w : Wire) (most : Nat) :
    Punctual (watch _ readPauses) w.now w.readPauses (w.read most) :=
  (Arrival.punctual_read most w.now w.reads).map
    (fun p => (p.answer, { w with reads := p.rest, now := p.now })) (fun _ => ⟨rfl, rfl, rfl⟩)

theorem punctual_readExact (w : Wire) (want : Nat) :
    Punctual (watch _ readPauses) w.now w.readPauses (w.readExact want) :=
  (Arrival.punctual_readExact w.now want [] w.reads).map
    (fun p => (p.answer, { w with reads := p.rest, now := p.now })) (fun _ => ⟨rfl, rfl, rfl⟩)

theorem punctual_readOnce (w : Wire) (most : Nat) :
    Punctual (watch _ readPauses) w.now w.readPauses (fun d => (w.readOnce most d).value) := by
  simp only [value_readOnce]
  refine (w.punctual_read most).map (fun r => (r.1.map (·.mapError Failure.io), r.2)) ?_
  rintro ⟨answer | _, w'⟩
  · exact ⟨rfl, rfl, rfl⟩
  · exact ⟨rfl, rfl, rfl⟩

theorem punctual_readBody (w : Wire) (header : Bytes) :
    Punctual (watch _ readPauses) w.now w.readPauses (w.readBody header) := by
  unfold readBody
  by_cases hbad : Header.lengthField header = 0 ∨
      Limits.maxMbapLength < Header.lengthField header
  · simp only [hbad, if_true]
    exact Punctual.ready (fun _ => rfl) rfl rfl rfl
  · simp only [hbad, if_false]
    refine (w.punctual_readExact (Header.lengthField header)).map
      (fun r => (r.1.map fun a => (a.map (header ++ ·)).mapError frameFailure, r.2)) ?_
    rintro ⟨answer | _, w'⟩
    · exact ⟨rfl, rfl, rfl⟩
    · exact ⟨rfl, rfl, rfl⟩

/-- Collecting a frame, from what reading its header came to. -/
def collectFrom (d : Deadline) :
    Awaited (Except IoFault Bytes) × Wire → Awaited (Except Failure Bytes) × Wire
  | (.overdue, w) => (.overdue, w)
  | (.ready (.error f), w) => (.ready (.error (frameFailure f)), w)
  | (.ready (.ok header), w) => w.readBody header d

theorem collect_eq (w : Wire) (d : Deadline) :
    w.collect d = collectFrom d (w.readExact Limits.headerLength d) := by
  unfold collect
  rcases w.readExact Limits.headerLength d with ⟨(f | header) | _, w'⟩
  · rfl
  · rfl
  · rfl

/-- Header and body of a frame are collected under one deadline. -/
theorem punctual_collect (w : Wire) :
    Punctual (watch _ readPauses) w.now w.readPauses w.collect := by
  have hcollect : w.collect = fun d => collectFrom d (w.readExact Limits.headerLength d) :=
    funext w.collect_eq
  rw [hcollect]
  refine (w.punctual_readExact Limits.headerLength).andThen (fun r d => collectFrom d r) ?_ ?_
  · intro hready
    rcases hread : w.readExact Limits.headerLength none with ⟨(f | header) | _, w'⟩
    · exact Punctual.ready (fun _ => rfl) rfl rfl rfl
    · exact w'.punctual_readBody header
    · rw [hread] at hready
      cases hready
  · rintro ⟨(f | header) | _, w'⟩ d hover
    · cases hover
    · cases hover
    · exact ⟨rfl, rfl, rfl⟩

theorem punctual_readFrame (w : Wire) :
    Punctual (watch _ readPauses) w.now w.readPauses (fun d => (w.readFrame d).value) := by
  simp only [value_readFrame]
  exact w.punctual_collect

end Wire

end ModbusTcp
