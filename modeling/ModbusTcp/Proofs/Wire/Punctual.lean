import Mathlib.Data.ENat.Lattice
import ModbusTcp.Wire.Stream

/-!
# Operations that a deadline only cuts off

Sitting out pauses takes time and nothing else does. So an operation under a deadline is the
operation that is never given up, cut off at the deadline: if that one is ready by then, both are
the same, and if not, the operation under the deadline ends with it (`Punctual`). This holds of a
single pause (`Pause.punctual_wait`), and it is kept when an operation goes on where another one
ended, under one deadline for both (`Punctual.andThen`). What such an operation takes is the sum of
what is left of the pauses that it meets (`SitsOut`), and with a limit it takes that or the limit,
whichever is less (`Punctual.now_eq`).
-/

namespace ModbusTcp

/-! ## Pauses -/

namespace Pause

/-- How long a pause still goes on, if it ever ends. -/
def left (now : Nat) : Pause → Option Nat
  | .delay millis => some millis
  | .running ends => some (ends - now)
  | .stall | .hanging => none

/-- What it takes to sit out pauses one after the other. -/
def total (now : Nat) : List Pause → ℕ∞
  | [] => 0
  | p :: rest =>
    match p.left now with
    | some millis => millis + total (now + millis) rest
    | none => ⊤

theorem total_cons_of_left {p : Pause} {now millis : Nat} (h : p.left now = some millis)
    (rest : List Pause) : total now (p :: rest) = millis + total (now + millis) rest := by
  simp only [total, h]

theorem total_cons_of_endless {p : Pause} {now : Nat} (h : p.left now = none)
    (rest : List Pause) : total now (p :: rest) = ⊤ := by
  simp only [total, h]

theorem total_append {now millis : Nat} {first : List Pause} (h : total now first = millis)
    (second : List Pause) :
    total now (first ++ second) = millis + total (now + millis) second := by
  induction first generalizing now millis with
  | nil =>
    obtain rfl : millis = 0 := (Nat.cast_inj.mp h).symm
    simp
  | cons p rest ih =>
    cases hleft : p.left now with
    | none =>
      rw [total_cons_of_endless hleft] at h
      exact absurd h.symm (ENat.natCast_ne_top millis)
    | some this =>
      rw [total_cons_of_left hleft] at h
      have hfinite : total (now + this) rest ≠ ⊤ := by
        intro htop
        rw [htop, add_top] at h
        exact absurd h.symm (ENat.natCast_ne_top millis)
      obtain ⟨later, hlater⟩ := ENat.ne_top_iff_exists.mp hfinite
      rw [← hlater, ← Nat.cast_add, Nat.cast_inj] at h
      subst h
      rw [List.cons_append, total_cons_of_left hleft, ih hlater.symm, Nat.cast_add,
        Nat.add_assoc, add_assoc (this : ℕ∞)]

theorem wait_of_endless {p : Pause} {now : Nat} (h : p.left now = none) (d : Deadline) :
    p.wait d now = .cut .hanging (d.expiry now) := by
  cases p with
  | delay | running => cases h
  | stall | hanging => rfl

theorem exists_wait_eq {p : Pause} {now millis : Nat} (h : p.left now = some millis) :
    ∃ moment, max now moment = now + millis ∧ ∀ d, p.wait d now = waitUntil moment d now := by
  cases p with
  | stall | hanging => cases h
  | delay this =>
    obtain rfl := Option.some.inj h
    exact ⟨now + this, Nat.max_eq_right (Nat.le_add_right now this), fun _ => rfl⟩
  | running ends =>
    obtain rfl := Option.some.inj h
    exact ⟨ends, by omega, fun _ => rfl⟩

/-- A pause that is over by the deadline ends when it would without one. -/
theorem wait_of_allows {p : Pause} {now millis : Nat} {d : Deadline}
    (h : p.left now = some millis) (hd : d.allows (now + millis) = true) :
    p.wait d now = .ended (now + millis) := by
  obtain ⟨moment, hmoment, hwait⟩ := exists_wait_eq h
  rw [hwait, waitUntil, hmoment, if_pos hd]

/-- A pause that goes on behind the deadline is cut there, and what is left of it goes on. -/
theorem wait_of_lt {p : Pause} {now millis d : Nat} (h : p.left now = some millis)
    (hnow : now ≤ d) (hlt : d < now + millis) :
    ∃ remains, p.wait (some d) now = .cut remains d ∧
      remains.left d = some (now + millis - d) := by
  obtain ⟨moment, hmoment, hwait⟩ := exists_wait_eq h
  have hlate : ¬ Deadline.allows (some d) (now + millis) = true := by
    rw [Deadline.allows_some, decide_eq_true_eq]
    exact Nat.not_le.mpr hlt
  rw [hwait, waitUntil, hmoment, if_neg hlate, Deadline.expiry_some, Nat.max_eq_right hnow]
  refine ⟨_, rfl, ?_⟩
  rw [left, Option.some.injEq]
  omega

end Pause

/-! ## Operations that are only cut off -/

/-- What the clock shows of a result: was the operation given up, when did it end, and which pauses
are left behind it. -/
structure Watch (ρ : Type) where
  overdue : ρ → Bool
  now : ρ → Nat
  pauses : ρ → List Pause

/-- What it took from a moment to a result, if the operation came to one. -/
def Watch.time {ρ : Type} (v : Watch ρ) (now : Nat) (r : ρ) : ℕ∞ :=
  if v.overdue r then ⊤ else (v.now r - now : Nat)

/-- From some pauses to others: those in front were met and sat out, which takes so long. If that
has no end, the last one of them is left, and it has been begun. -/
def SitsOut (now : Nat) (before after : List Pause) (time : ℕ∞) : Prop :=
  ∃ met later, before = met ++ later ∧ Pause.total now met = time ∧
    (time ≠ ⊤ → after = later) ∧ (time = ⊤ → after = .hanging :: later)

theorem SitsOut.nothing (now : Nat) (pauses : List Pause) : SitsOut now pauses pauses 0 := by
  refine ⟨[], pauses, rfl, rfl, ?_, ?_⟩
  · intro _
    rfl
  · intro htop
    cases htop

theorem SitsOut.append {now millis : Nat} {before between after : List Pause} {time : ℕ∞}
    (first : SitsOut now before between millis)
    (second : SitsOut (now + millis) between after time) :
    SitsOut now before after (millis + time) := by
  obtain ⟨met₁, later₁, rfl, htotal₁, hfinite₁, -⟩ := first
  obtain rfl := hfinite₁ (ENat.natCast_ne_top millis)
  obtain ⟨met₂, later₂, rfl, htotal₂, hfinite₂, hendless₂⟩ := second
  refine ⟨met₁ ++ met₂, later₂, (List.append_assoc ..).symm, ?_, ?_, ?_⟩
  · rw [Pause.total_append htotal₁, htotal₂]
  · intro hfinite
    apply hfinite₂
    intro htop
    exact hfinite (by rw [htop, add_top])
  · intro htop
    apply hendless₂
    rcases WithTop.add_eq_top.mp htop with hmillis | htime
    · exact absurd hmillis (ENat.natCast_ne_top millis)
    · exact htime

/-- An operation that a deadline only cuts off, with the moment when it begins and the pauses that
lie before it. -/
structure Punctual {ρ : Type} (v : Watch ρ) (now : Nat) (pauses : List Pause)
    (op : Deadline → ρ) : Prop where
  now_le : now ≤ v.now (op none)
  in_time : ∀ d, v.overdue (op none) = false → v.now (op none) ≤ d → op (some d) = op none
  cut_off : ∀ d, now ≤ d → (v.overdue (op none) = false → d < v.now (op none)) →
    v.overdue (op (some d)) = true ∧ v.now (op (some d)) = d
  sits_out : SitsOut now pauses (v.pauses (op none)) (v.time now (op none))

namespace Watch

variable {ρ : Type} {v : Watch ρ} {r : ρ}

theorem time_of_overdue (h : v.overdue r = true) (now : Nat) : v.time now r = ⊤ := by
  rw [time, if_pos h]

theorem time_of_ready (h : v.overdue r = false) (now : Nat) :
    v.time now r = (v.now r - now : Nat) := by
  rw [time, if_neg (by simp [h])]

end Watch

namespace Punctual

variable {ρ σ : Type} {v : Watch ρ} {u : Watch σ} {now : Nat} {pauses : List Pause}
  {op : Deadline → ρ}

/-- An operation that is ready at once, whatever the deadline, takes no time. -/
theorem ready (hsame : ∀ d, op d = op none) (hready : v.overdue (op none) = false)
    (hnow : v.now (op none) = now) (hpauses : v.pauses (op none) = pauses) :
    Punctual v now pauses op where
  now_le := Nat.le_of_eq hnow.symm
  in_time := fun d _ _ => hsame (some d)
  cut_off := by
    intro d hbegun hlate
    have hlt := hlate hready
    rw [hnow] at hlt
    exact absurd hlt (Nat.not_lt.mpr hbegun)
  sits_out := by
    rw [Watch.time_of_ready hready, hnow, Nat.sub_self, hpauses]
    exact SitsOut.nothing now pauses

/-- An operation that goes on where another one ended, under the same deadline, and that is given
up where the other one is. -/
theorem andThen (h : Punctual v now pauses op) (next : ρ → Deadline → σ)
    (hnext : v.overdue (op none) = false →
      Punctual u (v.now (op none)) (v.pauses (op none)) (next (op none)))
    (hover : ∀ r d, v.overdue r = true →
      u.overdue (next r d) = true ∧ u.now (next r d) = v.now r ∧
        u.pauses (next r d) = v.pauses r) :
    Punctual u now pauses (fun d => next (op d) d) := by
  cases hfirst : v.overdue (op none) with
  | true =>
    obtain ⟨hoverdue, hmoment, hpauses⟩ := hover (op none) none hfirst
    refine ⟨?_, ?_, ?_, ?_⟩
    · rw [hmoment]
      exact h.now_le
    · intro d hready _
      rw [hoverdue] at hready
      cases hready
    · intro d hnow _
      have hcut := h.cut_off d hnow (by rw [hfirst]; intro hready; cases hready)
      obtain ⟨hover', hmoment', -⟩ := hover (op (some d)) (some d) hcut.1
      exact ⟨hover', hmoment'.trans hcut.2⟩
    · rw [Watch.time_of_overdue hoverdue, hpauses, ← Watch.time_of_overdue hfirst now]
      exact h.sits_out
  | false =>
    have hsecond := hnext hfirst
    refine ⟨h.now_le.trans hsecond.now_le, ?_, ?_, ?_⟩
    · intro d hready hle
      have hsame : op (some d) = op none := h.in_time d hfirst (hsecond.now_le.trans hle)
      rw [hsame]
      exact hsecond.in_time d hready hle
    · intro d hnow hlate
      by_cases hle : v.now (op none) ≤ d
      · have hsame : op (some d) = op none := h.in_time d hfirst hle
        rw [hsame]
        exact hsecond.cut_off d hle hlate
      -- the first operation is cut off already
      · have hcut := h.cut_off d hnow (fun _ => Nat.lt_of_not_le hle)
        obtain ⟨hover', hmoment', -⟩ := hover (op (some d)) (some d) hcut.1
        exact ⟨hover', hmoment'.trans hcut.2⟩
    · have hbegins : now + (v.now (op none) - now) = v.now (op none) :=
        Nat.add_sub_of_le h.now_le
      have hmet₁ := h.sits_out
      have hmet₂ := hsecond.sits_out
      rw [Watch.time_of_ready hfirst] at hmet₁
      rw [← hbegins] at hmet₂
      have hmet := hmet₁.append hmet₂
      rw [hbegins] at hmet
      have htime : u.time now (next (op none) none) = (v.now (op none) - now : Nat) +
          u.time (v.now (op none)) (next (op none) none) := by
        cases hlast : u.overdue (next (op none) none) with
        | true => rw [Watch.time_of_overdue hlast, Watch.time_of_overdue hlast, add_top]
        | false =>
          rw [Watch.time_of_ready hlast, Watch.time_of_ready hlast, ← Nat.cast_add, Nat.cast_inj]
          have hlater := hsecond.now_le
          have hearlier := h.now_le
          omega
      rw [htime]
      exact hmet

/-- Turning the result of an operation into another that shows the clock the same. -/
theorem map (h : Punctual v now pauses op) (f : ρ → σ)
    (hsame : ∀ r, u.overdue (f r) = v.overdue r ∧ u.now (f r) = v.now r ∧
      u.pauses (f r) = v.pauses r) :
    Punctual u now pauses (fun d => f (op d)) := by
  refine h.andThen (fun r _ => f r) ?_ ?_
  · intro hready
    obtain ⟨hoverdue, hnow, hpauses⟩ := hsame (op none)
    exact ready (fun _ => rfl) (hoverdue.trans hready) hnow hpauses
  · intro r _ hlate
    obtain ⟨hoverdue, hnow, hpauses⟩ := hsame r
    exact ⟨hoverdue.trans hlate, hnow, hpauses⟩

/-- An operation that takes no longer than a limit is not disturbed by it. -/
theorem of_time_le (h : Punctual v now pauses op) {limit : Nat}
    (hle : v.time now (op none) ≤ limit) :
    op (some (now + limit)) = op none ∧ v.overdue (op none) = false := by
  have hready : v.overdue (op none) = false := by
    cases hover : v.overdue (op none) with
    | true =>
      rw [Watch.time_of_overdue hover, top_le_iff] at hle
      exact absurd hle (ENat.natCast_ne_top limit)
    | false => rfl
  rw [Watch.time_of_ready hready, Nat.cast_le] at hle
  exact ⟨h.in_time (now + limit) hready (Nat.sub_le_iff_le_add'.mp hle), hready⟩

/-- An operation that takes longer than a limit is given up at the limit. -/
theorem of_lt_time (h : Punctual v now pauses op) {limit : Nat}
    (hlt : limit < v.time now (op none)) :
    v.overdue (op (some (now + limit))) = true ∧ v.now (op (some (now + limit))) = now + limit := by
  apply h.cut_off
  · exact Nat.le_add_right now limit
  · intro hready
    rw [Watch.time_of_ready hready, Nat.cast_lt] at hlt
    exact Nat.add_lt_of_lt_sub' hlt

/-- An operation that is given up ends with its deadline. -/
theorem now_of_overdue (h : Punctual v now pauses op) {d : Nat} (hnow : now ≤ d)
    (hover : v.overdue (op (some d)) = true) : v.now (op (some d)) = d := by
  refine (h.cut_off d hnow ?_).2
  intro hready
  apply Nat.lt_of_not_le
  intro hle
  rw [h.in_time d hready hle, hready] at hover
  cases hover

/-- An operation with a limit takes as long as it does without, and at most the limit. -/
theorem now_eq (h : Punctual v now pauses op) (limit : Nat) :
    (v.now (op (some (now + limit))) : ℕ∞) = now + min (v.time now (op none)) limit := by
  rcases le_or_gt (v.time now (op none)) limit with hle | hlt
  · obtain ⟨hsame, hready⟩ := h.of_time_le hle
    rw [min_eq_left hle, hsame, Watch.time_of_ready hready, ← Nat.cast_add,
      Nat.add_sub_of_le h.now_le]
  · rw [min_eq_right hlt.le, (h.of_lt_time hlt).2, Nat.cast_add]

end Punctual

namespace Pause

/-- A wait in front of other pauses, as the clock shows it. -/
def watch (later : List Pause) : Watch Wait where
  overdue
    | .ended _ => false
    | .cut _ _ => true
  now
    | .ended now | .cut _ now => now
  pauses
    | .ended _ => later
    | .cut remains _ => remains :: later

theorem punctual_wait (p : Pause) (now : Nat) (later : List Pause) :
    Punctual (watch later) now (p :: later) (fun d => p.wait d now) := by
  cases hleft : p.left now with
  | none =>
    have hhangs := wait_of_endless hleft none
    rw [Deadline.expiry_none] at hhangs
    refine ⟨?_, ?_, ?_, ?_⟩
    · rw [hhangs]
      exact Nat.le_refl now
    · intro d hready _
      rw [hhangs] at hready
      cases hready
    · intro d hnow _
      rw [wait_of_endless hleft (some d), Deadline.expiry_some, Nat.max_eq_right hnow]
      exact ⟨rfl, rfl⟩
    · rw [hhangs]
      refine ⟨[p], later, rfl, total_cons_of_endless hleft [], ?_, fun _ => rfl⟩
      intro hfinite
      exact absurd rfl hfinite
  | some millis =>
    have hends := wait_of_allows hleft (Deadline.allows_none _)
    refine ⟨?_, ?_, ?_, ?_⟩
    · rw [hends]
      exact Nat.le_add_right now millis
    · intro d _ hle
      rw [hends] at hle ⊢
      exact wait_of_allows hleft (decide_eq_true hle)
    · intro d hnow hlate
      rw [hends] at hlate
      obtain ⟨remains, hcut, -⟩ := wait_of_lt hleft hnow (hlate rfl)
      rw [hcut]
      exact ⟨rfl, rfl⟩
    · rw [hends, Watch.time_of_ready rfl]
      have htime : (watch later).now (.ended (now + millis)) - now = millis :=
        Nat.add_sub_cancel_left now millis
      rw [htime]
      refine ⟨[p], later, rfl, ?_, fun _ => rfl, ?_⟩
      · rw [total_cons_of_left hleft, total, add_zero]
      · intro htop
        exact absurd htop (ENat.natCast_ne_top millis)

/-- An operation that sits a pause out before anything else. -/
theorem punctual_behind {ρ : Type} {v : Watch ρ} {now : Nat} {later : List Pause} (p : Pause)
    (next : Nat → Deadline → ρ) (given : Pause → Nat → ρ)
    (hnext : ∀ moment, Punctual v moment later (next moment))
    (hgiven : ∀ remains moment, v.overdue (given remains moment) = true ∧
      v.now (given remains moment) = moment ∧ v.pauses (given remains moment) = remains :: later) :
    Punctual v now (p :: later) (fun d =>
      match p.wait d now with
      | .ended moment => next moment d
      | .cut remains moment => given remains moment) := by
  refine (p.punctual_wait now later).andThen (fun w d =>
    match w with
    | .ended moment => next moment d
    | .cut remains moment => given remains moment) ?_ ?_
  · intro hended
    cases hwait : p.wait none now with
    | ended moment => exact hnext moment
    | cut remains moment =>
      rw [hwait] at hended
      cases hended
  · intro w d hcut
    cases w with
    | ended moment => cases hcut
    | cut remains moment => exact hgiven remains moment

end Pause

end ModbusTcp
