import Mathlib.Data.List.Basic
import ModbusTcp.Proofs.Probe.Probing
import ModbusTcp.Proofs.Transport.Provenance
import ModbusTcp.Proofs.Transport.Turn

/-!
# Time limits in failures

A failure that is about time gives the limit that ran out, in milliseconds: that of connecting, and
that of the settings for both phases of an exchange, whatever happened on the connection before. The
count has 64 bits and a limit may be longer, so what is given is the whole milliseconds of the limit
modulo 2^64. It is right for all limits below, among them every limit that is set as a 64-bit number
of milliseconds; from there on a longer limit is given as a shorter one.
-/

namespace ModbusTcp

namespace Duration

/-- The count of milliseconds is right if and only if it has room for them. -/
theorem toNat_millis_eq_iff (d : Duration) :
    d.millis.toNat = d.wholeMillis ↔ d.wholeMillis < UInt64.size := by
  rw [toNat_millis, Nat.mod_eq_iff_lt (by decide)]

theorem wholeMillis_mono {d d' : Duration} (h : d.toNanos ≤ d'.toNanos) :
    d.wholeMillis ≤ d'.wholeMillis := Nat.div_le_div_right h

/-- As long as there is room for the longer of two limits, it is not counted as the shorter one. -/
theorem millis_mono {d d' : Duration} (h : d.toNanos ≤ d'.toNanos)
    (hroom : d'.wholeMillis < UInt64.size) : d.millis ≤ d'.millis := by
  have hle := wholeMillis_mono h
  rw [UInt64.le_iff_toNat_le, d'.toNat_millis_eq_iff.mpr hroom,
    d.toNat_millis_eq_iff.mpr (Nat.lt_of_le_of_lt hle hroom)]
  exact hle

/-- The shortest limit that has too many milliseconds is counted as less than a shorter one. -/
theorem exists_millis_lt : ∃ d d' : Duration,
    d.toNanos ≤ d'.toNanos ∧ d'.toNanos = 1000000 * UInt64.size ∧ d'.millis < d.millis :=
  ⟨⟨18446744073709551, 615999999⟩, ⟨18446744073709551, 616000000⟩, by decide⟩

/-- Among the limits up to one, no longer limit is counted as less than a shorter one if and only if
there is room for that one. -/
theorem millis_mono_upTo_iff (limit : Duration) :
    (∀ d d' : Duration, d.toNanos ≤ d'.toNanos → d'.toNanos ≤ limit.toNanos →
      d.millis ≤ d'.millis) ↔ limit.wholeMillis < UInt64.size := by
  constructor
  · intro hmono
    apply Nat.lt_of_not_ge
    intro hlong
    obtain ⟨d, d', hle, hnanos, hlt⟩ := exists_millis_lt
    have hup : d'.toNanos ≤ limit.toNanos := by
      rw [hnanos]
      exact Nat.le_trans (Nat.mul_le_mul_left 1000000 hlong) (Nat.mul_div_le limit.toNanos 1000000)
    exact UInt64.not_lt.mpr (hmono d d' hle hup) hlt
  · intro hroom d d' hle hup
    exact millis_mono hle (Nat.lt_of_le_of_lt (wholeMillis_mono hup) hroom)

theorem millis_ofMillis (millis : UInt64) : (ofMillis millis).millis = millis := by
  have hwhole : (ofMillis millis).wholeMillis = millis.toNat := by
    rw [wholeMillis, toNanos_ofMillis, Nat.mul_div_cancel_left _ (by decide)]
  rw [Duration.millis, hwhole, UInt64.ofNat_toNat]

end Duration

/-! ## Connecting -/

namespace Connecting

variable {α : Type} {attempt : Connecting α} {address shown : String} {limit : Duration}
  {millis : UInt64}

/-- The attempt is not over within the limit, or the system gives it up for its own. -/
def RunsOut (attempt : Connecting α) (limit : Duration) : Prop :=
  attempt.result = none ∨ limit.ticks < attempt.delay ∨
    ∃ f, attempt.result = some (.error f) ∧ f.kind = .timedOut

theorem failure_eq_connectTimeout_iff {f : IoFault} :
    failure address limit f = .connectTimeout shown millis ↔
      f.kind = .timedOut ∧ shown = address ∧ millis = limit.millis := by
  unfold failure
  split
  · rename_i hrefused
    simp [hrefused]
  · rename_i htimedOut
    simp [htimedOut, eq_comm]
  · rename_i hnot
    exact iff_of_false (by simp) fun h => hnot h.1

/-- An attempt to connect fails for the time if and only if it runs out of it, and then it gives the
limit. -/
theorem within_eq_connectTimeout_iff :
    attempt.within address limit = .error (.connectTimeout shown millis) ↔
      attempt.RunsOut limit ∧ shown = address ∧ millis = limit.millis := by
  have hover : (.error (.connectTimeout address limit.millis) : Except Failure α) =
      .error (.connectTimeout shown millis) ↔ shown = address ∧ millis = limit.millis := by
    simp [eq_comm]
  unfold within RunsOut
  rcases hresult : attempt.result with _ | result
  · rw [hover]
    simp
  · dsimp only
    by_cases hin : attempt.delay ≤ limit.ticks
    · rw [if_pos hin]
      cases result with
      | error f =>
        have herror : (Except.error f : Except IoFault α).mapError (failure address limit) =
            .error (.connectTimeout shown millis) ↔
              failure address limit f = .connectTimeout shown millis := by simp [Except.mapError]
        rw [herror, failure_eq_connectTimeout_iff]
        simp [Nat.not_lt.mpr hin]
      | ok a => simp [Except.mapError, Nat.not_lt.mpr hin]
    · rw [if_neg hin, hover]
      simp [Nat.lt_of_not_ge hin]

end Connecting

/-! ## Exchanges -/

namespace Connection

theorem millis_of_exchange {c : Connection} {request : Bytes} {phase : Phase} {millis : UInt64}
    (h : (c.exchange request).value.1 = .error (.timeout phase millis)) :
    millis = c.settings.timeout.millis := by
  cases (c.exchanged request).cause h with
  | sendTimeout => rfl
  | receiveTimeout => rfl

/-- No step changes the time limit. -/
theorem timeout_turn (c : Connection) (s : Step) :
    (c.turn s).after.settings.timeout = c.settings.timeout := by
  obtain ⟨on, h⟩ := c.exists_settings_turn s
  rw [h]

theorem millis_of_turn {c : Connection} {s : Step} {phase : Phase} {millis : UInt64}
    (h : (c.turn s).answer = .reply (.error (.timeout phase millis))) :
    millis = c.settings.timeout.millis := by
  cases s with
  | exchange request =>
    rw [turn_exchange] at h
    exact millis_of_exchange (Answer.reply.inj h)
  | close | setPacketLogging | wait => cases h

/-- Every exchange of a session that times out gives the limit of the settings it began with. -/
theorem millis_of_run {c : Connection} {steps : List Step} {phase : Phase} {millis : UInt64}
    (h : .reply (.error (.timeout phase millis)) ∈ (c.run steps).value.1) :
    millis = c.settings.timeout.millis := by
  rw [answers_run, List.mem_map] at h
  obtain ⟨t, ht, hanswer⟩ := h
  have hall : ∀ t ∈ c.turns steps, ∀ phase millis,
      t.answer = .reply (.error (.timeout phase millis)) → millis = c.settings.timeout.millis :=
    forall_mem_turns (I := fun c' => c'.settings.timeout = c.settings.timeout)
      (fun c' s hc => (timeout_turn c' s).trans hc)
      (fun c' s hc phase millis ht => hc ▸ millis_of_turn ht) steps rfl
  exact hall t ht phase millis hanswer

end Connection

/-- Under any limit, a failure to connect in time and an exchange that times out give the whole
milliseconds of the limit modulo 2^64. That is the number of them if and only if it has 64 bits, as
it has for a limit that is set as a 64-bit number of milliseconds; and if and only if it has, no
limit up to this one is given as less than a shorter one. -/
theorem limits_reported (limit : Duration) :
    (∀ {α : Type} (attempt : Connecting α) (address shown : String) (millis : UInt64),
      attempt.within address limit = .error (.connectTimeout shown millis) ↔
        attempt.RunsOut limit ∧ shown = address ∧ millis = limit.millis) ∧
    (∀ (c : Connection) (steps : List Connection.Step) (phase : Phase) (millis : UInt64),
      c.settings.timeout = limit →
      .reply (.error (.timeout phase millis)) ∈ (c.run steps).value.1 → millis = limit.millis) ∧
    limit.millis.toNat = limit.wholeMillis % UInt64.size ∧
    (limit.millis.toNat = limit.wholeMillis ↔ limit.wholeMillis < UInt64.size) ∧
    (∀ millis : UInt64, limit = .ofMillis millis → limit.millis = millis) ∧
    ((∀ d d' : Duration, d.toNanos ≤ d'.toNanos → d'.toNanos ≤ limit.toNanos →
      d.millis ≤ d'.millis) ↔ limit.wholeMillis < UInt64.size) := by
  refine ⟨fun _ _ _ _ => Connecting.within_eq_connectTimeout_iff, ?_, limit.toNat_millis,
    limit.toNat_millis_eq_iff, ?_, limit.millis_mono_upTo_iff⟩
  · rintro c steps phase millis rfl h
    exact Connection.millis_of_run h
  · rintro millis rfl
    exact Duration.millis_ofMillis millis

/-- A limit of 2^64 milliseconds is given as none at all, and one that is shorter by a nanosecond as
the largest number there is: in connecting and in an exchange. -/
theorem limits_reported_of_long_limit :
    let shorter : Duration := ⟨18446744073709551, 615999999⟩
    let longer : Duration := ⟨18446744073709551, 616000000⟩
    let attempt : Connecting Unit := { result := some (.error (.ofKind .timedOut)) }
    let c := Connection.fresh [.pause .stall] [] none "peer" { timeout := longer }
    longer.toNanos = shorter.toNanos + 1 ∧ longer.wholeMillis = UInt64.size ∧
      attempt.within "peer" shorter =
        .error (.connectTimeout "peer" 18446744073709551615) ∧
      attempt.within "peer" longer = .error (.connectTimeout "peer" 0) ∧
      (c.exchange [0]).value.1 = .error (.timeout .receive 0) := by
  decide

end ModbusTcp
