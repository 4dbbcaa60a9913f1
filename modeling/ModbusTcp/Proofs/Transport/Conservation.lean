import ModbusTcp.Proofs.Transport.Turn

/-!
# The bytes of the peer

Whatever a stream brings and however a session goes, the bytes of the peer are cut into blocks, one
for each exchange, and a rest that is still to be read. A reply is its whole block. In single reads
a failure takes no block, so the replies and the rest are all there is; in frames a failure to
receive may take the beginning of a frame, and never more (`Connection.bytes_conserved`).
-/

namespace ModbusTcp

/-- The bytes that are gone after a failure to receive a frame. -/
def Frame.LostBy (f : Failure) (taken : Bytes) : Prop :=
  match f with
  | .invalidFrame _ => taken.length = Limits.headerLength
  | .timeout .receive _ | .connectionClosed | .io _ => Frame.Cut taken
  | _ => False

namespace Connection

/-! ## One exchange -/

theorem unread_receive_singleRead {c : Connection}
    (hmode : c.settings.receiveMode = .singleRead) :
    match c.receive.value.1 with
    | .ready (.ok reply) =>
      c.wire.unread = reply ++ c.received.wire.unread ∧
        reply.length ≤ c.settings.maxResponseSize
    | _ => c.wire.unread = c.received.wire.unread := by
  have hread := c.wire.unread_read c.settings.maxResponseSize c.deadline
  rw [wire_received, value_receive_singleRead hmode]
  rcases hanswer : (c.wire.read c.settings.maxResponseSize c.deadline).1 with (f | bs) | _ <;>
    rw [hanswer] at hread <;> exact hread

theorem receive_framed_collected {c : Connection} (hmode : c.settings.receiveMode = .framed) :
    ∃ taken, c.wire.unread = taken ++ c.received.wire.unread ∧
      Wire.Collected c.receive.value.1 taken := by
  rw [wire_received, value_receive_framed hmode]
  exact c.wire.collect_collected c.deadline

/-- In single reads an exchange takes what it answers with, and nothing if it fails. -/
theorem Exchanged.unread_singleRead {c : Connection} {request : Bytes}
    {r : Logged (Except Failure Bytes × Connection)} (h : Exchanged c request r)
    (hmode : c.settings.receiveMode = .singleRead) :
    match r.value.1 with
    | .ok reply =>
      c.wire.unread = reply ++ r.value.2.wire.unread ∧
        reply.length ≤ c.settings.maxResponseSize
    | .error _ => c.wire.unread = r.value.2.wire.unread := by
  have hreceived := unread_receive_singleRead (c := c.awaiting request) hmode
  cases h with
  | refused | notConnected | sendOverdue | sendFault => rfl
  | receiveOverdue hready htakes hanswer | receiveFault hready htakes hanswer
  | replied hready htakes hanswer =>
    rw [hanswer] at hreceived
    exact hreceived

/-- In frames an exchange takes what it answers with. If it fails before the request is taken it
takes nothing, and after that less than a frame. -/
theorem Exchanged.unread_framed {c : Connection} {request : Bytes}
    {r : Logged (Except Failure Bytes × Connection)} (h : Exchanged c request r)
    (hmode : c.settings.receiveMode = .framed) :
    ∃ taken, c.wire.unread = taken ++ r.value.2.wire.unread ∧
      match r.value.1 with
      | .ok reply => taken = reply
      | .error f =>
        (¬ (c.Ready ∧ c.Takes request) → taken = []) ∧
          (c.Ready ∧ c.Takes request → Frame.LostBy f taken) := by
  obtain ⟨taken, hunread, hcollected⟩ :=
    receive_framed_collected (c := c.awaiting request) hmode
  cases h with
  | refused hcheck =>
    refine ⟨[], rfl, fun _ => rfl, fun hsent => ?_⟩
    exact (hsent.1.not_refused hcheck).elim
  | notConnected hcheck hclosed =>
    refine ⟨[], rfl, fun _ => rfl, fun hsent => ?_⟩
    exact (hsent.1.not_closed hclosed).elim
  | sendOverdue hready hsend | sendFault hready hsend =>
    refine ⟨[], rfl, fun _ => rfl, fun hsent => ?_⟩
    exact absurd hsent.2 (not_takes_of_send hsend (by simp))
  | receiveOverdue hready htakes hanswer =>
    rw [hanswer] at hcollected
    cases hcollected with
    | overdue hcut => exact ⟨taken, hunread, fun h => absurd ⟨hready, htakes⟩ h, fun _ => hcut⟩
  | receiveFault hready htakes hanswer =>
    refine ⟨taken, hunread, fun h => absurd ⟨hready, htakes⟩ h, fun _ => ?_⟩
    rw [hanswer] at hcollected
    cases hcollected with
    | badLength hlen hbad => exact hlen
    | closed hcut => exact hcut
    | fault hcut hf => exact hcut
  | replied hready htakes hanswer =>
    rw [hanswer] at hcollected
    cases hcollected with
    | frame f => exact ⟨f.toBytes, hunread, rfl⟩

/-! ## One turn -/

/-- What a turn does with the bytes of the peer. -/
structure Turn.Conserves (t : Turn) : Prop where
  unread : t.before.wire.unread = t.consumed ++ t.after.wire.unread
  noExchange : t.request? = none → t.consumed = []
  reply : ∀ reply, t.reply? = some reply → t.consumed = reply
  singleRead : t.before.settings.receiveMode = .singleRead →
    (∀ f, t.failure? = some f → t.consumed = []) ∧
      ∀ reply, t.reply? = some reply → reply.length ≤ t.before.settings.maxResponseSize
  framed : t.before.settings.receiveMode = .framed → ∀ f, t.failure? = some f →
    (t.takenWhole = false → t.consumed = []) ∧
      (t.takenWhole = true → Frame.LostBy f t.consumed)

/-- A step that is no exchange takes nothing from the peer. -/
theorem conserves_of_request?_eq_none {c : Connection} {s : Step}
    (h : (c.turn s).request? = none) : (c.turn s).Conserves := by
  obtain ⟨-, hunread, -⟩ := turn_of_request?_eq_none h
  obtain ⟨hreply, hfailure⟩ := answer_of_request?_eq_none h
  have hconsumed : (c.turn s).consumed = [] := Turn.consumed_of_append hunread.symm
  refine ⟨by rw [hconsumed]; exact hunread.symm, fun _ => hconsumed, ?_, ?_, ?_⟩
  · simp [hreply]
  · simp [hreply, hfailure]
  · simp [hfailure]

theorem conserves_turn_singleRead {c : Connection} (request : Bytes)
    (hmode : c.settings.receiveMode = .singleRead) :
    (c.turn (.exchange request)).Conserves := by
  have h := (c.exchanged request).unread_singleRead hmode
  have hframed : c.settings.receiveMode ≠ .framed := by simp [hmode]
  rcases hanswer : (c.exchange request).value.1 with f | reply <;> rw [hanswer] at h
  · obtain ⟨hconsumed, hunread⟩ := consumed_turn_exchange
      (show c.wire.unread = [] ++ (c.exchange request).value.2.wire.unread from h)
    refine ⟨by rw [hconsumed]; exact hunread, fun _ => hconsumed, ?_, fun _ => ⟨?_, ?_⟩, ?_⟩
    · simp [reply?_turn_exchange, hanswer]
    · exact fun _ _ => hconsumed
    · simp [reply?_turn_exchange, hanswer]
    · exact fun hmode => absurd hmode hframed
  · obtain ⟨hconsumed, hunread⟩ := consumed_turn_exchange h.1
    refine ⟨by rw [hconsumed]; exact hunread, ?_, ?_, fun _ => ⟨?_, ?_⟩, ?_⟩
    · intro h
      cases h
    · simp [reply?_turn_exchange, hanswer, hconsumed]
    · simp [failure?_turn_exchange, hanswer]
    · simp only [reply?_turn_exchange, hanswer, Except.ok.injEq]
      rintro _ rfl
      exact h.2
    · exact fun hmode => absurd hmode hframed

theorem conserves_turn_framed {c : Connection} (request : Bytes)
    (hmode : c.settings.receiveMode = .framed) : (c.turn (.exchange request)).Conserves := by
  obtain ⟨taken, htaken, h⟩ := (c.exchanged request).unread_framed hmode
  have hsingle : c.settings.receiveMode ≠ .singleRead := by simp [hmode]
  obtain ⟨hconsumed, hunread⟩ := consumed_turn_exchange htaken
  refine ⟨by rw [hconsumed]; exact hunread, ?_, ?_, ?_, fun _ => ?_⟩
  · intro h
    cases h
  · intro reply hreply
    rw [reply?_turn_exchange] at hreply
    rw [hreply] at h
    rw [hconsumed]
    exact h
  · exact fun hmode => absurd hmode hsingle
  · intro f hf
    rw [failure?_turn_exchange] at hf
    rw [hf] at h
    rw [hconsumed, ← Bool.not_eq_true, takenWhole_turn_exchange]
    exact h

/-- Every turn conserves the bytes of the peer. -/
theorem conserves_turn (c : Connection) (s : Step) : (c.turn s).Conserves := by
  rcases hrequest : (c.turn s).request? with _ | request
  · exact conserves_of_request?_eq_none hrequest
  · obtain rfl := eq_exchange_of_request? hrequest
    cases hmode : c.settings.receiveMode with
    | singleRead => exact conserves_turn_singleRead request hmode
    | framed => exact conserves_turn_framed request hmode

/-- In single reads what a turn takes from the peer is its reply, if it has one. -/
theorem consumed_turn_eq_getD {c : Connection} (s : Step)
    (hmode : c.settings.receiveMode = .singleRead) :
    (c.turn s).consumed = (c.turn s).reply?.getD [] := by
  have h := c.conserves_turn s
  rcases hreply : (c.turn s).reply? with _ | reply
  · rcases hrequest : (c.turn s).request? with _ | request
    · exact h.noExchange hrequest
    · obtain rfl := eq_exchange_of_request? hrequest
      rcases hanswer : (c.exchange request).value.1 with f | reply
      · exact (h.singleRead hmode).1 f (failure?_turn_exchange.mpr hanswer)
      · rw [reply?_turn_exchange.mpr hanswer] at hreply
        cases hreply
  · exact h.reply reply hreply

/-! ## Whole sessions -/

/-- What stood to be read before a session is what its turns took, in their order, and what is left
to be read. -/
theorem unread_eq_flatten_consumed (c : Connection) (steps : List Step) :
    c.wire.unread =
      ((c.turns steps).map Turn.consumed).flatten ++ (c.run steps).value.2.wire.unread := by
  induction steps generalizing c with
  | nil => rfl
  | cons s rest ih =>
    rw [turns_cons, run_cons, List.map_cons, List.flatten_cons, List.append_assoc, ← ih]
    exact (c.conserves_turn s).unread

theorem flatten_consumed_singleRead {c : Connection} (steps : List Step)
    (hmode : c.settings.receiveMode = .singleRead) :
    ((c.turns steps).map Turn.consumed).flatten =
      ((c.turns steps).filterMap Turn.reply?).flatten := by
  induction steps generalizing c with
  | nil => rfl
  | cons s rest ih =>
    have hrest := ih (c := (c.turn s).after) (by rw [receiveMode_turn, hmode])
    have hconsumed := consumed_turn_eq_getD s hmode
    rw [turns_cons, List.map_cons, List.flatten_cons, hrest, hconsumed]
    rcases hreply : (c.turn s).reply? with _ | reply
    · rw [List.filterMap_cons_none hreply]
      rfl
    · rw [List.filterMap_cons_some hreply, List.flatten_cons]
      rfl

/-- No byte of the peer is duplicated, reordered or silently dropped: in every session, whatever
the stream does, the bytes of the peer are what the turns took, in their order, and what is left to
be read; a reply is all that its turn took, and what a failure took is told by the failure. In
single reads the replies and the rest are all there is. -/
theorem bytes_conserved (c : Connection) (steps : List Step) :
    c.wire.unread =
        ((c.turns steps).map Turn.consumed).flatten ++ (c.run steps).value.2.wire.unread ∧
      (∀ t ∈ c.turns steps, t.Conserves) ∧
      (c.settings.receiveMode = .singleRead →
        c.wire.unread =
          ((c.turns steps).filterMap Turn.reply?).flatten ++
            (c.run steps).value.2.wire.unread) := by
  have hconsumed := c.unread_eq_flatten_consumed steps
  refine ⟨hconsumed, ?_, fun hmode => ?_⟩
  · exact forall_mem_turns (I := fun _ => True) (fun _ _ _ => trivial)
      (fun c s _ => c.conserves_turn s) steps trivial
  · rw [← flatten_consumed_singleRead steps hmode]
    exact hconsumed

end Connection

end ModbusTcp
