import ModbusTcp.Frame.Layout
import ModbusTcp.Wire.Basic

/-!
# What receiving takes from a stream

Collecting a frame takes bytes from the front of the stream and nothing else of the wire
(`Wire.collect_collected`, `Wire.exists_collect`). `Wire.Collected` lists its ends, each with the
bytes that are gone: a whole frame, a header that cannot be used, or a piece of a frame. A single
read takes what it answers with and, if it fails, nothing (`Wire.unread_read`).
-/

namespace ModbusTcp.Wire

/-- The ends of collecting a frame, each with the bytes taken from the stream. -/
inductive Collected : Awaited (Except Failure Bytes) → Bytes → Prop
  /-- a whole frame -/
  | frame (f : Frame) : Collected (.ready (.ok f.toBytes)) f.toBytes
  /-- a header whose length field is zero or too large -/
  | badLength {head : Bytes} (hlen : head.length = Limits.headerLength)
      (hbad : Header.lengthField head = 0 ∨ Limits.maxMbapLength < Header.lengthField head) :
      Collected (.ready (.error (.invalidFrame (.length (Header.lengthField head))))) head
  /-- the stream ended inside a frame -/
  | closed {taken : Bytes} (hcut : Frame.Cut taken) :
      Collected (.ready (.error .connectionClosed)) taken
  /-- the stream failed inside a frame -/
  | fault {taken : Bytes} {f : IoFault} (hcut : Frame.Cut taken) (hf : f.kind ≠ .unexpectedEof) :
      Collected (.ready (.error (.io f))) taken
  /-- the deadline passed inside a frame -/
  | overdue {taken : Bytes} (hcut : Frame.Cut taken) : Collected .overdue taken

/-- A failed exact read inside a frame ends the collecting of it. -/
theorem Collected.of_fault {taken : Bytes} (f : IoFault) (hcut : Frame.Cut taken) :
    Collected (.ready (.error (frameFailure f))) taken := by
  unfold frameFailure
  split
  · exact .closed hcut
  · rename_i hf
    exact .fault hcut hf

/-- An exact read takes what it answers with, or fewer bytes than it wanted. -/
theorem unread_readExact (w : Wire) (want : Nat) (d : Deadline) :
    ∃ taken, w.unread = taken ++ (w.readExact want d).2.unread ∧
      (∀ bs, (w.readExact want d).1 = .ready (.ok bs) → bs = taken ∧ taken.length = want) ∧
      ((∀ bs, (w.readExact want d).1 ≠ .ready (.ok bs)) → taken.length < want) :=
  Arrival.bytes_readExact d w.now want [] w.reads

/-- Reading the body of a frame behind a header, seen as collecting the frame. -/
theorem readBody_collected (w : Wire) {head : Bytes} (d : Deadline)
    (hhead : head.length = Limits.headerLength) :
    ∃ body, w.unread = body ++ (w.readBody head d).2.unread ∧
      Collected (w.readBody head d).1 (head ++ body) := by
  unfold readBody
  by_cases hbad : Header.lengthField head = 0 ∨ Limits.maxMbapLength < Header.lengthField head
  · refine ⟨[], ?_, ?_⟩
    · simp [hbad]
    · simpa [hbad] using Collected.badLength hhead hbad
  · simp only [hbad, if_false]
    obtain ⟨hpos, hle⟩ := not_or.mp hbad
    obtain ⟨body, htaken, hok, hshort⟩ := w.unread_readExact (Header.lengthField head) d
    refine ⟨body, htaken, ?_⟩
    -- until the body is complete, what was taken is a header and less than it asks for
    have hcut (h : body.length < Header.lengthField head) : Frame.Cut (head ++ body) := by
      refine .inr ?_
      rw [Header.lengthField_append_right body hhead, List.length_append]
      omega
    rcases hanswer : (w.readExact (Header.lengthField head) d).1 with (f | bs) | _
    · exact .of_fault f (hcut (hshort (by simp [hanswer])))
    · obtain ⟨rfl, hlen⟩ := hok bs hanswer
      obtain ⟨f, hf⟩ := Frame.exists_toBytes_eq hhead (by omega) (by omega) hlen
      show Collected (.ready (.ok (head ++ bs))) (head ++ bs)
      rw [← hf]
      exact .frame f
    · exact .overdue (hcut (hshort (by simp [hanswer])))

/-- Collecting a frame takes bytes from the front of the stream, and how it ends tells what they
are. -/
theorem collect_collected (w : Wire) (d : Deadline) :
    ∃ taken, w.unread = taken ++ (w.collect d).2.unread ∧ Collected (w.collect d).1 taken := by
  obtain ⟨head, htaken, hok, hshort⟩ := w.unread_readExact Limits.headerLength d
  unfold collect
  rcases hread : w.readExact Limits.headerLength d with ⟨(f | bs) | _, w'⟩
  · rw [hread] at htaken hshort
    exact ⟨head, htaken, .of_fault f (.inl (hshort (by simp)))⟩
  · rw [hread] at htaken hok
    obtain ⟨rfl, hlen⟩ := hok bs rfl
    obtain ⟨body, hbody, hcollected⟩ := w'.readBody_collected d hlen
    refine ⟨bs ++ body, ?_, hcollected⟩
    rw [htaken, List.append_assoc]
    exact congrArg (bs ++ ·) hbody
  · rw [hread] at htaken hshort
    exact ⟨head, htaken, .overdue (.inl (hshort (by simp)))⟩

/-- Collecting a frame changes nothing of a wire but what there is to read and the time. -/
theorem exists_collect (w : Wire) (d : Deadline) :
    ∃ reads now, (w.collect d).2 = { w with reads := reads, now := now } := by
  unfold collect
  rcases hread : w.readExact Limits.headerLength d with ⟨answer, w'⟩
  obtain rfl : (w.readExact Limits.headerLength d).2 = w' := by rw [hread]
  rcases answer with (f | bs) | _
  · exact ⟨_, _, rfl⟩
  · simp only [readBody]
    split <;> exact ⟨_, _, rfl⟩
  · exact ⟨_, _, rfl⟩

/-- A single read takes what it answers with, and nothing if it fails or is given up. -/
theorem unread_read (w : Wire) (most : Nat) (d : Deadline) :
    match (w.read most d).1 with
    | .ready (.ok bs) => w.unread = bs ++ (w.read most d).2.unread ∧ bs.length ≤ most
    | _ => w.unread = (w.read most d).2.unread := by
  have htaken := Arrival.bytes_read most d w.now w.reads
  change match (Arrival.read most d w.now w.reads).answer with
    | .ready (.ok bs) => w.unread = bs ++ (w.read most d).2.unread ∧ bs.length ≤ most
    | _ => w.unread = (w.read most d).2.unread
  rcases hanswer : (Arrival.read most d w.now w.reads).answer with (f | bs) | _ <;>
    rw [hanswer] at htaken
  · exact htaken
  · exact ⟨htaken, Arrival.length_le_of_read hanswer⟩
  · exact htaken

@[simp]
theorem value_readOnce (w : Wire) (most : Nat) (d : Deadline) :
    (w.readOnce most d).value =
      ((w.read most d).1.map (·.mapError .io), (w.read most d).2) := by
  unfold readOnce
  rcases w.read most d with ⟨(f | bs) | _, w'⟩ <;> rfl

@[simp]
theorem value_readFrame (w : Wire) (d : Deadline) : (w.readFrame d).value = w.collect d := by
  unfold readFrame
  rcases w.collect d with ⟨(f | bs) | _, w'⟩ <;> rfl

theorem level_of_mem_readOnce {w : Wire} {most : Nat} {d : Deadline} {e : LogEvent}
    (h : e ∈ (w.readOnce most d).events) : e.level = .debug := by
  unfold readOnce at h
  rcases hread : w.read most d with ⟨(f | bs) | _, w'⟩ <;> rw [hread] at h
  · cases h
  · rw [List.mem_singleton.mp h]
    rfl
  · cases h

theorem level_of_mem_readFrame {w : Wire} {d : Deadline} {e : LogEvent}
    (h : e ∈ (w.readFrame d).events) : e.level = .debug := by
  unfold readFrame at h
  rcases hcollect : w.collect d with ⟨(f | bs) | _, w'⟩ <;> rw [hcollect] at h
  · cases h
  · rw [List.mem_singleton.mp h]
    rfl
  · cases h

end ModbusTcp.Wire
