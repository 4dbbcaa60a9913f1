import Mathlib.Data.Set.Function
import ModbusTcp.Frame.Reading
import ModbusTcp.Proofs.Wire.Plain

/-!
# Streams of requests

A request and its twelve bytes are the same thing: every request is read back from its bytes, and
every twelve bytes are those of a request. Its header is found in front of whatever follows. The
length that a read request is written with counts what is behind its header, so a read request is a
whole frame, and who collects frames from a stream of read requests gets them one by one, however
the stream is cut (`Wire.readFrames_frames`, `Request.encode_exact`).
-/

namespace ModbusTcp

namespace Wire

/-- Reads so many frames, one after the other. -/
def readFrames (w : Wire) (d : Deadline) :
    Nat → Logged (List (Awaited (Except Failure Bytes)) × Wire)
  | 0 => return ([], w)
  | n + 1 => do
    let (answer, w) ← w.readFrame d
    let (answers, w) ← w.readFrames d n
    return (answer :: answers, w)

theorem value_readFrames_succ (w : Wire) (d : Deadline) (n : Nat) :
    (w.readFrames d (n + 1)).value =
      ((w.collect d).1 :: ((w.collect d).2.readFrames d n).value.1,
        ((w.collect d).2.readFrames d n).value.2) := by
  rw [← value_readFrame]
  rfl

/-- As many frames as stand in front on a plain wire are read, and nothing behind them. -/
theorem readFrames_frames {w : Wire} (hplain : w.Plain) (d : Deadline) {frames : List Frame}
    {more : Bytes} (hunread : w.unread = (frames.map Frame.toBytes).flatten ++ more) :
    (w.readFrames d frames.length).value.1 = frames.map (fun f => .ready (.ok f.toBytes)) ∧
      (w.readFrames d frames.length).value.2.unread = more := by
  induction frames generalizing w with
  | nil => exact ⟨rfl, hunread⟩
  | cons f rest ih =>
    rw [List.map_cons, List.flatten_cons, List.append_assoc] at hunread
    obtain ⟨w', hcollect, hunread', hplain', -⟩ := collect_frame hplain d f hunread
    obtain ⟨hanswers, hmore⟩ := ih hplain' hunread'
    rw [List.length_cons, value_readFrames_succ, hcollect]
    exact ⟨congrArg _ hanswers, hmore⟩

/-- Chunks without anything between them are a plain stream. -/
theorem plain_of_chunks {w : Wire} {chunks : List Bytes} (h : w.reads = chunks.map .data) :
    w.Plain ∧ w.unread = chunks.flatten := by
  unfold Plain unread
  rw [h]
  clear h
  induction chunks with
  | nil => exact ⟨rfl, rfl⟩
  | cons chunk rest ih =>
    refine ⟨?_, ?_⟩
    · rw [List.map_cons, List.all_cons, ih.1]
      rfl
    · rw [List.map_cons, Arrival.bytes, ih.2, List.flatten_cons]

end Wire

namespace Request

/-! ## Requests and their bytes -/

/-- Every twelve bytes are those of a request. -/
theorem exists_toBytes_eq {bytes : Bytes} (h : bytes.length = Limits.readRequestFrameLength) :
    ∃ r : Request, r.toBytes = bytes := by
  match bytes, h with
  | [t₁, t₀, p₁, p₀, l₁, l₀, u, f, s₁, s₀, q₁, q₀], _ =>
    refine ⟨⟨Word.ofBytes t₁ t₀, Word.ofBytes p₁ p₀, Word.ofBytes l₁ l₀, u, f,
      Word.ofBytes s₁ s₀, Word.ofBytes q₁ q₀⟩, ?_⟩
    simp [toBytes, Word.toBytes]

theorem toBytes_injective : Function.Injective toBytes := by
  intro r other h
  have hread := ofBytes?_toBytes r
  rw [h, ofBytes?_toBytes] at hread
  exact (Option.some.inj hread).symm

/-- The header that a request is written with. -/
def header (r : Request) : Header := ⟨r.transaction, r.protocol, r.length, r.unit⟩

/-- The header of a request is found in its bytes, whatever follows them. -/
theorem ofFrame?_toBytes_append (r : Request) (trail : Bytes) :
    Header.ofFrame? (r.toBytes ++ trail) = some r.header := by
  simp [toBytes, Word.toBytes, Header.ofFrame?, header]

/-! ## Requests as frames -/

/-- The request is one that `read` makes. -/
def IsRead (r : Request) : Prop :=
  ∃ transaction unit function start quantity,
    r = read transaction unit function start quantity

/-- The length of a read counts what is behind its header. -/
theorem IsRead.exists_frame {r : Request} (h : r.IsRead) : ∃ f : Frame, f.toBytes = r.toBytes := by
  obtain ⟨transaction, unit, function, start, quantity, rfl⟩ := h
  have hfield : Header.lengthField (Word.toBytes transaction ++
      Word.toBytes Limits.modbusProtocol ++ Word.toBytes Limits.readRequestLength) = 6 := by
    have hlength := Header.lengthField_append
      (Word.toBytes transaction ++ Word.toBytes Limits.modbusProtocol) Limits.readRequestLength []
      rfl
    rwa [List.append_nil] at hlength
  exact @Frame.exists_toBytes_eq _ ([unit, function] ++ Word.toBytes start ++
    Word.toBytes quantity) rfl (by omega) (hfield ▸ by decide) hfield.symm

theorem exists_frames {requests : List Request} (h : ∀ r ∈ requests, r.IsRead) :
    ∃ frames : List Frame, frames.map Frame.toBytes = requests.map toBytes := by
  induction requests with
  | nil => exact ⟨[], rfl⟩
  | cons r rest ih =>
    obtain ⟨hr, hrest⟩ := List.forall_mem_cons.mp h
    obtain ⟨f, hf⟩ := hr.exists_frame
    obtain ⟨frames, hframes⟩ := ih hrest
    exact ⟨f :: frames, by rw [List.map_cons, List.map_cons, hf, hframes]⟩

/-- The read requests that stand in front on a plain wire are read as the frames that they are. -/
theorem readFrames_requests {w : Wire} (hplain : w.Plain) (d : Deadline)
    {requests : List Request} (h : ∀ r ∈ requests, r.IsRead) {more : Bytes}
    (hunread : w.unread = (requests.map toBytes).flatten ++ more) :
    (w.readFrames d requests.length).value.1 = requests.map (fun r => .ready (.ok r.toBytes)) ∧
      (w.readFrames d requests.length).value.2.unread = more := by
  obtain ⟨frames, hframes⟩ := exists_frames h
  have hlength : frames.length = requests.length := by
    rw [← List.length_map, hframes, List.length_map]
  have hanswers : frames.map (fun f => Awaited.ready (Except.ok (ε := Failure) f.toBytes)) =
      requests.map (fun r => .ready (.ok r.toBytes)) := by
    have hmapped := congrArg (List.map fun bytes => Awaited.ready (Except.ok (ε := Failure) bytes))
      hframes
    rwa [List.map_map, List.map_map] at hmapped
  rw [← hframes] at hunread
  rw [← hlength, ← hanswers]
  exact Wire.readFrames_frames hplain d hunread

/-- Writing is one to one between requests and twelve bytes, all seven fields of them. The header
is found again in front of anything, and it answers exactly the requests with the same transaction
and the same protocol. From a stream of read requests, cut anywhere, as many reads of a frame give
exactly the requests, and read nothing behind them. -/
theorem encode_exact :
    Set.BijOn (fun r : Request => r.encode.value) Set.univ {bytes | bytes.length = 12} ∧
    (∀ (r : Request) (trail : Bytes), ∃ header : Header,
      Header.ofFrame? (r.encode.value ++ trail) = some header ∧
        header.transaction = r.transaction ∧ header.protocol = r.protocol ∧
        header.length = r.length ∧ header.unit = r.unit ∧
        ∀ other : Request, header.answers other = true ↔
          other.transaction = r.transaction ∧ other.protocol = r.protocol) ∧
    ∀ (requests : List Request) (chunks : List Bytes) (more : Bytes) (w : Wire) (d : Deadline),
      (∀ r ∈ requests, r.IsRead) → w.reads = chunks.map .data →
      chunks.flatten = (requests.map fun r => r.encode.value).flatten ++ more →
      (w.readFrames d requests.length).value.1 =
          requests.map (fun r => .ready (.ok r.encode.value)) ∧
        (w.readFrames d requests.length).value.2.unread = more := by
  refine ⟨⟨?_, ?_, ?_⟩, ?_, ?_⟩
  · intro r _
    exact r.length_toBytes
  · exact toBytes_injective.injOn
  · intro bytes hbytes
    obtain ⟨r, hr⟩ := exists_toBytes_eq hbytes
    exact ⟨r, Set.mem_univ r, hr⟩
  · intro r trail
    refine ⟨r.header, r.ofFrame?_toBytes_append trail, rfl, rfl, rfl, rfl, ?_⟩
    intro other
    rw [Header.answers, Bool.and_eq_true, beq_iff_eq, beq_iff_eq]
    exact and_congr eq_comm eq_comm
  · intro requests chunks more w d hreads hchunks hflatten
    obtain ⟨hplain, hunread⟩ := Wire.plain_of_chunks hchunks
    exact readFrames_requests hplain d hreads (hunread.trans hflatten)

/-- Two reads in three chunks, cut inside the first header and inside the second body, with a byte
behind them. -/
theorem encode_exact_of_chunks :
    let first := read 1 17 3 107 3
    let second := read 65535 255 4 0 65535
    let w : Wire := { reads := [.data [0, 1, 0], .data [0, 0, 6, 17, 3, 0, 107, 0, 3, 255, 255],
      .data [0, 0, 0, 6, 255, 4, 0, 0, 255, 255, 9]] }
    (first.IsRead ∧ second.IsRead) ∧
      (w.readFrames none 2).value.1 =
        [.ready (.ok first.encode.value), .ready (.ok second.encode.value)] ∧
      (w.readFrames none 2).value.2.unread = [9] := by
  intro first second w
  have hfirst : first.IsRead := ⟨1, 17, 3, 107, 3, rfl⟩
  have hsecond : second.IsRead := ⟨65535, 255, 4, 0, 65535, rfl⟩
  obtain ⟨-, -, hstream⟩ := encode_exact
  refine ⟨⟨hfirst, hsecond⟩, ?_⟩
  refine hstream [first, second] [[0, 1, 0], [0, 0, 6, 17, 3, 0, 107, 0, 3, 255, 255],
    [0, 0, 0, 6, 255, 4, 0, 0, 255, 255, 9]] [9] w none ?_ rfl (by decide)
  simp [hfirst, hsecond]

end Request

end ModbusTcp
