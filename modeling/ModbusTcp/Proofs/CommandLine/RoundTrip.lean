import Mathlib.Data.List.TakeWhile
import ModbusTcp.CommandLine.Reader
import ModbusTcp.Proofs.CommandLine.Given

/-!
# The command line read back

A command line that writes given values is a list of pieces (`CommandLine.Written`): values by
place, options with their values in two spellings, and flags. The pieces may come in any order, with
each slot at most once and the places in their own order (`Given.Writes`). The reader takes one
piece after the other. Between two pieces it may still hold a value that it has not looked at, so
the invariant is about what comes of settling it: the slots written so far hold the given values,
and the others what holds by default (`CommandLine.Reached`). In the end all that is given is read,
and the order has left no trace (`CommandLine.read_written`).
-/

namespace ModbusTcp.CommandLine

/-! ## Lines -/

/-- A piece of a command line: a value by place, an option with its value behind it or behind an
equals sign, or a flag. -/
inductive Written where
  | place (slot : Slot) (text : String)
  | apart (slot : Slot) (text : String)
  | joined (slot : Slot) (text : String)
  | flag (slot : Slot)
  deriving DecidableEq, Repr

namespace Written

/-- The slot that the written value is for. -/
def slot : Written → Slot
  | .place slot _ | .apart slot _ | .joined slot _ | .flag slot => slot

/-- The slot of a value that stands by place. -/
def place? : Written → Option Slot
  | .place slot _ => some slot
  | .apart _ _ | .joined _ _ | .flag _ => none

/-- The arguments that the piece stands for. -/
def arguments : Written → List String
  | .place _ text => [text]
  | .apart slot text => [s!"--{slot.name}", text]
  | .joined slot text => [s!"--{slot.name}={text}"]
  | .flag slot => [s!"--{slot.name}"]

end Written

/-- The piece writes something that is given, in a way that is allowed for its slot. -/
def Given.Fits (g : Given) : Written → Prop
  | .place slot text => g.Says slot text
  | .apart slot text | .joined slot text => slot ∈ Slot.named ∧ g.Says slot text
  | .flag slot => slot.isFlag = true ∧ g.gives slot = true

/-- The pieces write what is given: all of it, nothing twice, and the places in order. -/
structure Given.Writes (g : Given) (line : List Written) : Prop where
  fits : ∀ w ∈ line, g.Fits w
  all : ∀ slot, g.gives slot = true → slot ∈ line.map Written.slot
  once : (line.map Written.slot).Nodup
  ordered : line.filterMap Written.place? <+: Slot.positionals

/-! ## Arguments -/

theorem bne_of_notMem {cs : List Char} (h : '=' ∉ cs) : ∀ c ∈ cs, (c != '=') = true := by
  intro c hc
  rw [bne_iff_ne]
  rintro rfl
  exact h hc

theorem splitValue_of_notMem {cs : List Char} (h : '=' ∉ cs) :
    Reader.splitValue cs = (String.ofList cs, none) := by
  rw [Reader.splitValue, List.takeWhile_eq_self_iff.mpr (bne_of_notMem h),
    List.dropWhile_eq_nil_iff.mpr (bne_of_notMem h)]

theorem splitValue_append {cs : List Char} (h : '=' ∉ cs) (value : List Char) :
    Reader.splitValue (cs ++ '=' :: value) = (String.ofList cs, some (String.ofList value)) := by
  rw [Reader.splitValue, List.takeWhile_append_of_pos (bne_of_notMem h),
    List.dropWhile_append_of_pos (bne_of_notMem h)]
  simp

theorem notMem_name (slot : Slot) : '=' ∉ slot.name.toList := by
  cases slot <;> decide

theorem name_ne_nil (slot : Slot) : slot.name.toList ≠ [] := by
  cases slot <;> decide

variable {g : Given} {r : Reader} {used places : List Slot} {slot : Slot} {text : String}

theorem take_plain (hliteral : r.literal = false) (hhead : text.toList.head? ≠ some '-') :
    r.take text = r.takePlain text := by
  unfold Reader.take
  rw [hliteral, if_neg Bool.false_ne_true]
  split
  all_goals simp_all

theorem take_long {cs : List Char} (hliteral : r.literal = false)
    (htext : text.toList = '-' :: '-' :: cs) (hne : cs ≠ []) :
    r.take text = r.takeLong (Reader.splitValue cs).1 (Reader.splitValue cs).2 := by
  unfold Reader.take
  rw [hliteral, if_neg Bool.false_ne_true, htext]
  cases cs with
  | nil => exact absurd rfl hne
  | cons c cs => rfl

/-- The name of an option is recognised, and it is no request for a text. -/
theorem takeLong_name (hslot : slot ∈ Slot.named) (value : Option String) :
    r.takeLong slot.name value = match value with
      | some value => r.takeNamed slot value
      | none => r.takeName slot := by
  have hname : Slot.ofName? slot.name = some slot ∧ slot.name ≠ "help" ∧ slot.name ≠ "version" := by
    cases slot with
    | host | port => exact absurd hslot (by decide)
    | _ => decide
  obtain ⟨hofName, hhelp, hversion⟩ := hname
  unfold Reader.takeLong
  rw [if_neg hhelp, if_neg hversion, hofName]
  cases value <;> rfl

theorem take_name (hliteral : r.literal = false) (hslot : slot ∈ Slot.named) :
    r.take s!"--{slot.name}" = r.takeName slot := by
  have htext : (s!"--{slot.name}").toList = '-' :: '-' :: slot.name.toList := by
    simp [toString]
  rw [take_long hliteral htext (name_ne_nil slot), splitValue_of_notMem (notMem_name slot),
    String.ofList_toList, takeLong_name hslot]

theorem take_named (hliteral : r.literal = false) (hslot : slot ∈ Slot.named) (text : String) :
    r.take s!"--{slot.name}={text}" = r.takeNamed slot text := by
  have htext : (s!"--{slot.name}={text}").toList =
      '-' :: '-' :: (slot.name.toList ++ '=' :: text.toList) := by
    simp [toString]
  rw [take_long hliteral htext (by simp), splitValue_append (notMem_name slot),
    String.ofList_toList, String.ofList_toList, takeLong_name hslot]

/-! ## One piece -/

/-- A reader that has filled these slots, waits for nothing, and has these places left. -/
def Given.reader (g : Given) (used places : List Slot) : Reader :=
  { arguments := g.upTo used, used := used, places := places }

/-- Settling a reader leads to the one that has filled these slots with what is given. -/
structure Reached (g : Given) (used places : List Slot) (r : Reader) : Prop where
  settled : r.settle = .ok (g.reader used places)
  places_eq : r.places = places
  literal : r.literal = false

theorem reached_fresh (g : Given) : Reached g [] Slot.positionals {} := ⟨rfl, rfl, rfl⟩

theorem reached_reader (g : Given) (used places : List Slot) :
    Reached g used places (g.reader used places) := ⟨rfl, rfl, rfl⟩

theorem fill_reader (hset : (g.upTo used).set slot text = .ok (g.upTo (slot :: used)))
    (hnew : slot ∉ used) :
    (g.reader used places).fill slot text = .ok (g.reader (slot :: used) places) := by
  have hfree : slot ∉ (g.reader used places).used := hnew
  have hset : (g.reader used places).arguments.set slot text = .ok (g.upTo (slot :: used)) := hset
  rw [Reader.fill, if_neg hfree, hset]
  rfl

/-- A value that waits for its slot will fill it. -/
theorem reached_pending (hvalue : g.Says slot text) (hnew : slot ∉ used) :
    Reached g (slot :: used) places
      { g.reader used places with pending := some (slot, some text) } :=
  ⟨fill_reader (Given.set_upTo hvalue used) hnew, rfl, rfl⟩

namespace Reached

/-- A reader that can be settled does not wait for a value. -/
theorem takePlain (h : Reached g used places r) (text : String) :
    r.takePlain text = r.takePlace text := by
  have hsettled := h.settled
  rcases hpending : r.pending with _ | ⟨slot, _ | value⟩
  · simp only [Reader.takePlain, hpending]
  · simp only [Reader.settle, hpending] at hsettled
    cases hsettled
  · simp only [Reader.takePlain, hpending]

theorem place (h : Reached g used (slot :: places) r) (hvalue : g.Says slot text)
    (hnew : slot ∉ used) :
    ∃ r', Reached g (slot :: used) places r' ∧ r.take text = .ok r' := by
  refine ⟨_, reached_pending hvalue hnew, ?_⟩
  rw [take_plain h.literal hvalue.head?_ne, h.takePlain, Reader.takePlace, h.places_eq]
  dsimp only
  rw [h.settled]
  rfl

theorem apart (h : Reached g used places r) (hslot : slot ∈ Slot.named)
    (hvalue : g.Says slot text) (hnew : slot ∉ used) :
    ∃ r₁ r', Reached g (slot :: used) places r' ∧ r.take s!"--{slot.name}" = .ok r₁ ∧
      r₁.take text = .ok r' := by
  -- the name settles what waits and then waits itself, until the next argument is its value
  refine ⟨{ g.reader used places with pending := some (slot, none) }, _,
    reached_pending hvalue hnew, ?_, ?_⟩
  · rw [take_name h.literal hslot, Reader.takeName, h.settled]
    simp only [hvalue.not_isFlag]
    rfl
  · rw [take_plain rfl hvalue.head?_ne]
    rfl

theorem joined (h : Reached g used places r) (hslot : slot ∈ Slot.named)
    (hvalue : g.Says slot text) (hnew : slot ∉ used) :
    ∃ r', Reached g (slot :: used) places r' ∧ r.take s!"--{slot.name}={text}" = .ok r' := by
  refine ⟨_, reached_reader g (slot :: used) places, ?_⟩
  rw [take_named h.literal hslot, Reader.takeNamed, hvalue.not_isFlag, if_neg Bool.false_ne_true,
    h.settled]
  exact fill_reader (Given.set_upTo hvalue used) hnew

theorem flag (h : Reached g used places r) (hflag : slot.isFlag = true)
    (hgives : g.gives slot = true) (hnew : slot ∉ used) :
    ∃ r', Reached g (slot :: used) places r' ∧ r.take s!"--{slot.name}" = .ok r' := by
  have hslot : slot ∈ Slot.named := by
    cases slot with
    | framed | packetLog => decide
    | _ => cases hflag
  refine ⟨_, reached_reader g (slot :: used) places, ?_⟩
  rw [take_name h.literal hslot, Reader.takeName, h.settled]
  simp only [hflag]
  exact fill_reader (Given.set_upTo_of_isFlag hflag hgives used "true") hnew

end Reached

/-! ## Whole lines -/

theorem takeAll_cons {r' : Reader} {argument : String} (h : r.take argument = .ok r')
    (rest : List String) : r.takeAll (argument :: rest) = r'.takeAll rest := by
  rw [Reader.takeAll, h]
  rfl

/-- The reader takes a piece that fits, fills its slot, and uses up a place if it stands by place.
-/
theorem Reached.step {w : Written} {behind : List Slot} (h : Reached g used places r)
    (hfits : g.Fits w) (hnew : w.slot ∉ used) (hplaces : w.place?.toList ++ behind <+: places) :
    ∃ places' r', Reached g (w.slot :: used) places' r' ∧ behind <+: places' ∧
      ∀ rest, r.takeAll (w.arguments ++ rest) = r'.takeAll rest := by
  cases w with
  | place slot text =>
    obtain ⟨places', rfl, hbehind⟩ := List.cons_prefix_iff.mp hplaces
    obtain ⟨r', hreached, htake⟩ := h.place hfits hnew
    exact ⟨places', r', hreached, hbehind, takeAll_cons htake⟩
  | apart slot text =>
    obtain ⟨r₁, r', hreached, hname, htext⟩ := h.apart hfits.1 hfits.2 hnew
    refine ⟨places, r', hreached, hplaces, fun rest => ?_⟩
    exact (takeAll_cons hname _).trans (takeAll_cons htext rest)
  | joined slot text =>
    obtain ⟨r', hreached, htake⟩ := h.joined hfits.1 hfits.2 hnew
    exact ⟨places, r', hreached, hplaces, takeAll_cons htake⟩
  | flag slot =>
    obtain ⟨r', hreached, htake⟩ := h.flag hfits.1 hfits.2 hnew
    exact ⟨places, r', hreached, hplaces, takeAll_cons htake⟩

/-- All the pieces are taken, and each fills its slot. -/
theorem Reached.run {line : List Written} (h : Reached g used places r)
    (hfits : ∀ w ∈ line, g.Fits w) (hnew : ∀ w ∈ line, w.slot ∉ used)
    (honce : (line.map Written.slot).Nodup) (hplaces : line.filterMap Written.place? <+: places) :
    ∃ places', r.takeAll (line.flatMap Written.arguments) =
      .ok (g.reader ((line.map Written.slot).reverse ++ used) places') := by
  -- settling is left to the end of the line, so the reader is not the settled one in between
  induction line generalizing used places r with
  | nil => exact ⟨places, h.settled⟩
  | cons w line ih =>
    obtain ⟨hw, hline⟩ := List.forall_mem_cons.mp hfits
    obtain ⟨hwnew, hlinenew⟩ := List.forall_mem_cons.mp hnew
    obtain ⟨hwonce, hlineonce⟩ := List.nodup_cons.mp honce
    have hbehind : w.place?.toList ++ line.filterMap Written.place? <+: places := by
      cases w <;> exact hplaces
    obtain ⟨places', r', hreached, hplaces', htake⟩ := h.step hw hwnew hbehind
    have hstillnew : ∀ v ∈ line, v.slot ∉ w.slot :: used := by
      intro v hv hmem
      rcases List.mem_cons.mp hmem with heq | hmem
      · exact hwonce (heq ▸ List.mem_map_of_mem hv)
      · exact hlinenew v hv hmem
    obtain ⟨places'', hrun⟩ := ih hreached hline hstillnew hlineonce hplaces'
    refine ⟨places'', ?_⟩
    rw [List.flatMap_cons, htake, hrun, List.map_cons, List.reverse_cons, List.append_assoc]
    rfl

theorem read_of_writes {line : List Written} (h : g.Writes line) :
    read (line.flatMap Written.arguments) = .ok g.arguments := by
  obtain ⟨places, hrun⟩ := (reached_fresh g).run h.fits (fun _ _ => List.not_mem_nil) h.once
    h.ordered
  have hall : ∀ slot, g.gives slot = true → slot ∈ (line.map Written.slot).reverse ++ [] := by
    intro slot hgives
    rw [List.append_nil, List.mem_reverse]
    exact h.all slot hgives
  rw [read, hrun, ← Given.upTo_eq hall]
  rfl

/-- Other orders of the pieces write the same, as long as the places keep theirs. -/
theorem Given.Writes.of_perm {line other : List Written} (h : g.Writes line)
    (hperm : other.Perm line)
    (hplaces : other.filterMap Written.place? = line.filterMap Written.place?) :
    g.Writes other where
  fits w hw := h.fits w (hperm.mem_iff.mp hw)
  all slot hgives := (hperm.map Written.slot).mem_iff.mpr (h.all slot hgives)
  once := (hperm.map Written.slot).nodup_iff.mpr h.once
  ordered := hplaces ▸ h.ordered

/-- Every command line that writes given values is accepted. Its plan has exactly these values in
their fields, the time limit to the nanosecond, and the values that hold by default in the others.
The same pieces in another order are read as the same arguments. -/
theorem read_written (g : Given) (line : List Written) (h : g.Writes line) :
    ∃ a, read (line.flatMap Written.arguments) = .ok a ∧ a.plan = g.plan ∧
      a.logLevel = g.logLevel.getD "warn" ∧
      (∀ millis ∈ g.timeoutMillis,
        a.plan.transport.timeout.toNanos = 1000000 * millis.toNat) ∧
      ∀ other : List Written, other.Perm line →
        other.filterMap Written.place? = line.filterMap Written.place? →
        read (other.flatMap Written.arguments) = .ok a := by
  refine ⟨g.arguments, read_of_writes h, g.plan_arguments, rfl, ?_, ?_⟩
  · intro millis hmillis
    have htimeout : g.plan.transport.timeout = .ofMillis millis := by
      have hgiven : g.timeoutMillis = some millis := hmillis
      rw [Given.plan, hgiven]
      rfl
    rw [g.plan_arguments, htimeout, Duration.toNanos_ofMillis]
  · intro other hperm hplaces
    exact read_of_writes (h.of_perm hperm hplaces)

/-- Options before, between and behind the places, in both spellings. -/
theorem read_written_interleaved :
    ∃ a, read ["--quantity=65535", "plc.local", "--function", "0XaB", "--framed",
        "--log-level= Debug", "1502", "--timeout-ms", "18446744073709551615"] = .ok a ∧
      a.plan.host = "plc.local" ∧ a.plan.port = 1502 ∧ a.plan.unit = 1 ∧
      a.plan.function = 0xAB ∧ a.plan.start = 0 ∧ a.plan.quantity = 65535 ∧
      a.plan.transport.maxResponseSize = 1024 ∧ a.plan.transport.receiveMode = .framed ∧
      a.logLevel = " Debug" := by
  let g : Given :=
    { host := some "plc.local", port := some 1502, function := some 0xAB, quantity := some 65535
      timeoutMillis := some 18446744073709551615, framed := true, logLevel := some " Debug"
      host_plain := by simp
      logLevel_accepted := by
        intro text htext
        cases htext
        exact ⟨.atLeast .debug, by decide⟩ }
  let line : List Written :=
    [.joined .quantity "65535", .place .host "plc.local", .apart .function "0XaB", .flag .framed,
      .joined .logLevel " Debug", .place .port "1502", .apart .timeoutMs "18446744073709551615"]
  have hdigits : List.Forall₂ Number.IsHexDigit ['a', 'B'] [10, 11] :=
    .cons ⟨by decide, .inr (by decide)⟩ (.cons ⟨by decide, .inl (by decide)⟩ .nil)
  have hfunction : WritesByte 0xAB "0XaB" := .hex (.inr rfl) (by simp) hdigits (by decide)
  have hquantity : g.Says .quantity "65535" := @Given.Says.quantity g 65535 rfl
  have hport : g.Says .port "1502" := @Given.Says.port g 1502 rfl
  have htimeout : g.Says .timeoutMs "18446744073709551615" :=
    @Given.Says.timeoutMs g 18446744073709551615 rfl
  have hfits : ∀ w ∈ line, g.Fits w := by
    simp only [line, List.forall_mem_cons]
    exact ⟨⟨by decide, hquantity⟩, .host rfl, ⟨by decide, .function rfl hfunction⟩,
      ⟨rfl, rfl⟩, ⟨by decide, .logLevel rfl⟩, hport, ⟨by decide, htimeout⟩, by simp⟩
  have hall : ∀ slot, g.gives slot = true → slot ∈ line.map Written.slot := by
    intro slot
    cases slot <;> decide
  obtain ⟨a, hread, hplan, hlevel, -⟩ := read_written g line ⟨hfits, hall, by decide, by decide⟩
  refine ⟨a, hread, ?_⟩
  rw [hplan, hlevel]
  exact ⟨rfl, rfl, rfl, rfl, rfl, rfl, rfl, rfl, rfl⟩

end ModbusTcp.CommandLine
