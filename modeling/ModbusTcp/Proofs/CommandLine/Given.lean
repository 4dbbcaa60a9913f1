import ModbusTcp.CommandLine.Arguments
import ModbusTcp.Proofs.CommandLine.ByteText
import ModbusTcp.Proofs.Log.Filter
import ModbusTcp.Proofs.Text.Digits

/-!
# Given values

A command line gives a value or a flag for some of its slots (`CommandLine.Given`), and writes each
value in one of the ways that are allowed for its slot (`Given.Says`). Such a text is accepted for
the slot, and the value that is read from it is the given one (`Given.set_upTo`); none of these
texts can be taken for the name of an option (`Given.Says.head?_ne`).
-/

namespace ModbusTcp

/-- A text that begins with a dash names no filter. -/
theorem LogFilter.head?_ne_of_ofText {text : String} {filter : LogFilter}
    (h : ofText text = .ok filter) : text.toList.head? ≠ some '-' := by
  intro hdash
  exact absurd (blank_or_letter_of_ofText h '-' (List.mem_of_head? hdash)) (by decide)

namespace CommandLine

/-! ## Texts of numbers -/

theorem readUpTo_repr {n last : Nat} (h : n ≤ last) (hlast : last ≤ 9223372036854775807) :
    readUpTo last n.repr = .ok n := by
  have hrange : (0 : Int) ≤ n ∧ (n : Int) ≤ last := by omega
  simp only [readUpTo, Number.readSigned_repr (h.trans hlast), hrange, and_self, if_true,
    Int.toNat_natCast]

theorem readCount_repr {n : Nat} (h : n ≤ 18446744073709551615) : readCount n.repr = .ok n := by
  rw [readCount, Number.readUnsigned_repr h]
  rfl

/-- The texts that write a byte: its decimal form, or hexadecimal digits in either case behind `0x`
or `0X`. -/
inductive WritesByte (b : UInt8) : String → Prop
  | decimal : WritesByte b b.toNat.repr
  | hex {mark : Char} {cs : List Char} {ds : List Nat} (hmark : mark = 'x' ∨ mark = 'X')
      (hne : cs ≠ []) (hcs : List.Forall₂ Number.IsHexDigit cs ds)
      (hvalue : Nat.ofDigits 16 ds.reverse = b.toNat) :
      WritesByte b (String.ofList ('0' :: mark :: cs))

theorem head?_repr_ne (n : Nat) : n.repr.toList.head? ≠ some '-' := by
  intro hdash
  exact ((Number.digits_repr n).not_sign '-' (List.mem_of_head? hdash)).2 rfl

theorem WritesByte.head?_ne {b : UInt8} {text : String} (h : WritesByte b text) :
    text.toList.head? ≠ some '-' := by
  cases h with
  | decimal => exact head?_repr_ne _
  | hex => simp

theorem WritesByte.spells {b : UInt8} {text : String} (h : WritesByte b text) :
    Spells text.toList b.toNat := by
  cases h with
  | decimal => exact .decimal (Number.written_repr b.toNat).numeral
  | @hex mark cs ds hmark hne hcs hvalue =>
    have hwritten : Number.Written 16 cs b.toNat := ⟨hne, ds, hcs.imp fun _ _ h => ⟨h.1, h⟩, hvalue⟩
    rw [String.toList_ofList]
    exact .hex hmark hwritten.numeral

theorem readByte_of_writes {b : UInt8} {text : String} (h : WritesByte b text) :
    readByte text = .ok b := readByte_of_spells h.spells

/-! ## What is given -/

/-- The values and flags that a command line gives. What it leaves out holds by default. -/
structure Given where
  host : Option String := none
  port : Option UInt16 := none
  unit : Option UInt8 := none
  function : Option UInt8 := none
  start : Option UInt16 := none
  quantity : Option UInt16 := none
  timeoutMillis : Option UInt64 := none
  bufferSize : Option UInt64 := none
  framed : Bool := false
  packetLog : Bool := false
  logLevel : Option String := none
  /-- a host does not begin as an option does -/
  host_plain : ∀ text ∈ host, text.toList.head? ≠ some '-' := by simp
  logLevel_accepted : ∀ text ∈ logLevel, ∃ filter, LogFilter.ofText text = .ok filter := by simp

namespace Given

/-- The plan that is meant. -/
def plan (g : Given) : Plan where
  host := g.host.getD ({} : Plan).host
  port := g.port.getD ({} : Plan).port
  unit := g.unit.getD ({} : Plan).unit
  function := g.function.getD ({} : Plan).function
  start := g.start.getD ({} : Plan).start
  quantity := g.quantity.getD ({} : Plan).quantity
  transport :=
    { timeout := g.timeoutMillis.elim ({} : TransportSettings).timeout Duration.ofMillis
      maxResponseSize := g.bufferSize.elim ({} : TransportSettings).maxResponseSize UInt64.toNat
      receiveMode := if g.framed then .framed else .singleRead
      packetLogging := g.packetLog }

/-- Something is given for the slot. -/
def gives (g : Given) : Slot → Bool
  | .host => g.host.isSome
  | .port => g.port.isSome
  | .unitId => g.unit.isSome
  | .function => g.function.isSome
  | .start => g.start.isSome
  | .quantity => g.quantity.isSome
  | .timeoutMs => g.timeoutMillis.isSome
  | .bufferSize => g.bufferSize.isSome
  | .framed => g.framed
  | .packetLog => g.packetLog
  | .logLevel => g.logLevel.isSome

/-- The text writes the value that is given for the slot. -/
inductive Says (g : Given) : Slot → String → Prop
  | host {text : String} (h : g.host = some text) : Says g .host text
  | port {n : UInt16} (h : g.port = some n) : Says g .port n.toNat.repr
  | unitId {n : UInt8} (h : g.unit = some n) : Says g .unitId n.toNat.repr
  | function {b : UInt8} {text : String} (h : g.function = some b) (htext : WritesByte b text) :
      Says g .function text
  | start {n : UInt16} (h : g.start = some n) : Says g .start n.toNat.repr
  | quantity {n : UInt16} (h : g.quantity = some n) : Says g .quantity n.toNat.repr
  | timeoutMs {n : UInt64} (h : g.timeoutMillis = some n) : Says g .timeoutMs n.toNat.repr
  | bufferSize {n : UInt64} (h : g.bufferSize = some n) : Says g .bufferSize n.toNat.repr
  | logLevel {text : String} (h : g.logLevel = some text) : Says g .logLevel text

variable {g : Given} {slot : Slot} {text : String} {used : List Slot}

theorem Says.not_isFlag (h : g.Says slot text) : slot.isFlag = false := by
  cases h <;> rfl

/-- No value looks like the name of an option. -/
theorem Says.head?_ne (h : g.Says slot text) : text.toList.head? ≠ some '-' := by
  cases h with
  | host hgiven => exact g.host_plain text hgiven
  | logLevel hgiven =>
    obtain ⟨filter, hfilter⟩ := g.logLevel_accepted text hgiven
    exact LogFilter.head?_ne_of_ofText hfilter
  | function hgiven htext => exact htext.head?_ne
  | port | unitId | start | quantity | timeoutMs | bufferSize =>
    exact head?_repr_ne _

/-! ## Filling the slots -/

/-- What holds of a value for a slot: the given one, once the slot is filled. -/
def kept {α : Type} (used : List Slot) (slot : Slot) (given : Option α) (default : α) : α :=
  if slot ∈ used then given.getD default else default

/-- The arguments once these slots are filled. -/
def upTo (g : Given) (used : List Slot) : Arguments where
  host := kept used .host g.host ({} : Arguments).host
  port := kept used .port g.port ({} : Arguments).port
  unit := kept used .unitId g.unit ({} : Arguments).unit
  function := kept used .function g.function ({} : Arguments).function
  start := kept used .start g.start ({} : Arguments).start
  quantity := kept used .quantity g.quantity ({} : Arguments).quantity
  timeoutMillis := kept used .timeoutMs g.timeoutMillis ({} : Arguments).timeoutMillis
  bufferSize := kept used .bufferSize (g.bufferSize.map UInt64.toNat) ({} : Arguments).bufferSize
  framed := decide (.framed ∈ used) && g.framed
  packetLog := decide (.packetLog ∈ used) && g.packetLog
  logLevel := kept used .logLevel g.logLevel ({} : Arguments).logLevel

/-- A text that says a value puts that value into its slot. -/
theorem set_upTo (h : g.Says slot text) (used : List Slot) :
    (g.upTo used).set slot text = .ok (g.upTo (slot :: used)) := by
  cases h with
  | host hgiven | logLevel hgiven => simp [Arguments.set, upTo, kept, hgiven]
  | @port n hgiven | @unitId n hgiven | @start n hgiven | @quantity n hgiven =>
    rw [Arguments.set, readUpTo_repr (Nat.le_of_lt_succ n.toNat_lt) (by omega)]
    simp [Except.map, upTo, kept, hgiven]
  | function hgiven htext =>
    rw [Arguments.set, readByte_of_writes htext]
    simp [Except.map, upTo, kept, hgiven]
  | @timeoutMs n hgiven | @bufferSize n hgiven =>
    rw [Arguments.set, readCount_repr (Nat.le_of_lt_succ n.toNat_lt)]
    simp [Except.map, upTo, kept, hgiven]

theorem set_upTo_of_isFlag (hflag : slot.isFlag = true) (hgives : g.gives slot = true)
    (used : List Slot) (text : String) :
    (g.upTo used).set slot text = .ok (g.upTo (slot :: used)) := by
  cases slot with
  | framed =>
    have hframed : g.framed = true := hgives
    simp [Arguments.set, upTo, kept, hframed]
  | packetLog =>
    have hpacketLog : g.packetLog = true := hgives
    simp [Arguments.set, upTo, kept, hpacketLog]
  | _ => cases hflag

theorem kept_of_gives {α : Type} {given : Option α} (default : α)
    (h : given.isSome = true → slot ∈ used) :
    kept used slot given default = given.getD default := by
  cases given with
  | none => simp [kept]
  | some value => simp [kept, h rfl]

theorem flag_of_gives {flag : Bool} (h : flag = true → slot ∈ used) :
    (decide (slot ∈ used) && flag) = flag := by
  cases flag with
  | false => simp
  | true => simp [h rfl]

/-- The arguments with all that is given. -/
def arguments (g : Given) : Arguments where
  host := g.host.getD ({} : Arguments).host
  port := g.port.getD ({} : Arguments).port
  unit := g.unit.getD ({} : Arguments).unit
  function := g.function.getD ({} : Arguments).function
  start := g.start.getD ({} : Arguments).start
  quantity := g.quantity.getD ({} : Arguments).quantity
  timeoutMillis := g.timeoutMillis.getD ({} : Arguments).timeoutMillis
  bufferSize := (g.bufferSize.map UInt64.toNat).getD ({} : Arguments).bufferSize
  framed := g.framed
  packetLog := g.packetLog
  logLevel := g.logLevel.getD ({} : Arguments).logLevel

theorem plan_arguments (g : Given) : g.arguments.plan = g.plan := by
  have htransport : g.arguments.transport = g.plan.transport := by
    unfold Arguments.transport plan arguments
    cases g.timeoutMillis <;> cases g.bufferSize <;> rfl
  unfold Arguments.plan
  rw [htransport]
  rfl

/-- Once all that is given is filled in, nothing is missing. -/
theorem upTo_eq (hall : ∀ slot, g.gives slot = true → slot ∈ used) :
    g.upTo used = g.arguments := by
  have hbufferSize : (g.bufferSize.map UInt64.toNat).isSome = true → .bufferSize ∈ used := by
    rw [Option.isSome_map]
    exact hall .bufferSize
  have hframed : (decide (.framed ∈ used) && g.framed) = g.framed := flag_of_gives (hall .framed)
  have hpacketLog : (decide (.packetLog ∈ used) && g.packetLog) = g.packetLog :=
    flag_of_gives (hall .packetLog)
  unfold upTo arguments
  rw [kept_of_gives _ (hall .host), kept_of_gives _ (hall .port), kept_of_gives _ (hall .unitId),
    kept_of_gives _ (hall .function), kept_of_gives _ (hall .start),
    kept_of_gives _ (hall .quantity), kept_of_gives _ (hall .timeoutMs),
    kept_of_gives _ hbufferSize, kept_of_gives _ (hall .logLevel), hframed, hpacketLog]

end Given

end CommandLine

end ModbusTcp
