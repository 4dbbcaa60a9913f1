import Mathlib.Data.List.DropRight
import ModbusTcp.Proofs.Text.Digits
import ModbusTcp.Transport.Basic

/-!
# Addresses read back

A port is written in digits, so the last colon in the text of an endpoint is the one in front of
its port, whatever colons the host has (`Address.text_eq_append_iff`). In front of it stands the
host; it has brackets around it if it has colons in it, and without them it has none. So the
endpoint can be read back from its text (`Address.ofText?_text`). Only a host that comes with
brackets shares its text with another one, the host inside the brackets.
-/

namespace ModbusTcp.Address

/-- The host begins with a bracket. -/
def Bracketed (host : String) : Prop := host.toList.head? = some '['

/-- By comparing the first character. -/
instance (host : String) : Decidable (Bracketed host) := inferInstanceAs (Decidable (_ = _))

/-- The characters without the brackets around them, if there are any. -/
def unbracket : List Char → List Char
  | '[' :: rest => rest.dropLast
  | cs => cs

/-- The endpoint of a text: the port stands behind the last colon, and the host in front of it. -/
def ofText? (text : String) : Option (String × UInt16) :=
  match Number.readUnsigned 10 65535 (text.toList.rtakeWhile (· != ':')) with
  | .ok port =>
    some (String.ofList (unbracket (text.toList.rdropWhile (· != ':')).dropLast),
      UInt16.ofNat port)
  | .error _ => none

variable {host : String} {port : UInt16}

/-! ## The last colon -/

theorem colon_notMem_repr (n : Nat) : ':' ∉ n.repr.toList := by
  intro h
  have hdigit := (Number.digits_repr n).isSome_of_mem ':' h
  revert hdigit
  decide

theorem rtakeWhile_append_colon {after : List Char} (h : ':' ∉ after) (before : List Char) :
    (before ++ ':' :: after).rtakeWhile (· != ':') = after := by
  have hall : ∀ c ∈ after.reverse, (c != ':') = true := by
    intro c hc
    rw [bne_iff_ne]
    rintro rfl
    exact h (List.mem_reverse.mp hc)
  rw [List.rtakeWhile, List.reverse_append, List.reverse_cons, List.append_assoc,
    List.takeWhile_append_of_pos hall]
  simp

/-- A text is cut at its last colon in one way. -/
theorem append_colon_inj {before before' after after' : List Char} (h : ':' ∉ after)
    (h' : ':' ∉ after') :
    before ++ ':' :: after = before' ++ ':' :: after' ↔ before = before' ∧ after = after' := by
  constructor
  · intro heq
    have hafter : after = after' := by
      rw [← rtakeWhile_append_colon h before, heq, rtakeWhile_append_colon h']
    subst hafter
    exact ⟨List.append_cancel_right heq, rfl⟩
  · rintro ⟨rfl, rfl⟩
    rfl

theorem rdropWhile_append_colon {after : List Char} (h : ':' ∉ after) (before : List Char) :
    (before ++ ':' :: after).rdropWhile (· != ':') = before ++ [':'] := by
  have hsplit :=
    List.rdropWhile_append_rtakeWhile (p := (· != ':')) (l := before ++ ':' :: after)
  rw [rtakeWhile_append_colon h] at hsplit
  have hcolon : before ++ ':' :: after = before ++ [':'] ++ after := by simp
  exact List.append_cancel_right (hsplit.trans hcolon)

/-! ## The two parts of a text -/

theorem hostPart_eq (host : String) :
    hostPart host =
      if ':' ∈ host.toList ∧ ¬ Bracketed host then "[" ++ host ++ "]" else host := by
  simp only [hostPart, Bracketed, List.contains_iff_mem]
  rfl

theorem toList_text (host : String) (port : UInt16) :
    (text host port).toList = (hostPart host).toList ++ ':' :: port.toNat.repr.toList := by
  simp [text, toString]

/-- The port stands behind the last colon, and the host in front of it. -/
theorem text_eq_append_iff {before after : String} :
    (text host port = before ++ ":" ++ after ∧ ':' ∉ after.toList) ↔
      before = hostPart host ∧ after = port.toNat.repr := by
  have hcut : (before ++ ":" ++ after).toList = before.toList ++ ':' :: after.toList := by simp
  have hport := colon_notMem_repr port.toNat
  constructor
  · rintro ⟨htext, hafter⟩
    rw [← String.toList_inj, toList_text, hcut, append_colon_inj hport hafter,
      String.toList_inj, String.toList_inj] at htext
    exact ⟨htext.1.symm, htext.2.symm⟩
  · rintro ⟨rfl, rfl⟩
    refine ⟨?_, hport⟩
    rw [← String.toList_inj, toList_text, hcut]

/-! ## Reading back -/

/-- A host without brackets around it is what stands inside those that it is written with. -/
theorem unbracket_hostPart (h : ¬ Bracketed host) :
    unbracket (hostPart host).toList = host.toList := by
  by_cases hcolon : ':' ∈ host.toList
  · have hbrackets : ("[" ++ host ++ "]").toList = '[' :: (host.toList ++ [']']) := by simp
    rw [hostPart_eq, if_pos ⟨hcolon, h⟩, hbrackets, unbracket, List.dropLast_concat]
  · rw [hostPart_eq, if_neg fun hboth => hcolon hboth.1]
    unfold unbracket
    split
    · rename_i hcs
      exact absurd (congrArg List.head? hcs) h
    · rfl

/-- The endpoint of a host without brackets is told by its text. -/
theorem ofText?_text (h : ¬ Bracketed host) : ofText? (text host port) = some (host, port) := by
  have hport := colon_notMem_repr port.toNat
  have hbound : port.toNat ≤ 65535 := Nat.le_of_lt_succ port.toNat_lt
  rw [ofText?, toList_text, rtakeWhile_append_colon hport, rdropWhile_append_colon hport,
    Number.readUnsigned_repr hbound]
  dsimp only
  rw [List.dropLast_concat, unbracket_hostPart h, String.ofList_toList, UInt16.ofNat_toNat]

/-- Brackets that are there already are not put again. -/
theorem hostPart_brackets (hcolon : ':' ∈ host.toList) (h : ¬ Bracketed host) :
    hostPart ("[" ++ host ++ "]") = hostPart host := by
  have hbracketed : Bracketed ("[" ++ host ++ "]") := by simp [Bracketed]
  rw [hostPart_eq, if_neg fun hboth => hboth.2 hbracketed, hostPart_eq, if_pos ⟨hcolon, h⟩]

/-- An endpoint whose host does not begin with a bracket is read back from its text, so two of them
never have the same text. Behind the last colon of a text stands the port in decimal, and in front
of it the host, in brackets if it has a colon and not yet a bracket in front. A host with colons
has the same text with brackets around it as without. -/
theorem text_unambiguous :
    (∀ (host : String) (port : UInt16), ¬ Bracketed host →
      ofText? (text host port) = some (host, port)) ∧
    (∀ (host host' : String) (port port' : UInt16), ¬ Bracketed host → ¬ Bracketed host' →
      text host port = text host' port' → host = host' ∧ port = port') ∧
    (∀ (host : String) (port : UInt16) (before after : String),
      (text host port = before ++ ":" ++ after ∧ ':' ∉ after.toList) ↔
        before = (if ':' ∈ host.toList ∧ ¬ Bracketed host then "[" ++ host ++ "]" else host) ∧
          after = port.toNat.repr) ∧
    ∀ (host : String) (port : UInt16), ':' ∈ host.toList → ¬ Bracketed host →
      text ("[" ++ host ++ "]") port = text host port := by
  refine ⟨fun host port => ofText?_text, ?_, ?_, ?_⟩
  · intro host host' port port' h h' heq
    have hread : ofText? (text host port) = some (host, port) := ofText?_text h
    rw [heq, ofText?_text h', Option.some.injEq, Prod.mk.injEq] at hread
    exact ⟨hread.1.symm, hread.2.symm⟩
  · intro host port before after
    rw [← hostPart_eq]
    exact text_eq_append_iff
  · intro host port hcolon h
    rw [text, text, hostPart_brackets hcolon h]

/-- The loopback address with and without its brackets, and a host without colons. -/
theorem text_unambiguous_of_loopback :
    text "::1" 1502 = "[::1]:1502" ∧ text "[::1]" 1502 = "[::1]:1502" ∧
      ofText? "[::1]:1502" = some ("::1", 1502) ∧ text "::1" 1502 ≠ text "1" 1502 := by
  obtain ⟨hread, hinjective, hcut, hbrackets⟩ := text_unambiguous
  have htext : text "::1" 1502 = "[::1]:1502" :=
    ((hcut "::1" 1502 "[::1]" "1502").mpr ⟨by decide, rfl⟩).1
  refine ⟨htext, ?_, ?_, ?_⟩
  · rw [← htext]
    exact hbrackets "::1" 1502 (by decide) (by decide)
  · rw [← htext]
    exact hread "::1" 1502 (by decide)
  · intro h
    have hhost := (hinjective "::1" "1" 1502 1502 (by decide) (by decide) h).1
    revert hhost
    decide

end ModbusTcp.Address
