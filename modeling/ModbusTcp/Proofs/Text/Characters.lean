import Mathlib.Data.List.Basic
import Mathlib.Data.List.DropRight
import ModbusTcp.Text.Characters

/-!
# Trimmed texts and lower-case texts

What is left of a text without the blanks at its ends, and which texts have a given lower-case
form.
-/

namespace ModbusTcp.Blank

/-!
## Trimmed texts

A text is cut in one way into blanks, a core and blanks, so that no blank stands at either end of
the core (`Blank.Core`). Trimming keeps the core (`Blank.trimList_eq_iff`).
-/

variable {cs core : List Char}

/-- The text is its core with blanks around it, and the core begins and ends with none. -/
structure Core (cs core : List Char) : Prop where
  around : ∃ front back, cs = front ++ core ++ back ∧
    (∀ c ∈ front, isBlank c = true) ∧ ∀ c ∈ back, isBlank c = true
  first : ∀ c ∈ core.head?, isBlank c = false
  last : ∀ c ∈ core.getLast?, isBlank c = false

/-- A text without blanks is its own core. -/
theorem core_self (h : ∀ c ∈ cs, isBlank c = false) : Core cs cs where
  around := ⟨[], [], by simp, by simp, by simp⟩
  first c hc := h c (List.mem_of_head? hc)
  last c hc := h c (List.mem_of_getLast? hc)

/-- Blanks in front of a character that is none are dropped, and nothing else. -/
theorem dropWhile_append {front rest : List Char} (hfront : ∀ c ∈ front, isBlank c = true)
    (hrest : ∀ c ∈ rest.head?, isBlank c = false) : (front ++ rest).dropWhile isBlank = rest := by
  rw [List.dropWhile_append_of_pos hfront]
  cases rest with
  | nil => rfl
  | cons c rest =>
    have hc : ¬ isBlank c = true := Bool.eq_false_iff.mp (hrest c rfl)
    rw [List.dropWhile_cons_of_neg hc]

theorem trimRight_append {rest back : List Char} (hback : ∀ c ∈ back, isBlank c = true)
    (hrest : ∀ c ∈ rest.getLast?, isBlank c = false) : trimRight (rest ++ back) = rest := by
  rw [trimRight, List.reverse_append, dropWhile_append, List.reverse_reverse]
  · simpa using hback
  · simpa using hrest

theorem Core.trimList_eq (h : Core cs core) : trimList cs = core := by
  obtain ⟨front, back, rfl, hfront, hback⟩ := h.around
  cases core with
  | nil =>
    have hblank : ∀ c ∈ front ++ back, isBlank c = true := by
      intro c hc
      exact (List.mem_append.mp hc).elim (hfront c) (hback c)
    rw [List.append_nil, trimList, List.dropWhile_eq_nil_iff.mpr hblank]
    rfl
  | cons c core =>
    have hfirst : ∀ d ∈ (c :: core ++ back).head?, isBlank d = false := h.first
    rw [List.append_assoc, trimList, dropWhile_append hfront hfirst, trimRight_append hback h.last]

theorem core_trimList (cs : List Char) : Core cs (trimList cs) := by
  have hfront : cs.takeWhile isBlank ++ cs.dropWhile isBlank = cs := List.takeWhile_append_dropWhile
  have hback : trimList cs ++ (cs.dropWhile isBlank).rtakeWhile isBlank = cs.dropWhile isBlank :=
    List.rdropWhile_append_rtakeWhile
  refine ⟨⟨cs.takeWhile isBlank, (cs.dropWhile isBlank).rtakeWhile isBlank, ?_, ?_, ?_⟩, ?_, ?_⟩
  · rw [List.append_assoc, hback, hfront]
  · exact fun c => List.mem_takeWhile_imp
  · exact fun c => List.mem_rtakeWhile_imp
  · intro c hc
    -- the first character of the core is the one that dropping blanks stopped at
    have hfirst : (cs.dropWhile isBlank).head? = some c := by
      rw [← hback, List.head?_append, hc]
      rfl
    have hstop := List.head?_dropWhile_not isBlank cs
    rw [hfirst] at hstop
    exact hstop
  · intro c hc
    obtain ⟨hne, rfl⟩ := List.mem_getLast?_eq_getLast hc
    exact Bool.eq_false_iff.mpr (List.rdropWhile_last_not isBlank (cs.dropWhile isBlank) hne)

/-- Trimming a text gives its core. -/
theorem trimList_eq_iff : trimList cs = core ↔ Core cs core := by
  constructor
  · rintro rfl
    exact core_trimList cs
  · exact Core.trimList_eq

end ModbusTcp.Blank

namespace ModbusTcp.LowerCase

/-!
## Lower case of ASCII texts

The characters of ASCII go where core's `Char.toLower` takes them. Of the others two have a
character of ASCII in their lower-case form: the kelvin sign, which goes to a `k`, and the capital I
with a dot above, which goes to an `i` and a combining dot. So a text whose lower-case form is in
ASCII and has no `k` was in ASCII before (`LowerCase.ofList_eq_iff`). Whether a small sigma has the
form that it takes at the end of a word makes no difference to that (`LowerCase.Finals.eq_iff`).
-/

variable {c : Char} {cs name : List Char}

/-- One of the first 128 characters. -/
def IsAscii (c : Char) : Prop := c.toNat < 0x80

/-- By comparing the code point. -/
instance (c : Char) : Decidable (IsAscii c) := inferInstanceAs (Decidable (_ < _))

/-- What holds of the first 128 characters holds of ASCII. -/
theorem forall_isAscii {P : Char → Prop} (h : ∀ n < 0x80, P (Char.ofNat n)) (hc : IsAscii c) :
    P c := by
  rw [← Char.ofNat_toNat c]
  exact h c.toNat hc

/-! ### The runs -/

/-- The run takes characters beyond ASCII to characters beyond ASCII: none of its images is a
surrogate, which would be no character at all. -/
def Run.IsForeign (r : Run) : Prop :=
  0x80 ≤ r.first ∧ 0x80 ≤ r.target ∧
    (r.target + (r.last - r.first) < 0xD800 ∨
      0xDFFF < r.target ∧ r.target + (r.last - r.first) < 0x110000)

/-- By comparing the ends of the run. -/
instance (r : Run) : Decidable r.IsForeign := inferInstanceAs (Decidable (_ ∧ _))

/-- The runs that touch ASCII: that of its capitals, and the kelvin sign alone. -/
def asciiRuns : List Run := [⟨0x41, 0x5A, 1, 0x61⟩, ⟨0x212A, 0x212A, 1, 0x6B⟩]

theorem isForeign_of_mem_runs : ∀ r ∈ runs, r ∈ asciiRuns ∨ r.IsForeign := by
  decide +kernel

theorem Run.le_of_covers {r : Run} {n : Nat} (h : r.covers n = true) :
    r.first ≤ n ∧ n ≤ r.last := by
  simp only [Run.covers, Bool.and_eq_true, decide_eq_true_eq] at h
  exact h.1

/-- What a run takes is a capital of ASCII or the kelvin sign, unless the run is foreign. -/
theorem Run.isForeign_of_covers {r : Run} {n : Nat} (hr : r ∈ runs) (h : r.covers n = true)
    (hupper : ¬ (0x41 ≤ n ∧ n ≤ 0x5A)) (hkelvin : n ≠ 0x212A) : r.IsForeign := by
  refine (isForeign_of_mem_runs r hr).resolve_left fun htouches => ?_
  obtain ⟨hfirst, hlast⟩ := Run.le_of_covers h
  simp only [asciiRuns, List.mem_cons, List.not_mem_nil, or_false] at htouches
  rcases htouches with rfl | rfl
  · exact hupper ⟨hfirst, hlast⟩
  · exact hkelvin (Nat.le_antisymm hlast hfirst)

theorem Run.IsForeign.not_isAscii {r : Run} {n : Nat} (hr : r.IsForeign)
    (h : r.covers n = true) : ¬ IsAscii (Char.ofNat (r.image n)) := by
  obtain ⟨hfirst, hlast⟩ := Run.le_of_covers h
  obtain ⟨-, htarget, hrange⟩ := hr
  have hvalid : (r.image n).isValidChar := by
    unfold Run.image Nat.isValidChar
    omega
  have hvalue : (Char.ofNat (r.image n)).toNat = r.image n := by
    rw [Char.ofNat, dif_pos hvalid]
    rfl
  rw [IsAscii, hvalue, Run.image]
  omega

/-! ### Characters -/

/-- No run but that of the capitals takes a character of ASCII. -/
theorem find?_runs_of_isAscii (hc : IsAscii c) (hupper : ¬ (0x41 ≤ c.toNat ∧ c.toNat ≤ 0x5A)) :
    runs.find? (·.covers c.toNat) = none := by
  unfold IsAscii at hc
  rw [List.find?_eq_none]
  intro r hr hcovers
  have hforeign := Run.isForeign_of_covers hr hcovers hupper (by omega)
  exact absurd (Nat.le_trans hforeign.1 (Run.le_of_covers hcovers).1) (by omega)

theorem ofChar_of_isAscii (hc : IsAscii c) : ofChar c = [c.toLower] := by
  have hdot : c.toNat ≠ 0x130 := by
    unfold IsAscii at hc
    omega
  rw [ofChar, if_neg hdot]
  by_cases hupper : 0x41 ≤ c.toNat ∧ c.toNat ≤ 0x5A
  · have hfind : runs.find? (·.covers c.toNat) = some ⟨0x41, 0x5A, 1, 0x61⟩ :=
      List.find?_cons_of_pos (by simp [Run.covers, hupper, Nat.mod_one])
    have hlower := forall_isAscii (P := fun c => 0x41 ≤ c.toNat ∧ c.toNat ≤ 0x5A →
      Char.ofNat (0x61 + (c.toNat - 0x41)) = c.toLower) (by decide) hc hupper
    rw [hfind, ← hlower]
    rfl
  · have hlower : c.toLower = c := dif_neg fun h => hupper ⟨h.1, h.2⟩
    rw [find?_runs_of_isAscii hc hupper, hlower]

theorem ofChar_ne_nil (c : Char) : ofChar c ≠ [] := by
  unfold ofChar
  split
  · exact List.cons_ne_nil _ _
  · split <;> exact List.cons_ne_nil _ _

/-- Only two characters beyond ASCII go to a character of ASCII. -/
theorem not_isAscii_of_mem_ofChar (hc : ¬ IsAscii c) (hdot : c ≠ '\u0130')
    (hkelvin : c ≠ '\u212A') : ∀ d ∈ ofChar c, ¬ IsAscii d := by
  have hdot' : c.toNat ≠ 0x130 := fun h => hdot (Char.toNat_inj.mp h)
  have hkelvin' : c.toNat ≠ 0x212A := fun h => hkelvin (Char.toNat_inj.mp h)
  intro d hd
  rw [ofChar, if_neg hdot'] at hd
  split at hd
  · rename_i r hfind
    rw [List.mem_singleton.mp hd]
    have hcovers : r.covers c.toNat = true :=
      List.find?_some (p := fun r : Run => r.covers c.toNat) hfind
    have hupper : ¬ (0x41 ≤ c.toNat ∧ c.toNat ≤ 0x5A) := by
      unfold IsAscii at hc
      omega
    have hforeign :=
      Run.isForeign_of_covers (List.mem_of_find?_eq_some hfind) hcovers hupper hkelvin'
    exact hforeign.not_isAscii hcovers
  · rw [List.mem_singleton.mp hd]
    exact hc

theorem isAscii_of_ofChar (h : ∀ d ∈ ofChar c, IsAscii d ∧ d ≠ 'k') : IsAscii c := by
  by_contra hc
  by_cases hdot : c = '\u0130'
  · subst hdot
    exact absurd (h '\u0307' (by decide +kernel)).1 (by decide)
  · by_cases hkelvin : c = '\u212A'
    · subst hkelvin
      exact (h 'k' (by decide +kernel)).2 rfl
    · obtain ⟨d, hd⟩ := List.exists_mem_of_ne_nil _ (ofChar_ne_nil c)
      exact not_isAscii_of_mem_ofChar hc hdot hkelvin d hd (h d hd).1

/-! ### Texts -/

theorem ofList_of_isAscii (h : ∀ c ∈ cs, IsAscii c) : ofList cs = cs.map Char.toLower := by
  rw [ofList, List.map_eq_flatMap]
  exact List.flatMap_congr fun c hc => ofChar_of_isAscii (h c hc)

theorem isAscii_of_isAscii_toLower (h : IsAscii c.toLower) : IsAscii c := by
  unfold Char.toLower at h
  split at h
  · rename_i hupper
    exact Nat.lt_of_le_of_lt hupper.2 (by decide)
  · exact h

theorem toLower_of_small (h : 0x61 ≤ c.toNat ∧ c.toNat ≤ 0x7A) : c.toLower = c :=
  forall_isAscii (P := fun c => 0x61 ≤ c.toNat ∧ c.toNat ≤ 0x7A → c.toLower = c) (by decide)
    (Nat.lt_of_le_of_lt h.2 (by decide)) h

/-- Only the letters of ASCII have a small letter of ASCII as their lower case. -/
theorem isAlpha_of_small_toLower (h : 0x61 ≤ c.toLower.toNat ∧ c.toLower.toNat ≤ 0x7A) :
    c.isAlpha = true :=
  forall_isAscii (P := fun c => 0x61 ≤ c.toLower.toNat ∧ c.toLower.toNat ≤ 0x7A →
    c.isAlpha = true) (by decide)
    (isAscii_of_isAscii_toLower (Nat.lt_of_le_of_lt h.2 (by decide))) h

/-- A text comes to a name in ASCII without a `k` if and only if core's lower case takes it there,
which changes nothing beyond ASCII. -/
theorem ofList_eq_iff (hname : ∀ d ∈ name, IsAscii d ∧ d ≠ 'k') :
    ofList cs = name ↔ cs.map Char.toLower = name := by
  constructor
  · rintro rfl
    refine (ofList_of_isAscii fun c hc => isAscii_of_ofChar fun d hd => ?_).symm
    exact hname d (List.mem_flatMap.mpr ⟨c, hc, hd⟩)
  · rintro rfl
    refine ofList_of_isAscii fun c hc => isAscii_of_isAscii_toLower ?_
    exact (hname c.toLower (List.mem_map_of_mem hc)).1

/-- The texts are the same, but that small sigmas of the second may be final ones in the first. -/
def Finals : List Char → List Char → Prop :=
  List.Forall₂ fun c d => c = d ∨ c = 'ς' ∧ d = 'σ'

/-- Final sigmas do not bring a text to a name in ASCII, nor keep it from one. -/
theorem Finals.eq_iff {lowered : List Char} (h : Finals lowered cs)
    (hname : ∀ d ∈ name, IsAscii d) : lowered = name ↔ cs = name := by
  induction h generalizing name with
  | nil => exact Iff.rfl
  | @cons c d lowered cs hcd _ ih =>
    cases name with
    | nil => simp
    | cons e name =>
      have hrest := ih fun d hd => hname d (.tail _ hd)
      have hhead : c = e ↔ d = e := by
        rcases hcd with rfl | ⟨rfl, rfl⟩
        · exact Iff.rfl
        · have he : IsAscii e := hname e (.head _)
          constructor
          · rintro rfl
            exact absurd he (by decide)
          · rintro rfl
            exact absurd he (by decide)
      rw [List.cons.injEq, List.cons.injEq, hhead, hrest]

end ModbusTcp.LowerCase
