import ModbusTcp.Log
import ModbusTcp.Proofs.Text.Characters

/-!
# Names of filters

A text names a filter if its core is the filter's name in letters of either case; a letter outside
ASCII stands for none of ASCII (`LogFilter.ofText_eq_ok_iff`). The name itself names the filter
again (`LogFilter.ofText_name`). Every other text is refused (`LogFilter.ofText_eq_error_iff`).
-/

namespace ModbusTcp.LogFilter

variable {text : String} {filter : LogFilter} {why : SettingFault}

/-- The core of the text is a name, but for the case of its letters. -/
def Names (text name : String) : Prop :=
  ∃ core, Blank.Core text.toList core ∧ core.map Char.toLower = name.toList

theorem mem_all (filter : LogFilter) : filter ∈ all := by
  cases filter with
  | atLeast least => cases least <;> decide
  | off => decide

/-- The names are written in small letters of ASCII, and none has a `k`. -/
theorem small_of_mem_name (filter : LogFilter) :
    ∀ c ∈ filter.name.toList, (0x61 ≤ c.toNat ∧ c.toNat ≤ 0x7A) ∧ c ≠ 'k' := by
  -- As a test of the list, since the quantifier itself may be decided over all characters.
  have hall : ∀ filter ∈ all, filter.name.toList.all fun c =>
      decide ((0x61 ≤ c.toNat ∧ c.toNat ≤ 0x7A) ∧ c ≠ 'k') := by decide
  intro c hc
  exact of_decide_eq_true (List.all_eq_true.1 (hall filter (mem_all filter)) c hc)

theorem isAscii_of_mem_name (filter : LogFilter) :
    ∀ c ∈ filter.name.toList, LowerCase.IsAscii c ∧ c ≠ 'k' := by
  intro c hc
  obtain ⟨hsmall, hk⟩ := filter.small_of_mem_name c hc
  exact ⟨Nat.lt_of_le_of_lt hsmall.2 (by decide), hk⟩

/-! ## Texts and their filters -/

theorem normalize_eq_iff : normalize text = filter.name ↔ Names text filter.name := by
  rw [← String.toList_inj, normalize, String.toList_ofList,
    LowerCase.ofList_eq_iff filter.isAscii_of_mem_name, Names]
  constructor
  · intro h
    exact ⟨_, Blank.core_trimList _, h⟩
  · rintro ⟨core, hcore, h⟩
    rw [hcore.trimList_eq]
    exact h

theorem ofText_eq_ok_iff_normalize : ofText text = .ok filter ↔ normalize text = filter.name := by
  constructor
  · intro h
    unfold ofText at h
    split at h
    · rename_i found hfind
      cases h
      exact (eq_of_beq (List.find?_some (p := fun f : LogFilter => f.name == _) hfind)).symm
    · cases h
  · intro h
    have hfind : ∀ filter ∈ all, all.find? (·.name == filter.name) = some filter := by decide
    rw [ofText, h, hfind filter (mem_all filter)]

/-- A filter is found if and only if the text names it. -/
theorem ofText_eq_ok_iff : ofText text = .ok filter ↔ Names text filter.name :=
  ofText_eq_ok_iff_normalize.trans normalize_eq_iff

/-- A lower-case form with final sigmas is a name if and only if the one without them is. -/
theorem eq_name_iff_of_finals {lowered : List Char}
    (h : LowerCase.Finals lowered (LowerCase.ofList (Blank.trimList text.toList))) :
    String.ofList lowered = filter.name ↔ ofText text = .ok filter := by
  rw [ofText_eq_ok_iff_normalize, normalize, ← String.toList_inj, ← String.toList_inj,
    String.toList_ofList, String.toList_ofList]
  exact h.eq_iff fun d hd => (filter.isAscii_of_mem_name d hd).1

theorem eq_unknownLogLevel_of_ofText (h : ofText text = .error why) :
    why = .unknownLogLevel text := by
  unfold ofText at h
  split at h
  · cases h
  · cases h
    rfl

/-- A text is refused if and only if it names no filter. -/
theorem ofText_eq_error_iff :
    ofText text = .error why ↔
      why = .unknownLogLevel text ∧ ∀ filter : LogFilter, ¬ Names text filter.name := by
  constructor
  · intro h
    refine ⟨eq_unknownLogLevel_of_ofText h, fun filter hnames => ?_⟩
    rw [ofText_eq_ok_iff.mpr hnames] at h
    cases h
  · rintro ⟨rfl, hnone⟩
    rcases hread : ofText text with why | filter
    · rw [eq_unknownLogLevel_of_ofText hread]
    · exact absurd (ofText_eq_ok_iff.mp hread) (hnone filter)

/-- A filter is told by its name. -/
theorem ofText_name (filter : LogFilter) : ofText filter.name = .ok filter := by
  have hblank : ∀ c ∈ filter.name.toList, Blank.isBlank c = false := by
    intro c hc
    obtain ⟨hsmall, -⟩ := filter.small_of_mem_name c hc
    exact Blank.isBlank_eq_false (by omega) (by omega)
  have hlower : filter.name.toList.map Char.toLower = filter.name.toList :=
    (List.map_congr_left fun c hc =>
      LowerCase.toLower_of_small (filter.small_of_mem_name c hc).1).trans (List.map_id' _)
  rw [ofText_eq_ok_iff]
  exact ⟨_, Blank.core_self hblank, hlower⟩

/-- The text of a filter has blanks and letters of ASCII, and nothing else. -/
theorem blank_or_letter_of_ofText (h : ofText text = .ok filter) :
    ∀ c ∈ text.toList, Blank.isBlank c = true ∨ c.isAlpha = true := by
  obtain ⟨core, hcore, hlower⟩ := ofText_eq_ok_iff.mp h
  obtain ⟨front, back, htext, hfront, hback⟩ := hcore.around
  rw [htext]
  intro c hc
  rcases List.mem_append.mp hc with hc | hc
  · rcases List.mem_append.mp hc with hc | hc
    · exact .inl (hfront c hc)
    · have hmem : c.toLower ∈ filter.name.toList := hlower ▸ List.mem_map_of_mem hc
      exact .inr (LowerCase.isAlpha_of_small_toLower (filter.small_of_mem_name _ hmem).1)
  · exact .inl (hback c hc)

/-! ## The six words -/

/-- The words that name a filter. -/
def words : List String := ["trace", "debug", "info", "warn", "error", "off"]

theorem mem_words_iff {word : String} :
    word ∈ words ↔ ∃ filter : LogFilter, filter.name = word := by
  have hwords : words = all.map LogFilter.name := by decide
  rw [hwords, List.mem_map]
  exact exists_congr fun filter => and_iff_right (mem_all filter)

/-- A text is taken for one of six words exactly if that word is its core, but for the case of the
letters, and then it holds blanks and letters of ASCII only. Its lower-case form without blanks is
the word, which is taken for itself again; a form in which small sigmas are final ones is a word for
no other texts. Every text that is taken for none is refused, and the refusal quotes it as it is. -/
theorem ofText_exact :
    (∀ text word : String, (∃ filter, ofText text = .ok filter ∧ filter.name = word) ↔
      word ∈ words ∧ Names text word) ∧
    (∀ (text : String) (filter : LogFilter), ofText text = .ok filter →
      normalize text = filter.name ∧ ofText filter.name = .ok filter ∧
        ∀ c ∈ text.toList, Blank.isBlank c = true ∨ c.isAlpha = true) ∧
    (∀ (text : String) (filter : LogFilter) (lowered : List Char),
      LowerCase.Finals lowered (LowerCase.ofList (Blank.trimList text.toList)) →
        (String.ofList lowered = filter.name ↔ ofText text = .ok filter)) ∧
    (∀ (text : String) (why : SettingFault), ofText text = .error why ↔
      why = .unknownLogLevel text ∧ ∀ word ∈ words, ¬ Names text word) ∧
    ∀ text : String, (Failure.configuration (.unknownLogLevel text)).message =
      "Configuration error: Unknown log level: " ++ text := by
  refine ⟨?_, ?_, fun _ _ _ => eq_name_iff_of_finals, ?_, ?_⟩
  · intro text word
    constructor
    · rintro ⟨filter, hread, rfl⟩
      exact ⟨mem_words_iff.mpr ⟨filter, rfl⟩, ofText_eq_ok_iff.mp hread⟩
    · rintro ⟨hword, hnames⟩
      obtain ⟨filter, rfl⟩ := mem_words_iff.mp hword
      exact ⟨filter, ofText_eq_ok_iff.mpr hnames, rfl⟩
  · intro text filter hread
    exact ⟨ofText_eq_ok_iff_normalize.mp hread, ofText_name filter,
      blank_or_letter_of_ofText hread⟩
  · intro text why
    rw [ofText_eq_error_iff]
    refine and_congr_right fun _ => ?_
    constructor
    · intro hnone word hword
      obtain ⟨filter, rfl⟩ := mem_words_iff.mp hword
      exact hnone filter
    · intro hnone filter
      exact hnone filter.name (mem_words_iff.mpr ⟨filter, rfl⟩)
  · intro text
    show "Configuration error: " ++ ("Unknown log level: " ++ text) = _
    rw [← String.append_assoc]
    rfl

/-- A word in letters of both cases between blanks, and one with a dotted capital I in it. -/
theorem ofText_exact_of_mixed_case :
    (∃ filter, ofText "\tDeBuG\u3000" = .ok filter ∧ filter.name = "debug" ∧
      normalize "\tDeBuG\u3000" = "debug") ∧
      ofText "\u0130nfo" = .error (.unknownLogLevel "\u0130nfo") := by
  obtain ⟨htaken, hname, -, hrefused, -⟩ := ofText_exact
  constructor
  · have hnames : Names "\tDeBuG\u3000" "debug" :=
      ⟨"DeBuG".toList, Blank.trimList_eq_iff.mp (by decide), by decide⟩
    obtain ⟨filter, hread, hword⟩ := (htaken _ "debug").mpr ⟨by decide, hnames⟩
    exact ⟨filter, hread, hword, (hname _ filter hread).1.trans hword⟩
  · refine (hrefused _ _).mpr ⟨rfl, ?_⟩
    rintro word hword ⟨core, hcore, hlower⟩
    have hnone : ∀ word ∈ words,
        (Blank.trimList "\u0130nfo".toList).map Char.toLower ≠ word.toList := by decide
    rw [← hcore.trimList_eq] at hlower
    exact hnone word hword hlower

end ModbusTcp.LogFilter
