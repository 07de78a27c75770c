import FixtureKeywords.Process.Runner
import FixtureKeywords.Proofs.Text.Words

/-!
# The program of a runner

A runner is refused a list of words whose first word is missing or blank. A command line is only
asked whether it is blank, before it is split; a line that writes a blank word first, as two
quotes with nothing between them do, then makes a runner without a program. Which lines do is
said by how they are written.

The two forms of a command also part where the blanks that are taken off a line first are not all
outside of words: a backslash at the end of what is left was in front of one of them.
-/
namespace FixtureKeywords.Runner
open Text

/-- A command has a program: a first word that is not blank. -/
def HasProgram (command : List Text) : Prop :=
  ∃ program arguments, command = program :: arguments ∧ isBlankText program = false

variable {line : Text} {command : List Text}

theorem ofWords_of_hasProgram (h : HasProgram command) :
    ofWords command = .ok ⟨command, none, none⟩ := by
  obtain ⟨program, arguments, rfl, hprogram⟩ := h
  rw [ofWords, if_neg (by rw [hprogram]; nofun)]

theorem ofWords_of_not_hasProgram (h : ¬ HasProgram command) :
    ofWords command = .error (.argument .emptyCommand) := by
  cases command with
  | nil => rfl
  | cons program arguments =>
      have hprogram : isBlankText program := by
        by_contra hblank
        exact h ⟨program, arguments, rfl, Bool.eq_false_iff.mpr hblank⟩
      rw [ofWords, if_pos hprogram]

/-- What a line is split into has a program unless the line opens with a blank word. -/
theorem hasProgram_iff (hwords : words line = .ok command) (hcommand : command ≠ []) :
    HasProgram command ↔ ¬ OpensBlank line := by
  rw [opensBlank_iff hwords]
  cases command with
  | nil => exact absurd rfl hcommand
  | cons program arguments => simp [HasProgram]

theorem ofLine_of_not_blank (h : isBlankText line = false) :
    ofLine line = (words (strip line)).map fun command => ⟨command, none, none⟩ :=
  if_neg (by rw [h]; nofun)

/-- A line that is not blank makes a runner if it can be split without the blanks around it, and
then there is a first word. -/
theorem ofLine_cases (h : isBlankText line = false) :
    ofLine line = .error .unclosedQuote ∨ ofLine line = .error .danglingEscape ∨
      ∃ command, words (strip line) = .ok command ∧ command ≠ [] ∧
        ofLine line = .ok ⟨command, none, none⟩ := by
  rw [ofLine_of_not_blank h]
  rcases words_cases (strip line) with ⟨-, command, hok⟩ | ⟨fault, hfault, herror⟩
  · refine .inr (.inr ⟨command, hok, ?_, by rw [hok]; rfl⟩)
    rintro rfl
    have hstrip := isBlankText_of_words_eq_nil hok
    obtain ⟨b, d, hb, hd, hline⟩ := exists_strip line
    rw [hline, isBlankText_append.mpr ⟨isBlankText_append.mpr ⟨hb, hstrip⟩, hd⟩] at h
    cases h
  · have hkind : fault = .unclosedQuote ∨ fault = .danglingEscape := by
      generalize Quoting.plain.after (strip line) = quoting at hfault
      cases quoting with
      | plain => cases hfault
      | single | double => exact .inl (Option.some.inj hfault).symm
      | escape inDouble => exact .inr (Option.some.inj hfault).symm
    rw [herror]
    exact hkind.imp (congrArg Except.error) fun h => .inl (congrArg Except.error h)

theorem exists_ofWords_iff : (∃ r, ofWords command = .ok r) ↔ HasProgram command := by
  by_cases h : HasProgram command
  · exact iff_of_true ⟨_, ofWords_of_hasProgram h⟩ h
  · refine iff_of_false ?_ h
    rw [ofWords_of_not_hasProgram h]
    rintro ⟨r, ⟨⟩⟩

/-- A line that can be split is refused only if it loses the blank behind a backslash. -/
theorem exists_ofLine_iff (h : isBlankText line = false) (hwords : words line = .ok command) :
    (∃ r, ofLine line = .ok r) ↔ ¬ EndsInEscape (strip line) := by
  rw [← words_strip hwords, ofLine_of_not_blank h]
  cases words (strip line) with
  | ok command => exact iff_of_true ⟨_, rfl⟩ ⟨_, rfl⟩
  | error fault => exact iff_of_false (by rintro ⟨r, ⟨⟩⟩) (by rintro ⟨command, ⟨⟩⟩)

def asData (words : List Text) : Datum :=
  .list (words.map fun word => .text (String.ofList word))

theorem ofDatum_asData (words : List Text) : ofDatum (asData words) = ofWords words := by
  have hword : (fun d : Datum => d.shown.toList) ∘ (fun word : Text => .text (String.ofList word)) =
      id := funext fun word => String.toList_ofList
  rw [asData, ofDatum, List.map_map, hword, List.map_id]

/-- A runner and its program. A list of words makes a runner exactly if it has a program, and is
refused as empty otherwise. A line is refused as empty exactly if it is blank; any other line
that closes its quotes and does not end in a backslash makes a runner with at least one word, and
that has a program unless the line opens with a blank word. So a line and the list of its words
are accepted alike exactly if the line is blank, or it both opens with a blank word and loses the
blank behind a backslash, or neither. -/
theorem program_of_command (items : List Datum) (s : String) :
    let command := items.map fun d => d.shown.toList
    let line := s.toList
    (HasProgram command → ofDatum (.list items) = .ok ⟨command, none, none⟩) ∧
    (¬ HasProgram command → ofDatum (.list items) = .error (.argument .emptyCommand)) ∧
    (isBlankText line → ofDatum (.text s) = .error (.argument .emptyCommand)) ∧
    (¬ isBlankText line → ofDatum (.text s) = .error .unclosedQuote ∨
      ofDatum (.text s) = .error .danglingEscape ∨
      ∃ words, ofDatum (.text s) = .ok ⟨words, none, none⟩ ∧ words ≠ [] ∧
        (HasProgram words ↔ ¬ OpensBlank (strip line))) ∧
    ∀ args, words line = .ok args →
      (((∃ r, ofDatum (.text s) = .ok r) ↔ ∃ r, ofDatum (asData args) = .ok r) ↔
        isBlankText line ∨ (EndsInEscape (strip line) ↔ OpensBlank line)) := by
  intro command line
  refine ⟨ofWords_of_hasProgram, ofWords_of_not_hasProgram, fun h => if_pos h, fun h => ?_,
    fun args hargs => ?_⟩
  · rcases ofLine_cases (Bool.eq_false_iff.mpr h) with
      herror | herror | ⟨found, hwords, hne, hok⟩
    · exact .inl herror
    · exact .inr (.inl herror)
    · exact .inr (.inr ⟨found, hok, hne, hasProgram_iff hwords hne⟩)
  · rw [ofDatum_asData, exists_ofWords_iff]
    by_cases hblank : isBlankText line
    · refine iff_of_true (iff_of_false ?_ ?_) (.inl hblank)
      · rw [show ofDatum (.text s) = .error (.argument .emptyCommand) from if_pos hblank]
        rintro ⟨r, ⟨⟩⟩
      · intro hprogram
        have hne : args ≠ [] := by
          rintro rfl
          obtain ⟨_, _, ⟨⟩, _⟩ := hprogram
        exact (hasProgram_iff hargs hne).mp hprogram (opensBlank_of_isBlankText hargs hne hblank)
    · have hne : args ≠ [] := by
        rintro rfl
        exact hblank (isBlankText_of_words_eq_nil hargs)
      have hline : (∃ r, ofDatum (.text s) = .ok r) ↔ ¬ EndsInEscape (strip line) :=
        exists_ofLine_iff (Bool.eq_false_iff.mpr hblank) hargs
      rw [hline, hasProgram_iff hargs hne, not_iff_not, or_iff_right hblank]

/-- A blank in the program is escaped, and a word without characters comes last. -/
theorem program_of_command_escaped_blank :
    let s := " my\\ tool '' "
    let items : List Datum := [.text "my tool", .text ""]
    let args : List Text := ["my tool".toList, []]
    words s.toList = .ok args ∧ ofDatum (.list items) = .ok ⟨args, none, none⟩ ∧
      ((∃ r, ofDatum (.text s) = .ok r) ↔ ∃ r, ofDatum (asData args) = .ok r) := by
  intro s items args
  have hargs : words s.toList = .ok args := by decide
  have hprogram : HasProgram args := ⟨_, _, rfl, by decide⟩
  have hescape : ¬ EndsInEscape (strip s.toList) := by
    rw [← after_eq_escape_iff]
    decide
  have hblank : ¬ OpensBlank s.toList := (hasProgram_iff hargs nofun).mp hprogram
  obtain ⟨hlist, -, -, -, hagree⟩ := program_of_command items s
  exact ⟨hargs, hlist hprogram, (hagree args hargs).mpr (.inr (iff_of_false hescape hblank))⟩

/-- Two quotes with nothing between them are a line that is not blank and writes a blank word. -/
theorem ofDatum_empty_quotes :
    words "''".toList = .ok [[]] ∧ ofDatum (.text "''") = .ok ⟨[[]], none, none⟩ ∧
      ofDatum (asData [[]]) = .error (.argument .emptyCommand) :=
  ⟨rfl, rfl, rfl⟩

end FixtureKeywords.Runner
