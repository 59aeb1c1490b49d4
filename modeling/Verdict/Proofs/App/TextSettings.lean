import Verdict.Proofs.App.Sources
import Verdict.Proofs.Number.Numerals
import Verdict.Proofs.Settings.Layering
/-! The settings that are texts, when a variable gives them. The text of the variable goes through
the guess that all variables go through, so a platform or a directory whose name looks like a number
or a truth value is written anew, while an option of the command line is taken as it is. No text is
refused. -/
namespace Verdict

/-! ## Texts that go through a guess

The text of a variable is taken for a truth value or a number if it can be read as one, and a
setting that is a text then gets this value written out again. So the setting is the text of the
variable exactly when that is written the way its value is written. -/

/-! ### Characters that stand for themselves in lower case -/

/-- No character before the capital letters has a small form. -/
private theorem smallLetter_of_lt {character : Char} (early : character.toNat < 0x41) :
    smallLetter character = character := by
  have runs : ∀ run ∈ capitalRuns, 0x41 ≤ run.1 := by decide +kernel
  simp only [smallLetter]
  split
  · rename_i first last step shift found
    have begins := runs _ (List.mem_of_find?_eq_some found)
    have inside := List.find?_some found
    rw [decide_eq_true_eq] at inside
    omega
  · rfl

private theorem mem_lowerCaseAfter {character : Char} (early : character.toNat < 0x41)
    {text : List Char}
    (member : character ∈ text) (before : List Char) : character ∈ lowerCaseAfter before text := by
  induction text generalizing before with
  | nil => cases member
  | cons first rest ih =>
    rw [lowerCaseAfter, List.mem_append]
    rcases List.mem_cons.mp member with rfl | later
    · refine .inl ?_
      have noSigma : character ≠ 'Σ' := by
        rintro rfl
        exact absurd early (by decide)
      have noDottedI : character ≠ '\u0130' := by
        rintro rfl
        exact absurd early (by decide)
      rw [if_neg noSigma, if_neg noDottedI, smallLetter_of_lt early]
      exact List.mem_singleton_self _
    · exact .inr (ih later _)

namespace Variables

variable {text : String} {character : Char}

/-! ### What a variable is taken for -/

/-- A text that stands for a truth value. -/
def SaysTruth (text : String) : Prop := lowerCase text = "true" ∨ lowerCase text = "false"

/-- Truth values are written in letters alone. -/
private theorem not_saysTruth_of_mem (early : character.toNat < 0x41)
    (member : character ∈ text.toList) : ¬ SaysTruth text := by
  have kept : character ∈ (lowerCase text).toList := by
    rw [lowerCase, String.toList_ofList]
    exact mem_lowerCaseAfter early member []
  rintro (small | small) <;> rw [small] at kept
  · exact not_mem_of_early early (by decide) kept
  · exact not_mem_of_early early (by decide) kept

private theorem not_saysTruth_toString (value : Int) : ¬ SaysTruth (toString value) := by
  obtain ⟨digit, member⟩ : ∃ digit, digit ∈ Nat.toDigits 10 value.natAbs :=
    List.exists_mem_of_ne_nil _ Nat.toDigits_ne_nil
  have early : digit.toNat < 0x41 :=
    Nat.lt_of_le_of_lt (Char.isDigit_iff_toNat.mp (isDigit_toDigits member)).2 (by decide)
  have listed : digit ∈ (toString value).toList := by
    rw [toList_toString]
    exact List.mem_append_right _ member
  exact not_saysTruth_of_mem early listed

private theorem valueOf_of_saysTruth (truth : SaysTruth text) :
    valueOf text = .bool (decide (lowerCase text = "true")) := by
  rcases truth with small | small <;> simp [valueOf, small]

private theorem valueOf_of_integer {value : Int} (noTruth : ¬ SaysTruth text)
    (reads : readInt64? text.toList = some value) : valueOf text = .int value := by
  obtain ⟨noTrue, noFalse⟩ := not_or.mp noTruth
  simp only [valueOf, noTrue, noFalse, reads, if_false]

private theorem valueOf_of_decimal {value : Binary64} (noTruth : ¬ SaysTruth text)
    (noInteger : readInt64? text.toList = none) (reads : readDecimal? text.toList = some value) :
    valueOf text = .float value := by
  obtain ⟨noTrue, noFalse⟩ := not_or.mp noTruth
  simp only [valueOf, noTrue, noFalse, noInteger, reads, if_false]

private theorem valueOf_of_word (noTruth : ¬ SaysTruth text)
    (noInteger : readInt64? text.toList = none)
    (noDecimal : readDecimal? text.toList = none) : valueOf text = .text text := by
  obtain ⟨noTrue, noFalse⟩ := not_or.mp noTruth
  simp only [valueOf, noTrue, noFalse, noInteger, noDecimal, if_false]

/-! ### How it is written again -/

/-- The text that a setting gets from the text of a variable. -/
def respelled (text : String) : String := (valueOf text).toText.toOption.getD text

private theorem respelled_of_toText {written : String}
    (writes : (valueOf text).toText = .ok written) : respelled text = written := by
  rw [respelled, writes]
  rfl

/-- Whatever the text of a variable is taken for, it can be written again. -/
theorem toText_valueOf (text : String) : (valueOf text).toText = .ok (respelled text) := by
  have writes : ∃ written, (valueOf text).toText = .ok written := by
    cases taken : valueOf text with
    | bool | int | float | text => exact ⟨_, rfl⟩
    | list | table =>
      -- A text is never taken for a value with parts.
      simp only [valueOf] at taken
      repeat' split at taken
      all_goals cases taken
  obtain ⟨written, writes⟩ := writes
  rw [writes, respelled_of_toText writes]

/-- A text that is written the way its value is written. -/
inductive WellSpelled (text : String) : Prop where
  | truth (small : text = "true" ∨ text = "false")
  | integer {value : Int} (fits : fitsInt64 value = true) (numeral : text = toString value)
  | decimal {value : Binary64} (noTruth : ¬ SaysTruth text)
      (noInteger : readInt64? text.toList = none) (reads : readDecimal? text.toList = some value)
      (plain : plainNumber.text value = text)
  | word (noTruth : ¬ SaysTruth text) (noInteger : readInt64? text.toList = none)
      (noDecimal : readDecimal? text.toList = none)

/-- A text stays what it is exactly if it is written the way its value is written. -/
theorem respelled_eq_self_iff : respelled text = text ↔ WellSpelled text := by
  constructor
  · intro kept
    by_cases truth : SaysTruth text
    · have written : respelled text = if lowerCase text = "true" then "true" else "false" :=
        respelled_of_toText (by rw [valueOf_of_saysTruth truth, ConfigValue.toText]; simp)
      refine .truth ?_
      rw [← kept, written]
      split
      · exact .inl rfl
      · exact .inr rfl
    cases integer : readInt64? text.toList with
    | some value =>
      have fits : fitsInt64 value = true := (Option.filter_eq_some_iff.mp integer).2
      refine .integer fits (kept.symm.trans (respelled_of_toText ?_))
      rw [valueOf_of_integer truth integer]
      rfl
    | none =>
      cases decimal : readDecimal? text.toList with
      | some value =>
        refine .decimal truth integer decimal (Eq.trans (respelled_of_toText ?_).symm kept)
        rw [valueOf_of_decimal truth integer decimal]
        rfl
      | none => exact .word truth integer decimal
  · rintro ((rfl | rfl) | ⟨fits, rfl⟩ | ⟨noTruth, noInteger, reads, plain⟩ |
      ⟨noTruth, noInteger, noDecimal⟩) <;> refine respelled_of_toText ?_
    · decide +kernel
    · decide +kernel
    · rw [valueOf_of_integer (not_saysTruth_toString _) (readInt64?_toString fits)]
      rfl
    · rw [valueOf_of_decimal noTruth noInteger reads]
      exact congrArg _ plain
    · rw [valueOf_of_word noTruth noInteger noDecimal]
      rfl

/-- A text with a character that stands neither in numbers nor in truth values, such as a slash or
a blank, stays what it is. -/
theorem WellSpelled.of_mem (outside : OutsideNumbers character) (member : character ∈ text.toList) :
    WellSpelled text :=
  .word (not_saysTruth_of_mem outside.early member) (readInt64?_of_outside outside member)
    (readDecimal?_of_outside outside member)

example : WellSpelled "/usr/lib/piglit/bin" :=
  .of_mem (⟨by decide, by decide, by decide⟩ : OutsideNumbers '/') (by decide)

end Variables

/-! ## Settings that are texts -/

/-- The settings that are texts. -/
inductive TextSetting where
  | platform
  | binDirectory
  deriving DecidableEq

namespace TextSetting

def setting : TextSetting → Setting
  | platform => .platform
  | binDirectory => .binDirectory

/-- The variable that gives the setting, as it is documented. -/
def variableName : TextSetting → String
  | platform => "PIGLIT_PLATFORM"
  | binDirectory => "PIGLIT_TEST_BIN_DIR"

/-- The setting that is this text. -/
def reading : (asked : TextSetting) → String → asked.setting.Value
  | platform, text => text
  | binDirectory, text => some text

private theorem key?_variableName (asked : TextSetting) :
    Variables.key? asked.variableName = some asked.setting.key := by
  cases asked <;> decide +kernel

private theorem reading_inj {asked : TextSetting} {text other : String} :
    asked.reading text = asked.reading other ↔ text = other := by
  cases asked with
  | platform => exact Iff.rfl
  | binDirectory => exact ⟨Option.some.inj, congrArg some⟩

/-- Whatever the text of a variable is taken for makes sense for a setting that is a text. -/
theorem convert_valueOf (asked : TextSetting) (text : String) :
    asked.setting.convert (Variables.valueOf text) =
      .ok (asked.reading (Variables.respelled text)) := by
  have writes := Variables.toText_valueOf text
  cases asked with
  | platform => exact writes
  | binDirectory => exact map_eq_ok_iff.mpr ⟨_, writes, rfl⟩

end TextSetting

namespace CommandLine

variable {line : CommandLine} {invocation : Invocation} {settings : Settings} {test : ExecTest}

/-- An option that is not given leaves room for a change of what is loaded. -/
private theorem adjust_put {setting : Setting} (noOption : line.said? setting = none)
    (given : setting.Value) (loaded : Settings) :
    line.adjust (setting.put given loaded) = setting.put given (line.adjust loaded) := by
  refine Setting.ext_value fun other => ?_
  rw [value_adjust]
  by_cases own : other = setting
  · subst own
    rw [noOption, Setting.value_put_self, Setting.value_put_self]
    rfl
  · rw [Setting.value_put_of_ne own, Setting.value_put_of_ne own, value_adjust]

/-- Without an option the setting is the text of its variable, written anew. -/
theorem value_of_variable (prepared : line.prepare invocation = .ok (settings, test))
    {asked : TextSetting} (noOption : line.said? asked.setting = none) {text : String}
    (given : Variables.text? invocation.environment asked.setting.key = some text) :
    asked.setting.value settings = asked.reading (Variables.respelled text) := by
  have ruled := prepare_ruled prepared asked.setting
  rw [Variables.said?, given] at ruled
  exact ruled.unique (.environment noOption rfl (asked.convert_valueOf text))

/-- A variable that was not set may be set to any text: the run is still prepared, and of its
settings that one is changed. -/
theorem prepare_put (prepared : line.prepare invocation = .ok (settings, test))
    {asked : TextSetting} (noOption : line.said? asked.setting = none)
    (fresh : Variables.text? invocation.environment asked.setting.key = none) (text : String) :
    ∃ changed, line.prepare
        { invocation with environment := invocation.environment.put asked.variableName text } =
      .ok (asked.setting.put (asked.reading (Variables.respelled text)) settings, changed) := by
  obtain ⟨loaded, loads, rfl, made⟩ := prepare_eq_ok prepared
  have splittable : ¬ line.Unsplittable := by
    intro unsplittable
    obtain ⟨error, refused⟩ := prepare_of_unsplittable loads unsplittable
    cases prepared.symm.trans refused
  rw [← adjust_put noOption]
  exact prepare_of_splittable
    (Settings.load_put asked.setting asked.key?_variableName fresh (asked.convert_valueOf text) loads)
    splittable

/-- Without an option a setting that is a text is what its variable says, written anew; it is the
text of the variable character for character exactly when this is written the way its value is
written, and so whenever it has a character that stands in no number and no truth value, such as a
slash. No text is refused: whatever it is, the run is prepared with it. -/
theorem text_setting_respelled (line : CommandLine) (invocation : Invocation) {settings : Settings}
    {test : ExecTest} (prepared : line.prepare invocation = .ok (settings, test))
    (asked : TextSetting) (noOption : line.said? asked.setting = none) :
    (∀ text, Variables.text? invocation.environment asked.setting.key = some text →
      asked.setting.value settings = asked.reading (Variables.respelled text) ∧
      (asked.setting.value settings = asked.reading text ↔ Variables.WellSpelled text) ∧
      ∀ character ∈ text.toList, OutsideNumbers character →
        asked.setting.value settings = asked.reading text) ∧
    (Variables.text? invocation.environment asked.setting.key = none →
      ∀ text, ∃ changed, line.prepare
          { invocation with environment := invocation.environment.put asked.variableName text } =
        .ok (asked.setting.put (asked.reading (Variables.respelled text)) settings, changed)) := by
  refine ⟨fun text given => ?_, prepare_put prepared noOption⟩
  have written := value_of_variable prepared noOption given
  have kept : asked.setting.value settings = asked.reading text ↔ Variables.WellSpelled text := by
    rw [written, TextSetting.reading_inj]
    exact Variables.respelled_eq_self_iff
  refine ⟨written, kept, ?_⟩
  intro character member outside
  exact kept.mpr (.of_mem outside member)

/-- A line without options, and variables with texts that look like numbers. -/
def bareLine : CommandLine := { name := "spec/fbo", command := .words "fbo" [] }

def numericNames : Invocation where
  arguments := []
  environment := .ofList [("PIGLIT_PLATFORM", "1.0"), ("PIGLIT_TEST_BIN_DIR", "007")]
  surroundings := ⟨.zero, "main"⟩

private theorem prepare_numericNames : ∃ settings test,
    bareLine.prepare numericNames = .ok (settings, test) := by
  have loads : Settings.load numericNames.files bareLine.config numericNames.environment =
      .ok { platform := ⟨"1"⟩, binDirectory := some "7" } :=
    toOption_eq_some_iff.mp (by decide +kernel)
  have splittable : ¬ bareLine.Unsplittable := by simp [Unsplittable, bareLine]
  exact ⟨_, prepare_of_splittable loads splittable⟩

/-- A number loses its zeros as a setting, but a word keeps all its characters. -/
theorem text_setting_respelled_numericNames : ∃ settings test,
    bareLine.prepare numericNames = .ok (settings, test) ∧ settings.platform = ⟨"1"⟩ ∧
      ¬ Variables.WellSpelled "1.0" := by
  obtain ⟨settings, test, prepared⟩ := prepare_numericNames
  have given : Variables.text? numericNames.environment "platform" = some "1.0" := by decide +kernel
  obtain ⟨written, kept, -⟩ :=
    (text_setting_respelled bareLine numericNames prepared .platform rfl).1 "1.0" given
  have short : Variables.respelled "1.0" = "1" := by decide +kernel
  have platform : settings.platform = ⟨"1"⟩ := by
    rw [← short]
    exact congrArg Platform.mk written
  refine ⟨settings, test, prepared, platform, fun wellSpelled => ?_⟩
  have same := written.symm.trans (kept.mpr wellSpelled)
  exact absurd (TextSetting.reading_inj.mp same) (by decide +kernel)

/-- Wherever no option is given, a setting is the text of its variable, character for character. -/
def TakesVerbatim (asked : TextSetting) : Prop :=
  ∀ (line : CommandLine) (invocation : Invocation) (settings : Settings) (test : ExecTest)
    (text : String), line.prepare invocation = .ok (settings, test) →
      line.said? asked.setting = none →
      invocation.environment.get? asked.variableName = some text →
      asked.setting.value settings = asked.reading text

private theorem not_takesVerbatim_of_respelled
    (prepared : line.prepare invocation = .ok (settings, test))
    {asked : TextSetting} (noOption : line.said? asked.setting = none) {text : String}
    (set : invocation.environment.get? asked.variableName = some text)
    (last : Variables.text? invocation.environment asked.setting.key = some text)
    (anew : Variables.respelled text ≠ text) : ¬ TakesVerbatim asked := by
  intro verbatim
  have kept := verbatim line invocation settings test text prepared noOption set
  have written := value_of_variable prepared noOption last
  exact anew (TextSetting.reading_inj.mp (written.symm.trans kept))

/-- A platform named `1.0` and a directory named `007` are not taken as they are. -/
theorem not_takesVerbatim : ¬ TakesVerbatim .platform ∧ ¬ TakesVerbatim .binDirectory := by
  obtain ⟨settings, test, prepared⟩ := prepare_numericNames
  have shorter : Variables.respelled "1.0" ≠ "1.0" ∧ Variables.respelled "007" ≠ "007" := by
    decide +kernel
  exact ⟨not_takesVerbatim_of_respelled prepared rfl (by decide +kernel) (by decide +kernel) shorter.1,
    not_takesVerbatim_of_respelled prepared rfl (by decide +kernel) (by decide +kernel) shorter.2⟩

end CommandLine

end Verdict
