import Verdict.Proofs.App.ExitCode
import Verdict.Proofs.Settings.Layering
/-! The settings that a run of the program is made with. What the command line says of a setting
covers what was loaded, and it can turn a flag one way only: a dry run is not executed, and
announcements and the memory checker can be turned on but not off. The test is made with the settings
that result, and is run under them. -/
namespace Verdict

namespace CommandLine

/-- What a command line says of a setting. -/
def said? (line : CommandLine) : (setting : Setting) → Option setting.Value
  | .execute => if line.dryRun then some false else none
  | .verbose => if line.verbose then some true else none
  | .valgrind => if line.valgrind then some true else none
  | .platform => line.platform
  | .binDirectory => line.binDirectory.map some

/-- Setting by setting, the command line covers what was loaded. -/
theorem value_adjust (line : CommandLine) (loaded : Settings) (setting : Setting) :
    setting.value (line.adjust loaded) = (line.said? setting).getD (setting.value loaded) := by
  cases setting with
  | execute =>
    cases dry : line.dryRun <;>
    · simp only [Setting.value, adjust, said?, dry, Bool.not_true, Bool.not_false, Bool.and_true,
        Bool.and_false]
      rfl
  | verbose =>
    cases flag : line.verbose <;>
    · simp only [Setting.value, adjust, said?, flag, Bool.or_true, Bool.or_false]
      rfl
  | valgrind =>
    cases flag : line.valgrind <;>
    · simp only [Setting.value, adjust, said?, flag, Bool.or_true, Bool.or_false]
      rfl
  | platform =>
    cases given : line.platform <;>
    · simp only [Setting.value, adjust, said?, given]
      rfl
  | binDirectory =>
    cases given : line.binDirectory <;>
    · simp only [Setting.value, adjust, said?, given]
      rfl

end CommandLine

/-- The command line rules over what was loaded without it. -/
theorem Setting.Ruled.covered {setting : Setting} {environment file : Option ConfigValue}
    {loaded : setting.Value} (ruled : setting.Ruled none environment file loaded)
    (option : Option setting.Value) :
    setting.Ruled option environment file (option.getD loaded) := by
  cases option with
  | some given => exact .commandLine rfl
  | none => exact ruled

namespace CommandLine

variable {line : CommandLine} {invocation : Invocation} {settings : Settings} {test : ExecTest}

/-- A prepared run has loaded its settings and split its command, and made the test from both. -/
theorem prepare_eq_ok (prepared : line.prepare invocation = .ok (settings, test)) :
    ∃ loaded, Settings.load invocation.files line.config invocation.environment = .ok loaded ∧
      settings = line.adjust loaded ∧ line.test settings = .ok test := by
  obtain ⟨loaded, loads, made⟩ := bind_eq_ok_iff.mp prepared
  obtain ⟨made', tested, same⟩ := bind_eq_ok_iff.mp made
  cases pure_eq_ok_iff.mp same
  exact ⟨loaded, mapError_eq_ok_iff.mp loads, rfl, mapError_eq_ok_iff.mp tested⟩

/-- Each setting of a prepared run comes from the first source that says something of it. -/
theorem prepare_ruled (prepared : line.prepare invocation = .ok (settings, test))
    (setting : Setting) :
    setting.Ruled (line.said? setting) (Variables.said? invocation.environment setting.key)
      (SettingsFile.said? invocation.files line.config setting.key) (setting.value settings) := by
  obtain ⟨loaded, loads, rfl, -⟩ := prepare_eq_ok prepared
  rw [value_adjust]
  exact (Settings.load_ruled setting loads).covered _

/-- A test is made for the platform of the settings, in their directory if there is one. -/
theorem test_eq_ok (made : line.test settings = .ok test) :
    ∃ words, line.argv = .ok words ∧
      test.command = settings.binDirectory.elim words (ExecTest.resolve · words) ∧
      test.skipped = settings.platform.skips test.command := by
  rw [CommandLine.test] at made
  cases split : line.argv with
  | error error =>
    rw [split] at made
    cases made
  | ok words =>
    rw [split] at made
    cases made
    refine ⟨words, rfl, ?_⟩
    cases settings.binDirectory <;> exact ⟨rfl, rfl⟩

/-- A test is conducted by starting what its run starts, whatever comes of it. -/
theorem attempts_conduct (test : ExecTest) (host : Host) (settings : Settings)
    (surroundings : Surroundings) (path : String) :
    ((test.toTestCase host).conduct settings {} surroundings path).attempts =
      (test.run settings host).attempts := by
  have course : ((test.toTestCase host).course settings {} surroundings.elapsed).attempts =
      (test.run settings host).attempts := by
    simp only [TestCase.course, ExecTest.toTestCase]
    cases (test.run settings host).result <;> rfl
  rw [TestCase.conduct, ← course]
  split <;> rfl

theorem attempts_run (prepared : line.prepare invocation = .ok (settings, test)) (sink : Sink) :
    (line.run invocation sink).attempts =
      if settings.execute then (test.run settings invocation.host).attempts else [] := by
  have planned : (line.run invocation sink).attempts =
      ((test.toTestCase invocation.host).plan settings {} invocation.surroundings
        line.name).conduct.elim [] Conduct.attempts := by
    simp only [run, prepared]
    split <;> rfl
  rw [planned, TestCase.plan]
  split
  · exact attempts_conduct _ _ _ _ _
  · rfl

/-- Two runs of the program are told the same of a setting. -/
structure ToldAlike (setting : Setting) (line other : CommandLine)
    (invocation otherInvocation : Invocation) : Prop where
  commandLine : other.said? setting = line.said? setting
  environment : Variables.said? otherInvocation.environment setting.key =
    Variables.said? invocation.environment setting.key
  file : SettingsFile.said? otherInvocation.files other.config setting.key =
    SettingsFile.said? invocation.files line.config setting.key

/-- Of every run of the program that gets as far as its test, each setting comes from the command
line if that says something of it, else from the environment, else from the file, and else it is the
default. What the sources say of other settings makes no difference: wherever they say the same of
this one, it is the same. With these settings it is decided whether the command stands in a directory
and whether it is skipped, and under them the test is run. -/
theorem settings_follow_sources (line : CommandLine) (invocation : Invocation)
    {settings : Settings} {test : ExecTest}
    (prepared : line.prepare invocation = .ok (settings, test)) :
    (∀ setting : Setting,
      setting.Ruled (line.said? setting) (Variables.said? invocation.environment setting.key)
        (SettingsFile.said? invocation.files line.config setting.key) (setting.value settings)) ∧
    (∀ (other : CommandLine) (otherInvocation : Invocation) (otherSettings : Settings)
        (otherTest : ExecTest), other.prepare otherInvocation = .ok (otherSettings, otherTest) →
      ∀ setting : Setting, ToldAlike setting line other invocation otherInvocation →
        setting.value otherSettings = setting.value settings) ∧
    (∃ words, line.argv = .ok words ∧
      test.command = settings.binDirectory.elim words (ExecTest.resolve · words) ∧
      test.skipped = settings.platform.skips test.command) ∧
    ∀ sink, (line.run invocation sink).attempts =
      if settings.execute then (test.run settings invocation.host).attempts else [] := by
  refine ⟨prepare_ruled prepared, fun other otherInvocation otherSettings otherTest
    otherPrepared setting alike => ?_, ?_, attempts_run prepared⟩
  · have ruled := prepare_ruled otherPrepared setting
    rw [alike.commandLine, alike.environment, alike.file] at ruled
    exact ruled.unique (prepare_ruled prepared setting)
  · obtain ⟨_, _, _, made⟩ := prepare_eq_ok prepared
    exact test_eq_ok made

/-- A line that chooses the platform, before a program that cannot run on it. -/
def gbmLine : CommandLine :=
  { name := "spec/glean", command := .words "glean" ["-t", "basic"], config := some "piglit"
    platform := some "gbm" }

/-- A file and an environment that agree on nothing: `execute` makes no sense in the file, and one
variable is written in small letters. -/
def quarrellingSources : Invocation where
  arguments := []
  files path := if path = "piglit.toml" then
    some "execute = 'sometimes'\nverbose = 1\nvalgrind = true\nplatform = 'x11'\ntest_bin_dir = 'b'\n"
    else none
  environment := .ofList [("PIGLIT_EXECUTE", "yes"), ("piglit_verbose", "OFF"), ("HOME", "/"),
    ("PIGLIT_TEST_BIN_DIR", "/opt/piglit")]
  surroundings := ⟨.zero, "main"⟩

/-- The environment covers the file, the line covers both, and the test is made from what results. -/
theorem settings_follow_quarrellingSources :
    let settings : Settings :=
      { valgrind := true, platform := .gbm, binDirectory := some "/opt/piglit" }
    ∃ test, gbmLine.prepare quarrellingSources = .ok (settings, test) ∧
      Setting.verbose.Ruled none (some (.text "OFF")) (some (.int 1)) false ∧
      test.command = ["/opt/piglit/glean", "-t", "basic"] ∧ test.skipped = true ∧
      (gbmLine.run quarrellingSources {}).attempts = [] := by
  intro settings
  have loads : Settings.load quarrellingSources.files gbmLine.config
      quarrellingSources.environment = .ok { settings with platform := ⟨"x11"⟩ } :=
    toOption_eq_some_iff.mp (by decide +kernel)
  have splittable : ¬ gbmLine.Unsplittable := by simp [Unsplittable, gbmLine]
  obtain ⟨test, prepared⟩ := prepare_of_splittable loads splittable
  obtain ⟨ruled, -, ⟨words, split, command, skipped⟩, attempts⟩ :=
    settings_follow_sources gbmLine quarrellingSources prepared
  cases split
  have resolved : test.command = ["/opt/piglit/glean", "-t", "basic"] :=
    command.trans (by decide +kernel)
  have skips : test.skipped = true := by
    rw [skipped, resolved]
    decide +kernel
  have said : Variables.said? quarrellingSources.environment "verbose" = some (.text "OFF") := by
    decide +kernel
  have written : SettingsFile.said? quarrellingSources.files gbmLine.config "verbose" =
      some (.int 1) := by
    decide +kernel
  have verbose := ruled .verbose
  rw [Setting.key, said, written] at verbose
  refine ⟨test, prepared, verbose, resolved, skips, ?_⟩
  obtain ⟨_, _, _, _, idle⟩ := @ExecTest.run_of_skipped test settings quarrellingSources.host skips
  rw [attempts]
  exact idle

end CommandLine

end Verdict
