import Verdict.Proofs.Fallible
import Verdict.Proofs.Map.Lookup
import Verdict.Settings.Load
/-! Where loaded settings come from. Every source says something of a setting or nothing, and what
the environment says covers what the file says. A key with steps gives a part of a setting; it may
cover what was said of the whole, but then the settings cannot be loaded. So of settings that were
loaded each one is what the last source said of it, or its default. -/
namespace Verdict

/-! ### What the sources say -/

namespace Variables

/-- The keys that variables set, each with the text it is set to. -/
def texts (environment : OrderedMap String) : List (String × String) :=
  environment.entries.filterMap fun (name, text) => (key? name).map (·, text)

/-- The text of the variable that sets a key; of several variables with this key the last one. -/
def text? (environment : OrderedMap String) (key : String) : Option String :=
  lastValue? (texts environment) key

/-- What the environment says of a setting. -/
def said? (environment : OrderedMap String) (key : String) : Option ConfigValue :=
  (text? environment key).map valueOf

/-- What is assigned for the text of a variable. -/
def configured (text : String) : Configured := ⟨valueOf text, some .environment⟩

private theorem assignments_eq (environment : OrderedMap String) : assignments environment =
    (OrderedMap.ofList ((texts environment).map (mapValue configured))).entries := by
  rw [assignments, texts, List.map_filterMap]
  congr 3
  funext ⟨name, text⟩
  rw [Option.map_map]
  rfl

/-- A variable with a key of its own is read after all others. -/
private theorem texts_put {environment : OrderedMap String} {name key : String}
    (sets : key? name = some key) (fresh : text? environment key = none) (text : String) :
    texts (environment.put name text) = texts environment ++ [(key, text)] := by
  have given (text : String) : (key? name).map (·, text) = some (key, text) := by
    rw [sets, Option.map_some]
  have absent : name ∉ environment.names := by
    intro listed
    obtain ⟨⟨name, old⟩, member, rfl⟩ := List.mem_map.mp listed
    refine absent_of_lastValue? fresh (List.mem_map.mpr ⟨(key, old), ?_, rfl⟩)
    exact List.mem_filterMap.mpr ⟨(name, old), member, given old⟩
  rw [texts, OrderedMap.entries_put_of_absent absent, List.filterMap_append]
  exact congrArg _ (List.filterMap_cons_some (given text))

private theorem text?_put {environment : OrderedMap String} {name key : String}
    (sets : key? name = some key) (fresh : text? environment key = none) (text other : String) :
    text? (environment.put name text) other =
      if other = key then some text else text? environment other := by
  rw [text?, texts_put sets fresh, lastValue?_concat]
  rfl

private theorem assignments_put {environment : OrderedMap String} {name key : String}
    (sets : key? name = some key) (fresh : text? environment key = none) (text : String) :
    assignments (environment.put name text) =
      assignments environment ++ [(key, configured text)] := by
  have absent : key ∉ (OrderedMap.ofList ((texts environment).map (mapValue configured))).names := by
    rw [OrderedMap.names_ofList, List.mem_eraseDups, List.map_map]
    exact absent_of_lastValue? fresh
  rw [assignments_eq, texts_put sets fresh, List.map_append, OrderedMap.ofList_append,
    assignments_eq]
  exact OrderedMap.entries_put_of_absent absent _

private theorem lastValue?_assignments (environment : OrderedMap String) (key : String) :
    lastValue? (assignments environment) key = (text? environment key).map configured := by
  rw [assignments_eq, lastValue?_of_distinct (OrderedMap.distinct _)]
  change (OrderedMap.ofList _).get? key = _
  rw [OrderedMap.get?_ofList, lastValue?_mapValue]
  rfl

end Variables

/-- What a file says of a setting; nothing if no file is named. -/
def SettingsFile.said? (files : Files) (file : Option String) (key : String) :
    Option ConfigValue :=
  match Settings.fileAssignments files file with
  | .error _ => none
  | .ok assignments => (lastValue? assignments key).map Configured.value

/-! ### What stands under a key -/

/-- A value that is put together from parts. -/
def ConfigValue.IsCompound (value : ConfigValue) : Prop := value = .list ∨ value = .table

private theorem KeyPath.readSteps?_eq_nil {text : List Char} (none : readSteps? text = some []) :
    text = [] := by
  cases text with
  | nil => rfl
  | cons mark rest =>
    rw [readSteps?] at none
    simp only at none
    repeat' split at none
    all_goals simp_all

/-- A key that gives no part is its own name. -/
private theorem KeyPath.name_of_steps {text : String} (whole : (ofText text).steps = []) :
    (ofText text).name = text := by
  simp only [ofText] at whole ⊢
  split at whole <;> rename_i read
  · split at whole
    · rename_i unnamed
      simp [unnamed]
    · rename_i named
      obtain rfl : _ = [] := whole
      have ended : text.toList.dropWhile isNameCharacter = [] := readSteps?_eq_nil read
      have all : text.toList.takeWhile isNameCharacter = text.toList := by
        have parts := List.takeWhile_append_dropWhile (p := isNameCharacter) (l := text.toList)
        rwa [ended, List.append_nil] at parts
      rw [all] at named
      simp [all, named]
  · simp

namespace Layers

variable {key : String}

/-- A part that is given makes what stands under its name a compound value. -/
private theorem compound_covered (before : Option Configured) {steps : List KeyStep}
    (part : steps ≠ []) (given : Configured) : (covered before steps given).value.IsCompound := by
  cases steps with
  | nil => exact absurd rfl part
  | cons step steps =>
    cases step with
    | member name => exact .inr rfl
    | element index =>
      simp only [covered]
      split <;> exact .inl rfl

private theorem value_covered_whole (before : Option Configured) (given : Configured) :
    (covered before [] given).value = given.value := by
  simp only [covered]
  split
  · rename_i table
    exact table.symm
  · rfl

/-- Under a key without steps stands what was assigned to it last, unless a part of it was assigned
later. -/
theorem get?_assignAll (simple : KeyPath.ofText key = ⟨key, []⟩) (assignments : List Assignment) :
    ((assignAll .empty assignments).get? key).map Configured.value =
        (lastValue? assignments key).map Configured.value ∨
      ∃ configured, (assignAll .empty assignments).get? key = some configured ∧
        configured.value.IsCompound := by
  induction assignments using List.reverseRecOn with
  | nil => exact .inl rfl
  | append_singleton assignments assignment ih =>
    obtain ⟨text, given⟩ := assignment
    have last : assignAll .empty (assignments ++ [(text, given)]) =
        (assignAll .empty assignments).assign (text, given) := by
      rw [assignAll, List.foldl_append]
      rfl
    rw [last, get?_assign, lastValue?_concat]
    by_cases same : key = (KeyPath.ofText text).name
    · rw [if_pos same]
      by_cases whole : (KeyPath.ofText text).steps = []
      · have isKey : key = text := same.trans (KeyPath.name_of_steps whole)
        rw [if_pos isKey, whole, Option.map_some, Option.map_some, value_covered_whole]
        exact .inl rfl
      · exact .inr ⟨_, rfl, compound_covered _ whole given⟩
    · have other : key ≠ text := by
        intro isKey
        rw [← isKey, simple] at same
        exact same rfl
      rw [if_neg same, if_neg other]
      exact ih

end Layers

/-! ### What is read -/

/-- The settings that sources can set. -/
inductive Setting where
  | execute
  | verbose
  | valgrind
  | platform
  | binDirectory
  deriving DecidableEq

namespace Setting

/-- The key of a setting. -/
def key : Setting → String
  | execute => "execute"
  | verbose => "verbose"
  | valgrind => "valgrind"
  | platform => "platform"
  | binDirectory => "test_bin_dir"

/-- What a setting can be set to. -/
def Value : Setting → Type
  | execute | verbose | valgrind => Bool
  | platform => String
  | binDirectory => Option String

/-- What a setting is if no source sets it. -/
def default : (setting : Setting) → setting.Value
  | execute => true
  | verbose | valgrind => false
  | platform => ""
  | binDirectory => none

/-- What a setting is. -/
def value : (setting : Setting) → Settings → setting.Value
  | execute, settings => settings.execute
  | verbose, settings => settings.verbose
  | valgrind, settings => settings.valgrind
  | platform, settings => settings.platform.name
  | binDirectory, settings => settings.binDirectory

/-- Settings with one of them changed. -/
def put : (setting : Setting) → setting.Value → Settings → Settings
  | execute, given, settings => { settings with execute := given }
  | verbose, given, settings => { settings with verbose := given }
  | valgrind, given, settings => { settings with valgrind := given }
  | platform, given, settings => { settings with platform := ⟨given⟩ }
  | binDirectory, given, settings => { settings with binDirectory := given }

/-- What a configured value is taken for, if it makes sense for a setting. -/
def convert : (setting : Setting) → ConfigValue → Except String setting.Value
  | execute, given | verbose, given | valgrind, given => given.toBool
  | platform, given => given.toText
  | binDirectory, given => some <$> given.toText

private theorem value_default (setting : Setting) : setting.value {} = setting.default := by
  cases setting <;> rfl

theorem value_put_self (setting : Setting) (given : setting.Value) (settings : Settings) :
    setting.value (setting.put given settings) = given := by
  cases setting <;> rfl

theorem value_put_of_ne {setting other : Setting} (apart : other ≠ setting)
    (given : setting.Value) (settings : Settings) :
    other.value (setting.put given settings) = other.value settings := by
  cases setting <;> cases other <;> first | rfl | contradiction

private theorem simple_key (setting : Setting) :
    KeyPath.ofText setting.key = ⟨setting.key, []⟩ := by
  cases setting <;> decide +kernel

private theorem key_injective {setting other : Setting} (same : setting.key = other.key) :
    setting = other := by
  cases setting <;> cases other <;> first | rfl | exact absurd same (by decide)

/-- No setting can be put together from parts. -/
private theorem convert_compound (setting : Setting) {given : ConfigValue}
    (compound : given.IsCompound) (value : setting.Value) : setting.convert given ≠ .ok value := by
  intro converts
  rcases compound with rfl | rfl <;> cases setting <;> cases converts

/-- Settings are known by what each of them is. -/
theorem ext_value {left right : Settings}
    (same : ∀ setting : Setting, setting.value left = setting.value right) : left = right := by
  obtain ⟨execute, verbose, valgrind, ⟨platform⟩, directory⟩ := left
  obtain rfl : execute = _ := same .execute
  obtain rfl : verbose = _ := same .verbose
  obtain rfl : valgrind = _ := same .valgrind
  obtain rfl : platform = _ := same .platform
  obtain rfl : directory = _ := same .binDirectory
  rfl

end Setting

namespace Settings

variable {settings next : Settings} {configured : Configured}

/-- A value under the key of a setting is put there if it makes sense. -/
theorem read_key_iff (setting : Setting) :
    settings.read setting.key configured = .ok next ↔ ∃ given,
      setting.convert configured.value = .ok given ∧ setting.put given settings = next := by
  have step {α : Type} {converted : Except String α} {cause : String → SettingsCause}
      {make : α → Settings} : (do return make (← converted.mapError cause)) = .ok next ↔
        ∃ given, converted = .ok given ∧ make given = next := by
    simp only [bind_eq_ok_iff, pure_eq_ok_iff, mapError_eq_ok_iff]
  cases setting with
  | execute => exact step
  | verbose => exact step
  | valgrind => exact step
  | platform => exact step
  | binDirectory =>
    refine step.trans ?_
    constructor
    · rintro ⟨text, converts, rfl⟩
      exact ⟨some text, map_eq_ok_iff.mpr ⟨text, converts, rfl⟩, rfl⟩
    · rintro ⟨given, converts, rfl⟩
      obtain ⟨text, found, rfl⟩ := map_eq_ok_iff.mp converts
      exact ⟨text, found, rfl⟩

private theorem read_of_unknown {key : String} (unknown : ∀ setting : Setting, key ≠ setting.key) :
    settings.read key configured = .ok settings := by
  unfold read
  split
  · exact absurd rfl (unknown .execute)
  · exact absurd rfl (unknown .verbose)
  · exact absurd rfl (unknown .valgrind)
  · exact absurd rfl (unknown .platform)
  · exact absurd rfl (unknown .binDirectory)
  · rfl

/-- Of entries that never repeat a name the one under the key of a setting decides what the setting
becomes. The induction is on the entries; once that key was met, none is left that has it. -/
private theorem value_of_foldlM (setting : Setting) {entries : List (String × Configured)}
    (distinct : (entries.map Prod.fst).Nodup) {first last : Settings}
    (reads : entries.foldlM (fun settings (key, configured) => settings.read key configured) first =
      .ok last) :
    (∃ configured, entries.lookup setting.key = some configured ∧
        setting.convert configured.value = .ok (setting.value last)) ∨
      (entries.lookup setting.key = none ∧ setting.value last = setting.value first) := by
  induction entries generalizing first with
  | nil =>
    rw [pure_eq_ok_iff.mp reads]
    exact .inr ⟨rfl, rfl⟩
  | cons entry entries ih =>
    obtain ⟨key, configured⟩ := entry
    obtain ⟨absent, distinctOthers⟩ := List.nodup_cons.mp distinct
    rw [List.foldlM_cons, bind_eq_ok_iff] at reads
    obtain ⟨next, read, others⟩ := reads
    change first.read key configured = .ok next at read
    by_cases own : setting.key = key
    · subst own
      obtain ⟨given, converts, rfl⟩ := (read_key_iff setting).mp read
      rcases ih distinctOthers others with ⟨other, found, -⟩ | ⟨-, kept⟩
      · rw [lookup_eq_none_of_absent absent] at found
        cases found
      · refine .inl ⟨configured, List.lookup_cons_self, ?_⟩
        rw [kept, Setting.value_put_self, converts]
    · have kept : setting.value next = setting.value first := by
        by_cases known : ∃ other : Setting, key = other.key
        · obtain ⟨other, rfl⟩ := known
          obtain ⟨given, -, rfl⟩ := (read_key_iff other).mp read
          refine Setting.value_put_of_ne (fun same => own ?_) given first
          rw [same]
        · rw [read_of_unknown (not_exists.mp known)] at read
          rw [Except.ok.inj read]
      rw [List.lookup_cons, beq_false_of_ne own, ← kept]
      exact ih distinctOthers others

end Settings

/-! ### What is loaded -/

/-- What a setting is, and which source it comes from: of the command line, the environment and the
file the first one that says something of it, or else its default. -/
inductive Setting.Ruled (setting : Setting) (option : Option setting.Value)
    (environment file : Option ConfigValue) : setting.Value → Prop where
  | commandLine {value : setting.Value} (given : option = some value) :
      Ruled setting option environment file value
  | environment {said : ConfigValue} {value : setting.Value} (noOption : option = none)
      (given : environment = some said) (converts : setting.convert said = .ok value) :
      Ruled setting option environment file value
  | file {said : ConfigValue} {value : setting.Value} (noOption : option = none)
      (noVariable : environment = none) (given : file = some said)
      (converts : setting.convert said = .ok value) : Ruled setting option environment file value
  | default (noOption : option = none) (noVariable : environment = none) (noEntry : file = none) :
      Ruled setting option environment file setting.default

/-- The sources leave no choice. -/
theorem Setting.Ruled.unique {setting : Setting} {option : Option setting.Value}
    {environment file : Option ConfigValue} {value other : setting.Value}
    (ruled : setting.Ruled option environment file value)
    (alsoRuled : setting.Ruled option environment file other) : value = other := by
  cases ruled <;> cases alsoRuled <;> simp_all

namespace Settings

variable {files : Files} {file : Option String} {environment : OrderedMap String}
  {settings : Settings}

/-- Settings are loaded from layers: what the file assigns, then what the environment assigns. -/
theorem load_eq_ok_iff : load files file environment = .ok settings ↔
    ∃ assignments, fileAssignments files file = .ok assignments ∧
      ofLayers (Layers.assignAll .empty (assignments ++ Variables.assignments environment)) =
        .ok settings := by
  simp only [load, mapError_eq_ok_iff, bind_eq_ok_iff, Layers.assignAll, List.foldl_append]

/-- Each setting that was loaded is what the environment says of it, or else what the file says, or
else its default. -/
theorem load_ruled (setting : Setting) (loads : load files file environment = .ok settings) :
    setting.Ruled none (Variables.said? environment setting.key)
      (SettingsFile.said? files file setting.key) (setting.value settings) := by
  obtain ⟨assignments, read, made⟩ := load_eq_ok_iff.mp loads
  let layers := Layers.assignAll .empty (assignments ++ Variables.assignments environment)
  have fileSaid : SettingsFile.said? files file setting.key =
      (lastValue? assignments setting.key).map Configured.value := by
    rw [SettingsFile.said?, read]
  have decided := value_of_foldlM setting layers.distinct made
  rcases Layers.get?_assignAll setting.simple_key (assignments ++ Variables.assignments environment)
    with told | ⟨configured, found, compound⟩
  · have said : (layers.get? setting.key).map Configured.value =
        (Variables.said? environment setting.key).or
          (SettingsFile.said? files file setting.key) := by
      rw [told, lastValue?_append, Variables.lastValue?_assignments, fileSaid, Variables.said?]
      cases Variables.text? environment setting.key <;> rfl
    rcases decided with ⟨configured, found, converts⟩ | ⟨absent, kept⟩
    · change layers.get? setting.key = _ at found
      rw [found, Option.map_some] at said
      cases given : Variables.said? environment setting.key with
      | some value =>
        rw [given, Option.some_or, Option.some.injEq] at said
        exact .environment rfl rfl (said ▸ converts)
      | none =>
        rw [given, Option.none_or] at said
        exact .file rfl rfl said.symm converts
    · change layers.get? setting.key = none at absent
      rw [absent, Option.map_none, eq_comm, Option.or_eq_none_iff] at said
      rw [kept, Setting.value_default]
      exact .default rfl said.1 said.2
  · rcases decided with ⟨other, same, converts⟩ | ⟨absent, -⟩
    · cases found.symm.trans same
      exact absurd converts (setting.convert_compound compound _)
    · cases found.symm.trans absent

/-- Layers make settings if what stands under the key of each setting makes sense for it. -/
theorem ofLayers_accepted_iff {layers : Layers} : (∃ settings, ofLayers layers = .ok settings) ↔
    ∀ (setting : Setting) (configured : Configured), layers.get? setting.key = some configured →
      ∃ given, setting.convert configured.value = .ok given := by
  have step (settings : Settings) (entry : String × Configured) :
      (∃ next, settings.read entry.1 entry.2 = .ok next) ↔ ∀ setting : Setting,
        entry.1 = setting.key → ∃ given, setting.convert entry.2.value = .ok given := by
    obtain ⟨key, configured⟩ := entry
    constructor
    · rintro ⟨next, read⟩ setting rfl
      obtain ⟨given, converts, -⟩ := (read_key_iff setting).mp read
      exact ⟨given, converts⟩
    · intro converts
      by_cases known : ∃ setting : Setting, key = setting.key
      · obtain ⟨setting, rfl⟩ := known
        obtain ⟨given, converted⟩ := converts setting rfl
        exact ⟨_, (read_key_iff setting).mpr ⟨given, converted, rfl⟩⟩
      · exact ⟨settings, read_of_unknown (not_exists.mp known)⟩
  refine (foldlM_accepted_iff step layers.entries {}).trans ?_
  constructor
  · intro all setting configured found
    exact all _ ((mem_iff_lookup layers.distinct).mpr found) setting rfl
  · rintro all ⟨key, configured⟩ member setting rfl
    exact all setting configured ((mem_iff_lookup layers.distinct).mp member)

/-- One more variable, with a key that no other variable sets and a text that makes sense for it,
changes the setting of that key and nothing else. -/
theorem load_put (setting : Setting) {name text : String} {given : setting.Value}
    (sets : Variables.key? name = some setting.key)
    (fresh : Variables.text? environment setting.key = none)
    (converts : setting.convert (Variables.valueOf text) = .ok given)
    (loads : load files file environment = .ok settings) :
    load files file (environment.put name text) = .ok (setting.put given settings) := by
  obtain ⟨next, nextLoads⟩ : ∃ next, load files file (environment.put name text) = .ok next := by
    obtain ⟨assignments, read, made⟩ := load_eq_ok_iff.mp loads
    have before := ofLayers_accepted_iff.mp ⟨settings, made⟩
    obtain ⟨next, nextMade⟩ := ofLayers_accepted_iff.mpr fun other configured
        (found : ((Layers.assignAll .empty (assignments ++ Variables.assignments environment)).assign
          (setting.key, Variables.configured text)).get? other.key = some configured) => by
      rw [Layers.get?_assign, setting.simple_key] at found
      by_cases own : other.key = setting.key
      · obtain rfl := Setting.key_injective own
        rw [if_pos rfl, Option.some.injEq] at found
        exact ⟨given, by rw [← found, Layers.value_covered_whole]; exact converts⟩
      · rw [if_neg own] at found
        exact before other configured found
    refine ⟨next, load_eq_ok_iff.mpr ⟨assignments, read, ?_⟩⟩
    rw [Variables.assignments_put sets fresh, ← List.append_assoc, Layers.assignAll,
      List.foldl_append]
    exact nextMade
  rw [nextLoads]
  refine congrArg _ (Setting.ext_value fun other => ?_)
  have ruled := load_ruled other nextLoads
  rw [Variables.said?, Variables.text?_put sets fresh] at ruled
  by_cases own : other = setting
  · subst own
    rw [if_pos rfl] at ruled
    rw [Setting.value_put_self]
    exact ruled.unique (.environment rfl rfl converts)
  · rw [if_neg fun same => own (Setting.key_injective same)] at ruled
    rw [Setting.value_put_of_ne own]
    exact ruled.unique (load_ruled other loads)

end Settings

end Verdict
