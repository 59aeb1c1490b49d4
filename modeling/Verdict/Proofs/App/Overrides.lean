import Mathlib.Data.List.Forall2
import Verdict.CommandLine
import Verdict.Proofs.App.Sources
import Verdict.Proofs.Exec.Overrides
import Verdict.Proofs.Exec.Retries
import Verdict.Proofs.Fallible
import Verdict.Proofs.Process.Environment
/-! The overrides of a test from where they are given, in code or on the command line, to where they
are seen, by processes and in records. Of a name that is given several times the last value counts and
the first place: processes see the values, records show both. -/
namespace Verdict

/-! ### Variables on the command line

The option for environment variables may be given any number of times and in several spellings, its
text attached to it or in the next argument. Of a command line that is followed the variables are
what these texts say, in their order: each text is parted at its first equals sign, and the name in
front of it is not empty. -/

/-- The name and the value that a text says, parted at its first equals sign. -/
def SaysOverride (text : String) (pair : String × String) : Prop :=
  VariableName pair.1 ∧ text = variableText pair

private theorem saysOverride_of_parseOverride {text : String} {pair : String × String}
    (parsed : parseOverride text = .ok pair) : SaysOverride text pair := by
  unfold parseOverride at parsed
  cases parted : text.toList.span (· ≠ '=') with
  | mk name rest =>
    rw [parted] at parsed
    cases rest with
    | nil => cases parsed
    | cons sign value =>
      obtain ⟨rfl, absent, whole⟩ := span_eq_cons_iff.mp parted
      simp only at parsed
      split at parsed
      · cases parsed
      · rename_i nonempty
        cases parsed
        refine ⟨⟨?_, by rwa [String.toList_ofList]⟩, ?_⟩
        · simpa using nonempty
        · rw [← String.toList_inj, toList_variableText, String.toList_ofList, String.toList_ofList]
          exact whole

namespace CommandLine

/-- What stands behind the name or the letter of the option: nothing, if its text is the next
argument, or the text, perhaps behind an equals sign. -/
def attachedText : List Char → List String × Bool
  | [] => ([], true)
  | '=' :: text => ([String.ofList text], false)
  | text => ([String.ofList text], false)

/-- What an argument with two dashes asks for, named up to its first equals sign. -/
def askedByName (option : List Char) : List String × Bool :=
  let (name, rest) := option.span (· ≠ '=')
  if String.ofList name = "env" then attachedText rest else ([], false)

/-- What an argument with one dash asks for: letters of flags may stand before the letter `e`. -/
def askedByLetters (letters : List Char) : List String × Bool :=
  match letters.dropWhile (· ≠ 'e') with
  | [] => ([], false)
  | _ :: rest => attachedText rest

/-- The texts of overrides that an argument gives by itself, and whether the next one is another. -/
def asksOverride (argument : String) : List String × Bool :=
  match argument.toList with
  | '-' :: '-' :: option => askedByName option
  | '-' :: letters => askedByLetters letters
  | _ => ([], false)

/-- The texts of overrides that arguments give, in their order. If an option waits for its text, the
first argument is that text. -/
def overrideTexts : Bool → List String → List String
  | _, [] => []
  | true, text :: rest => text :: overrideTexts false rest
  | false, argument :: rest =>
    (asksOverride argument).1 ++ overrideTexts (asksOverride argument).2 rest

private theorem valueOption?_eq_override_iff {name : String} :
    valueOption? name = some .override ↔ name = "env" := by
  unfold valueOption?
  split <;> simp_all

namespace Draft

variable {draft next : Draft} {texts : List String} {waiting : Bool}

/-- The overrides of a draft are what these texts say, the last of which may still have to be
checked; or the option waits for a further text. -/
inductive Gathered (draft : Draft) : List String → Bool → Prop
  | checked {texts : List String} (said : List.Forall₂ SaysOverride texts draft.overrides)
      (other : ∀ value, draft.pending ≠ some (.override, value)) : Gathered draft texts false
  | unchecked {texts : List String} {text : String}
      (said : List.Forall₂ SaysOverride texts draft.overrides)
      (pending : draft.pending = some (.override, some text)) :
      Gathered draft (texts ++ [text]) false
  | waiting {texts : List String} (said : List.Forall₂ SaysOverride texts draft.overrides)
      (pending : draft.pending = some (.override, none)) : Gathered draft texts true

/-- What an option with a value adds to the texts of overrides. -/
def addedTexts (option : ValueOption) (text : String) : List String :=
  if option = .override then [text] else []

private theorem give_eq_ok {option : ValueOption} {text : String}
    (given : draft.give option text = .ok next)
    (said : List.Forall₂ SaysOverride texts draft.overrides) :
    List.Forall₂ SaysOverride (texts ++ addedTexts option text) next.overrides ∧
      next.pending = draft.pending := by
  unfold give at given
  unfold addedTexts
  split at given
  · rename_i isOverride
    rw [if_pos isOverride]
    split at given
    · rename_i pair parsed
      cases given
      exact ⟨List.rel_append said (.cons (saysOverride_of_parseOverride parsed) .nil), rfl⟩
    · cases given
  · rename_i other
    rw [if_neg other, List.append_nil]
    split at given
    · cases given
    · cases given
      exact ⟨said, rfl⟩

/-- A draft that is settled waits for nothing and has checked all texts. -/
private theorem Gathered.settle (gathered : Gathered draft texts waiting)
    (settled : draft.settle = .ok next) :
    waiting = false ∧ List.Forall₂ SaysOverride texts next.overrides ∧ next.pending = none := by
  unfold Draft.settle at settled
  cases gathered with
  | checked said other =>
    simp only at settled
    split at settled
    · cases settled
      exact ⟨rfl, said, rfl⟩
    · cases settled
    · rename_i option value pending
      obtain ⟨kept, none⟩ := give_eq_ok settled said
      have isOther : option ≠ .override := fun same => other _ (same ▸ pending)
      rw [addedTexts, if_neg isOther, List.append_nil] at kept
      exact ⟨rfl, kept, none⟩
  | unchecked said pending =>
    rw [pending] at settled
    exact ⟨rfl, give_eq_ok settled said⟩
  | waiting said pending =>
    rw [pending] at settled
    cases settled

private theorem Gathered.giveAttached (gathered : Gathered draft texts waiting)
    {option : ValueOption} {text : String} (given : draft.giveAttached option text = .ok next) :
    waiting = false ∧ Gathered next (texts ++ addedTexts option text) false := by
  obtain ⟨between, settled, given⟩ := bind_eq_ok_iff.mp given
  obtain ⟨idle, said, none⟩ := gathered.settle settled
  obtain ⟨said, unchanged⟩ := give_eq_ok given said
  refine ⟨idle, .checked said fun value pending => ?_⟩
  rw [unchanged, none] at pending
  cases pending

private theorem Gathered.await (gathered : Gathered draft texts waiting) {option : ValueOption}
    (awaited : draft.await option = .ok next) :
    waiting = false ∧ Gathered next texts (option = .override) := by
  obtain ⟨between, settled, awaited⟩ := bind_eq_ok_iff.mp awaited
  obtain ⟨idle, said, -⟩ := gathered.settle settled
  cases pure_eq_ok_iff.mp awaited
  refine ⟨idle, ?_⟩
  by_cases isOverride : option = .override
  · subst isOverride
    exact .waiting said rfl
  · rw [decide_eq_false isOverride]
    exact .checked said fun value pending => isOverride (by cases pending; rfl)

private theorem Gathered.raise (gathered : Gathered draft texts waiting) {flag : Flag}
    (raised : draft.raise flag = .ok next) : waiting = false ∧ Gathered next texts false := by
  obtain ⟨between, settled, raised⟩ := bind_eq_ok_iff.mp raised
  obtain ⟨idle, said, none⟩ := gathered.settle settled
  have kept : next.overrides = between.overrides ∧ next.pending = between.pending := by
    split at raised
    · cases raised
    · cases raised
    · split at raised
      · cases raised
      · cases raised
        exact ⟨rfl, rfl⟩
  refine ⟨idle, .checked (kept.1 ▸ said) fun value pending => ?_⟩
  rw [kept.2, none] at pending
  cases pending

private theorem Gathered.readLong (gathered : Gathered draft texts waiting) {option : List Char}
    (read : draft.readLong option = .ok next) :
    waiting = false ∧ Gathered next (texts ++ (askedByName option).1) (askedByName option).2 := by
  unfold Draft.readLong at read
  unfold askedByName
  cases parted : option.span (· ≠ '=') with
  | mk name rest =>
    rw [parted] at read
    simp only at read ⊢
    split at read
    · rename_i flag isFlag
      have other : String.ofList name ≠ "env" := by
        intro same
        rw [same] at isFlag
        cases isFlag
      rw [if_neg other, List.append_nil]
      exact gathered.raise read
    · cases read
    · rename_i asked noFlag isOption
      obtain ⟨idle, awaits⟩ := gathered.await read
      have named : String.ofList name = "env" ↔ asked = .override := by
        rw [← valueOption?_eq_override_iff, isOption, Option.some.injEq]
      refine ⟨idle, ?_⟩
      by_cases isOverride : asked = .override <;>
      simpa [named, isOverride, attachedText] using awaits
    · rename_i asked sign text noFlag isOption
      obtain ⟨idle, gives⟩ := gathered.giveAttached read
      obtain ⟨rfl, -, -⟩ := span_eq_cons_iff.mp parted
      have named : String.ofList name = "env" ↔ asked = .override := by
        rw [← valueOption?_eq_override_iff, isOption, Option.some.injEq]
      refine ⟨idle, ?_⟩
      by_cases isOverride : asked = .override <;>
      simpa [named, isOverride, attachedText, addedTexts] using gives
    · cases read

private theorem readLetters_option {rest : List Char}
    (read : draft.readLetters ('e' :: rest) = .ok next) :
    (rest = [] ∧ draft.await .override = .ok next) ∨
      ∃ text, attachedText rest = ([text], false) ∧
        draft.giveAttached .override text = .ok next := by
  unfold Draft.readLetters at read
  rw [if_pos rfl] at read
  split at read
  · exact .inl ⟨rfl, read⟩
  · exact .inr ⟨_, rfl, read⟩
  · rename_i nonempty noSign
    refine .inr ⟨_, ?_, read⟩
    unfold attachedText
    split <;> simp_all

private theorem readLetters_flag {letter : Char} {rest : List Char} (noOption : letter ≠ 'e')
    (read : draft.readLetters (letter :: rest) = .ok next) :
    ∃ flag between, draft.raise flag = .ok between ∧ between.readLetters rest = .ok next := by
  unfold Draft.readLetters at read
  rw [if_neg noOption] at read
  split at read
  · cases read
  · split at read
    · rename_i raised
      exact ⟨_, _, raised, read⟩
    · cases read

private theorem Gathered.readLetters {letters : List Char} (gathered : Gathered draft texts false)
    (read : draft.readLetters letters = .ok next) :
    Gathered next (texts ++ (askedByLetters letters).1) (askedByLetters letters).2 := by
  induction letters generalizing draft with
  | nil =>
    cases read
    simpa [askedByLetters] using gathered
  | cons letter rest ih =>
    by_cases isOption : letter = 'e'
    · subst isOption
      have asked : askedByLetters ('e' :: rest) = attachedText rest := by simp [askedByLetters]
      rw [asked]
      rcases readLetters_option read with ⟨rfl, awaited⟩ | ⟨text, attached, given⟩
      · simpa [attachedText] using (gathered.await awaited).2
      · rw [attached]
        exact (gathered.giveAttached given).2
    · have asked : askedByLetters (letter :: rest) = askedByLetters rest := by
        simp [askedByLetters, isOption]
      obtain ⟨flag, between, raised, read⟩ := readLetters_flag isOption read
      rw [asked]
      exact ih (gathered.raise raised).2 read

/-- An option that waits for its text lets no other option be read. -/
private theorem Gathered.idle_of_readLetters (gathered : Gathered draft texts waiting)
    {letter : Char} {rest : List Char} (read : draft.readLetters (letter :: rest) = .ok next) :
    waiting = false := by
  by_cases isOption : letter = 'e'
  · subst isOption
    rcases readLetters_option read with ⟨-, awaited⟩ | ⟨text, -, given⟩
    · exact (gathered.await awaited).1
    · exact (gathered.giveAttached given).1
  · obtain ⟨flag, between, raised, -⟩ := readLetters_flag isOption read
    exact (gathered.raise raised).1

private theorem asksOverride_of_value {argument : String}
    (noName : ∀ option, argument.toList ≠ '-' :: '-' :: option)
    (noLetters : ∀ letter rest, argument.toList ≠ '-' :: letter :: rest) :
    asksOverride argument = ([], false) := by
  unfold asksOverride
  split
  · rename_i option dashes
    exact absurd dashes (noName option)
  · rename_i letters _ dash
    cases letters with
    | nil => rfl
    | cons letter rest => exact absurd dash (noLetters letter rest)
  · rfl

/-- An argument that is a value checks nothing. -/
private theorem Gathered.hold (gathered : Gathered draft texts waiting) {option : ValueOption}
    (pending : draft.pending = some (option, none)) (value : String) :
    Gathered { draft with pending := some (option, some value) }
      (texts ++ if waiting then [value] else []) false := by
  cases gathered with
  | checked said other =>
    have isOther : option ≠ .override := fun same => other _ (same ▸ pending)
    have held : Gathered { draft with pending := some (option, some value) } texts false :=
      .checked said fun _ same => isOther (by cases same; rfl)
    simpa using held
  | unchecked said pendingToo =>
    rw [pending] at pendingToo
    cases pendingToo
  | waiting said pendingToo =>
    rw [pending] at pendingToo
    cases pendingToo
    exact .unchecked said rfl

/-- One argument gathers the texts that it gives, and after it the option waits if it asks for the
next argument. -/
private theorem Gathered.readArgument (gathered : Gathered draft texts waiting) {argument : String}
    (read : draft.readArgument argument = .ok next) :
    if waiting then Gathered next (texts ++ [argument]) false
    else Gathered next (texts ++ (asksOverride argument).1) (asksOverride argument).2 := by
  unfold Draft.readArgument at read
  split at read
  · rename_i option dashes
    have asked : asksOverride argument = askedByName option := by simp [asksOverride, dashes]
    obtain ⟨rfl, reads⟩ := gathered.readLong read
    simpa [asked] using reads
  · rename_i letter rest noName dash
    have asked : asksOverride argument = askedByLetters (letter :: rest) := by
      unfold asksOverride
      rw [dash]
      split <;> simp_all
    obtain rfl := gathered.idle_of_readLetters read
    simpa [asked] using gathered.readLetters read
  · rename_i noName noLetters
    split at read
    · rename_i option pending
      cases read
      have held := gathered.hold pending argument
      cases waiting with
      | true => exact held
      | false =>
        rw [asksOverride_of_value noName noLetters]
        exact held
    · cases read

/-- All arguments together gather the texts that they give, in their order. -/
theorem Gathered.readArguments {arguments : List String}
    (gathered : Gathered draft texts waiting)
    (read : arguments.foldlM Draft.readArgument draft = .ok next) :
    ∃ waits, Gathered next (texts ++ overrideTexts waiting arguments) waits := by
  induction arguments generalizing draft texts waiting with
  | nil =>
    cases pure_eq_ok_iff.mp read
    exact ⟨waiting, by simpa [overrideTexts] using gathered⟩
  | cons argument rest ih =>
    rw [List.foldlM_cons, bind_eq_ok_iff] at read
    obtain ⟨between, first, others⟩ := read
    have step := gathered.readArgument first
    cases waiting with
    | true =>
      obtain ⟨waits, kept⟩ := ih step others
      exact ⟨waits, by simpa [overrideTexts] using kept⟩
    | false =>
      obtain ⟨waits, kept⟩ := ih step others
      exact ⟨waits, by simpa [overrideTexts] using kept⟩

private theorem overrides_of_finish {words : List String} {config : Option String}
    {line : CommandLine}
    (finished : draft.finish words config = .ok line) : line.overrides = draft.overrides := by
  unfold finish at finished
  obtain ⟨command, -, finished⟩ := bind_eq_ok_iff.mp finished
  split at finished
  · cases pure_eq_ok_iff.mp finished
    rfl
  · cases finished

end Draft

/-- The overrides of a command line that is followed are what the texts of its options say. -/
theorem overrides_of_parse {arguments : List String} {config : Option String} {line : CommandLine}
    (parsed : parse arguments config = .ok line) :
    List.Forall₂ SaysOverride (overrideTexts false (arguments.takeWhile (· ≠ "--")))
      line.overrides := by
  unfold parse at parsed
  rw [List.span_eq_takeWhile_dropWhile] at parsed
  obtain ⟨draft, read, parsed⟩ := bind_eq_ok_iff.mp parsed
  obtain ⟨settled, settles, finished⟩ := bind_eq_ok_iff.mp parsed
  have start : Draft.Gathered {} [] false := .checked .nil nofun
  obtain ⟨waits, gathered⟩ := start.readArguments read
  rw [Draft.overrides_of_finish finished]
  exact (gathered.settle settles).2.1

end CommandLine

/-! ### Overrides that are seen -/

namespace CommandLine

variable {line : CommandLine} {settings : Settings} {test : ExecTest}

/-- The test of a command line is that of the line without its overrides, after they were set. -/
theorem test_eq_overriding (made : line.test settings = .ok test) :
    ∃ plain, ({ line with overrides := [] } : CommandLine).test settings = .ok plain ∧
      plain.overrides = .empty ∧ test = plain.overriding line.overrides := by
  rw [CommandLine.test] at made
  obtain ⟨words, split, rfl⟩ := map_eq_ok_iff.mp made
  refine ⟨_, map_eq_ok_iff.mpr ⟨words, split, rfl⟩, ?_, ?_⟩
  · cases settings.binDirectory <;> rfl
  · rw [ExecTest.overriding_eq]
    cases settings.binDirectory <;> rfl

end CommandLine

namespace ExecTest

/-- Whatever overrides are set on a test, every process that it starts, once or again, finds under each
name the last value, and the record of a run shows the names in the order in which they first came,
with these values. A test without a command starts nothing, and its record shows no overrides.
Neighbours with different names can change places: however processes behave, they are handed the
same, and on a host that regards nothing else the runs differ at most in the order that a record
shows. The overrides of a command line are what the texts of its options say, and the test that the
program runs is the one that is left without them, after they were set in their order. -/
theorem overrides_keep_last_values {plain : ExecTest} (bare : plain.overrides = .empty)
    {pairs : List (String × String)} (named : ∀ pair ∈ pairs, VariableName pair.1)
    (settings : Settings) (host : Host) :
    let run := (plain.overriding pairs).run settings host
    (∀ attempt ∈ run.attempts, ∀ inherited,
      (attempt.launch.environment inherited).HasLast pairs) ∧
    (plain.command ≠ [] → pairs ≠ [] →
      ∀ record, run.result = .ok record → ShowsLast record pairs) ∧
    (plain.command = [] → run.result = .ok (.ofStatus .skip) ∧ run.attempts = []) ∧
    (∀ before first second after, pairs = before ++ first :: second :: after →
      first.1 ≠ second.1 →
      let swapped := plain.overriding (before ++ second :: first :: after)
      (∀ otherHost, ∀ attempt ∈ run.attempts,
        ∀ other ∈ (swapped.run settings otherHost).attempts, ∀ inherited,
          other.launch.argv = attempt.launch.argv ∧
            other.launch.environment inherited = attempt.launch.environment inherited) ∧
      ∀ inherited, host.Regards inherited →
        Reordered inherited run (swapped.run settings host)) ∧
    ∀ (invocation : Invocation) (line : CommandLine), invocation.commandLine = .ok line →
      List.Forall₂ SaysOverride (CommandLine.overrideTexts false
        (invocation.arguments.takeWhile (· ≠ "--"))) line.overrides ∧
      ∀ settings test, line.prepare invocation = .ok (settings, test) →
        (∃ plain, ({ line with overrides := [] } : CommandLine).test settings = .ok plain ∧
          plain.overrides = .empty ∧ test = plain.overriding line.overrides) ∧
        ∀ sink, (line.run invocation sink).attempts =
          if settings.execute then (test.run settings invocation.host).attempts else [] := by
  intro run
  have overrides : (plain.overriding pairs).overrides = .ofList pairs :=
    overrides_overriding bare pairs
  have command : (plain.overriding pairs).command = plain.command :=
    (sameBarOverrides_overriding plain [] pairs).command
  refine ⟨fun attempt started inherited => ?_, fun nonempty given record returned => ?_,
    fun empty => ?_, ?_, fun invocation line followed => ⟨?_, fun settings test prepared => ?_⟩⟩
  · obtain ⟨-, asked⟩ := mem_launch?_iff.mp (launch_of_attempt started)
    exact Launch.hasLast_environment (asked.trans overrides) named inherited
  · exact showsLast_of_run overrides given returned (command ▸ nonempty)
  · have skips : run = { result := .ok (.ofStatus .skip) } := run_of_empty (command.trans empty)
    rw [skips]
    exact ⟨rfl, rfl⟩
  · rintro before first second after rfl differ swapped
    exact ⟨fun _ _ started _ startedToo => handed_of_swap bare differ started startedToo,
      fun _ => reordered_of_swap bare differ⟩
  · exact CommandLine.overrides_of_parse followed
  · obtain ⟨_, _, _, made⟩ := CommandLine.prepare_eq_ok prepared
    exact ⟨CommandLine.test_eq_overriding made, CommandLine.attempts_run prepared⟩

/-- A program whose first run reports a spurious window resize. -/
def resizingOnce : Program := .runs resizingOutput [{ returncode := some 0 }]

/-- A command line with the option in three spellings: one name is given twice, and one value has an
equals sign itself. -/
def repeatingInvocation : Invocation where
  arguments := ["--name", "spec/fbo", "-veA=1", "--env", "B=x=y", "-e=A=2", "--", "fbo"]
  host := resizingOnce.host
  surroundings := ⟨.zero, "main"⟩

/-- Both starts are handed the last value of the name, and so they are after a swap. -/
theorem overrides_keep_last_values_of_repeated :
    let pairs := [("A", "1"), ("B", "x=y"), ("A", "2")]
    let plain := make ["fbo"] ⟨""⟩
    let host := repeatingInvocation.host
    let run := (plain.overriding pairs).run {} host
    let swapped := plain.overriding [("B", "x=y"), ("A", "1"), ("A", "2")]
    plain.overrides = .empty ∧ (∀ pair ∈ pairs, VariableName pair.1) ∧
      (∃ line, repeatingInvocation.commandLine = .ok line ∧ line.overrides = pairs ∧
        List.Forall₂ SaysOverride ["A=1", "B=x=y", "A=2"] line.overrides) ∧
      run.attempts.length = 2 ∧
      (∀ attempt ∈ run.attempts,
        Environment.value? (attempt.launch.environment ["A=0", "HOME=/"]) "A" = some "2") ∧
      (∃ record, run.result = .ok record ∧ ShowsLast record pairs) ∧
      Reordered ["A=0", "HOME=/"] run (swapped.run {} host) := by
  intro pairs plain host run swapped
  have bare : plain.overrides = .empty := rfl
  have named : ∀ pair ∈ pairs, VariableName pair.1 := by simp [pairs, VariableName]
  have followed : repeatingInvocation.commandLine =
      .ok { name := "spec/fbo", command := .words "fbo" [], overrides := pairs, verbose := true } :=
    toOption_eq_some_iff.mp (by decide +kernel)
  have twice : run.attempts.length = 2 := by decide +kernel
  have returned : run.result =
      .ok ((plain.overriding pairs).judge {} { returncode := some 0 }) := by
    decide +kernel
  have regards : host.Regards ["A=0", "HOME=/"] := resizingOnce.host_regards (by decide)
  obtain ⟨handed, shown, -, exchange, given⟩ := overrides_keep_last_values bare named {} host
  refine ⟨bare, named, ⟨_, followed, rfl, (given _ _ followed).1⟩, twice,
    fun attempt started => ?_, ⟨_, returned, shown (by decide) (by decide) _ returned⟩, ?_⟩
  · obtain ⟨value, last, found⟩ := handed attempt started ["A=0", "HOME=/"] "A" (by decide)
    rw [found, ← last]
    rfl
  · exact (exchange [] _ _ _ rfl (by decide)).2 _ regards

/-- A test without a command is skipped before anything is made of its overrides, so its record shows
none. -/
theorem commandless_shows_no_overrides :
    let pairs := [("A", "b")]
    let plain := make [] ⟨""⟩
    plain.overrides = .empty ∧ (∀ pair ∈ pairs, VariableName pair.1) ∧ pairs ≠ [] ∧
      ∃ record, ((plain.overriding pairs).run {} fun _ _ => .notFound).result = .ok record ∧
        ¬ ShowsLast record pairs := by
  intro pairs plain
  refine ⟨rfl, by simp [pairs, VariableName], by decide, _, rfl, ?_⟩
  rintro ⟨entries, -, -, environment⟩
  cases environment

end ExecTest

end Verdict
