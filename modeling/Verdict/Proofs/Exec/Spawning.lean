import Verdict.Fault
import Verdict.Proofs.Exec.Retries
/-! Tests whose process cannot be started. Such a run ends with the start that failed, and its error
shows the command of that start as a command line. The command line can be split, and what it is
split into is the command to the last character, so that it can be started again by hand. -/
namespace Verdict

/-! ## Quoting

Words that are written on a command line are read back from it as they were, whatever characters
they hold. Between single quotes only the single quote itself means anything, and a word that stands
there without quotes has no character that means something elsewhere. -/

namespace Shell

/-! ### Characters outside quotes -/

/-- Where a word may go on or a new one begin. -/
def Place.IsBare (place : Place) : Prop := place = .between ∨ place = .inWord

section
variable {place : Place} (bare : place.IsBare) (word rest : List Char)
include bare

private theorem wordsFrom_bare (character : Char) :
    wordsFrom place word (character :: rest) =
      if character = '\'' then wordsFrom .inSingleQuotes word rest
      else if character = '"' then wordsFrom .inDoubleQuotes word rest
      else if character = '\\' then
        match rest with
        | [] => some [('\\' :: word).reverse]
        | '\n' :: rest => wordsFrom place word rest
        | next :: rest => wordsFrom .inWord (next :: word) rest
      else if isSeparator character then
        if place = .inWord then (wordsFrom .between [] rest).map (word.reverse :: ·)
        else wordsFrom .between [] rest
      else if character = '#' ∧ place = .between then wordsFrom .inComment [] rest
      else wordsFrom .inWord (character :: word) rest := by
  rw [wordsFrom.eq_def]
  rcases bare with rfl | rfl <;> rfl

/-- A character without a meaning is taken as it is. -/
private theorem wordsFrom_plain {character : Char} (plain : character ∉ specialCharacters) :
    wordsFrom place word (character :: rest) = wordsFrom .inWord (character :: word) rest := by
  simp only [specialCharacters, List.mem_cons, List.not_mem_nil, or_false, not_or] at plain
  simp [wordsFrom_bare bare, isSeparator, plain]

private theorem wordsFrom_singleQuote :
    wordsFrom place word ('\'' :: rest) = wordsFrom .inSingleQuotes word rest :=
  wordsFrom_bare bare word rest '\''

private theorem wordsFrom_escapedQuote :
    wordsFrom place word ('\\' :: '\'' :: rest) = wordsFrom .inWord ('\'' :: word) rest :=
  wordsFrom_bare bare word ('\'' :: rest) '\\'

end

/-- The space behind a word ends it. -/
private theorem wordsFrom_space (word rest : List Char) :
    wordsFrom .inWord word (' ' :: rest) = (wordsFrom .between [] rest).map (word.reverse :: ·) :=
  wordsFrom_bare (.inr rfl) word rest ' '

private theorem wordsFrom_inSingleQuotes (character : Char) (word rest : List Char) :
    wordsFrom .inSingleQuotes word (character :: rest) =
      if character = '\'' then wordsFrom .inWord word rest
      else wordsFrom .inSingleQuotes (character :: word) rest :=
  rfl

/-! ### Words as they are written -/

private theorem wordsFrom_plainText {text : List Char}
    (plain : ∀ character ∈ text, character ∉ specialCharacters) (word rest : List Char) :
    wordsFrom .inWord word (text ++ rest) = wordsFrom .inWord (text.reverse ++ word) rest := by
  induction text generalizing word with
  | nil => rfl
  | cons character text ih =>
    obtain ⟨first, others⟩ := List.forall_mem_cons.mp plain
    rw [List.cons_append, wordsFrom_plain (.inr rfl) _ _ first, ih others, List.reverse_cons,
      List.append_assoc, List.singleton_append]

/-- A single quote leaves the quotes, stands escaped, and enters them again. -/
private theorem wordsFrom_quotedCharacter (character : Char) (word rest : List Char) :
    wordsFrom .inSingleQuotes word (quotedCharacter character ++ rest) =
      wordsFrom .inSingleQuotes (character :: word) rest := by
  unfold quotedCharacter
  by_cases quote : character = '\''
  · subst quote
    rw [if_pos rfl]
    change wordsFrom .inSingleQuotes word ('\'' :: '\\' :: '\'' :: '\'' :: rest) = _
    rw [wordsFrom_inSingleQuotes, if_pos rfl, wordsFrom_escapedQuote (.inr rfl),
      wordsFrom_singleQuote (.inr rfl)]
  · rw [if_neg quote, List.singleton_append, wordsFrom_inSingleQuotes, if_neg quote]

private theorem wordsFrom_quotedText (text word rest : List Char) :
    wordsFrom .inSingleQuotes word (text.flatMap quotedCharacter ++ rest) =
      wordsFrom .inSingleQuotes (text.reverse ++ word) rest := by
  induction text generalizing word with
  | nil => rfl
  | cons character text ih =>
    rw [List.flatMap_cons, List.append_assoc, wordsFrom_quotedCharacter, ih, List.reverse_cons,
      List.append_assoc, List.singleton_append]

/-- A written word is read to its end and is then the word begun so far. Quotes that hold nothing
begin a word as well. -/
private theorem wordsFrom_quoteWord (word rest : List Char) :
    wordsFrom .between [] (quoteWord word ++ rest) = wordsFrom .inWord word.reverse rest := by
  unfold quoteWord
  split
  · rw [List.cons_append, List.append_assoc, wordsFrom_singleQuote (.inl rfl), wordsFrom_quotedText,
      List.singleton_append, List.append_nil, wordsFrom_inSingleQuotes, if_pos rfl]
  · rename_i unquoted
    cases word with
    | nil => exact absurd rfl unquoted
    | cons first others =>
      have plain : ∀ character ∈ first :: others, character ∉ specialCharacters := by
        simpa [needsQuotes] using unquoted
      obtain ⟨plainFirst, plainOthers⟩ := List.forall_mem_cons.mp plain
      rw [List.cons_append, wordsFrom_plain (.inl rfl) _ _ plainFirst,
        wordsFrom_plainText plainOthers, List.reverse_cons]

/-! ### Command lines -/

private theorem wordsFrom_glue (words : List (List Char)) :
    wordsFrom .between [] (glue ' ' (words.map quoteWord)) = some words := by
  induction words with
  | nil => rfl
  | cons word others ih =>
    cases others with
    | nil =>
      have last := wordsFrom_quoteWord word []
      rw [List.append_nil] at last
      have ended : wordsFrom .inWord word.reverse [] = some [word.reverse.reverse] := rfl
      rw [List.map_singleton, glue, last, ended, List.reverse_reverse]
    | cons other others =>
      have joined : glue ' ' ((word :: other :: others).map quoteWord) =
          quoteWord word ++ ' ' :: glue ' ' ((other :: others).map quoteWord) := rfl
      rw [joined, wordsFrom_quoteWord, wordsFrom_space, ih, List.reverse_reverse]
      rfl

/-- Splitting undoes joining, for any words at all. -/
theorem splitWords_joinWords (words : List String) : splitWords (joinWords words) = some words := by
  have written : (words.map fun word => quoteWord word.toList) =
      (words.map String.toList).map quoteWord := by
    rw [List.map_map]
    rfl
  have restored : (words.map String.toList).map String.ofList = words := by
    simp [Function.comp_def]
  rw [splitWords, joinWords, String.toList_ofList, written, wordsFrom_glue, Option.map_some,
    restored]

/-- No two lists of words are written alike. -/
theorem joinWords_injective {left right : List String} (same : joinWords left = joinWords right) :
    left = right := by
  have split := splitWords_joinWords left
  rw [same, splitWords_joinWords right] at split
  exact (Option.some.inj split).symm

end Shell

/-! ## Starts that fail -/

namespace ExecTest

variable {test : ExecTest} {settings : Settings} {host : Host}

/-- A run that ends in an error has started something. -/
theorem runs_of_error {error : RunError} (failed : (test.run settings host).result = .error error) :
    test.skipped = false ∧ test.command ≠ [] := by
  unfold run at failed
  split at failed
  · cases failed
  · cases failed
  · rename_i first others program arguments command effective
    split at failed
    · cases failed
    · rename_i runs
      exact ⟨by simpa using runs, by simp [command]⟩

/-- Only a start that failed is an error. -/
private theorem accept_eq_error {launch : Launch} {outcome : Outcome} {error : RunError}
    (refused : outcome.accept launch = .error error) :
    ∃ cause, outcome = .failed cause ∧ error = .spawn (Shell.joinWords launch.argv) [cause] := by
  cases outcome with
  | finished output => cases refused
  | notFound => cases refused
  | failed cause =>
    cases refused
    exact ⟨cause, rfl, rfl⟩

private theorem effectiveCommand_eq (test : ExecTest) (settings : Settings) :
    test.effectiveCommand settings =
      (if settings.valgrind then memoryCheckCommand else []) ++ test.command := by
  unfold effectiveCommand
  split
  · rfl
  · exact (List.nil_append _).symm

/-- A run that ends in an error ends at the start that failed. -/
theorem run_eq_error {error : RunError} (failed : (test.run settings host).result = .error error) :
    ∃ launch cause, (test.run settings host).attempts.getLast? = some ⟨launch, .failed cause⟩ ∧
      launch.argv = test.effectiveCommand settings ∧
      error = .spawn (Shell.joinWords launch.argv) [cause] := by
  obtain ⟨runs, nonempty⟩ := runs_of_error failed
  obtain ⟨launch, last, started⟩ := @exists_started test settings host runs nonempty
  have refused := started.result
  rw [failed] at refused
  cases accepted : last.accept launch with
  | ok output =>
    rw [accepted] at refused
    cases refused
  | error reason =>
    rw [accepted] at refused
    cases refused
    obtain ⟨cause, rfl, spawn⟩ := accept_eq_error accepted
    exact ⟨launch, cause, started.getLast?_attempts, started.argv, spawn⟩

/-- The error of a run names the command of its last start: the text between the quotes of the
message is split into exactly the words that were to be started, the ones of the memory checker
first if it was asked for, then the command of the test, its program inside the directory if it was
made for one. No other words are written as this text, whatever characters they hold. -/
theorem spawn_error_identifies_argv (test : ExecTest) (settings : Settings) (host : Host)
    {error : RunError} (failed : (test.run settings host).result = .error error) :
    ∃ launch cause text,
      (test.run settings host).attempts.getLast? = some ⟨launch, .failed cause⟩ ∧
      launch.argv = (if settings.valgrind then memoryCheckCommand else []) ++ test.command ∧
      (∀ words directory platform, test.command = (inDirectory words directory platform).command →
        ∃ program arguments, words = program :: arguments ∧
          test.command = Path.join directory program :: arguments) ∧
      error = .spawn text [cause] ∧
      error.message = "failed to spawn \x60" ++ text ++ "\x60" ∧
      splitCommand text = .ok launch.argv ∧
      ∀ words, Shell.joinWords words = text → words = launch.argv := by
  obtain ⟨launch, cause, ended, argv, rfl⟩ := run_eq_error failed
  refine ⟨launch, cause, Shell.joinWords launch.argv, ended, argv.trans (effectiveCommand_eq _ _),
    fun words directory platform made => ?_, rfl, rfl, ?_, fun _ same =>
    Shell.joinWords_injective same⟩
  · cases words with
    | nil => exact absurd made (runs_of_error failed).2
    | cons program arguments => exact ⟨program, arguments, rfl, made⟩
  · rw [splitCommand, Shell.splitWords_joinWords]

/-- Arguments that a command line would take apart. -/
def unrulyArguments : List String := ["", "#1\n", "\\\"é", "-auto"]

/-- The test runs under the memory checker, and in a directory with a space and a quote in its
name. -/
theorem spawn_error_identifies_unruly_argv :
    let test := inDirectory ("it's" :: unrulyArguments) "/opt/o'brien bin" ⟨""⟩
    let host : Host := fun _ _ => .failed "Permission denied (os error 13)"
    let argv := memoryCheckCommand ++ "/opt/o'brien bin/it's" :: unrulyArguments
    let error : RunError := .spawn (Shell.joinWords argv) ["Permission denied (os error 13)"]
    (test.run { valgrind := true } host).result = .error error ∧
      ∃ text, error.message = "failed to spawn \x60" ++ text ++ "\x60" ∧
        splitCommand text = .ok argv := by
  intro test host argv error
  have runs : test.skipped = false := by decide +kernel
  have nonempty : test.command ≠ [] := by decide +kernel
  let launch : Launch := ⟨"valgrind", argv.tail, .empty⟩
  have asked : launch ∈ test.launch? { valgrind := true } := by decide +kernel
  have failed : (test.run { valgrind := true } host).result = .error error :=
    (run_of_launch host runs nonempty asked).2
  obtain ⟨_, _, text, -, -, -, spawn, message, split, unique⟩ :=
    spawn_error_identifies_argv test { valgrind := true } host failed
  have named : argv = _ := unique argv (RunError.spawn.inj spawn).1
  exact ⟨failed, text, message, named ▸ split⟩

end ExecTest

end Verdict
