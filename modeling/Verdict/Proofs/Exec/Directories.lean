import Verdict.Exec
import Verdict.Proofs.Text.Cutting
import Verdict.Settings.Basic
/-! Programs that are looked up in a directory. Whether a platform skips a program is decided by its
base name, which the directory leaves as it is. A relative path that names no file, however, has the
base name of the directory, or is judged as a whole by its first characters, which are then those of
the directory; so for such a path the directory can change the decision both ways. -/
namespace Verdict

/-! ## Joined paths

Whatever way the slash between the two comes in, a joined path has the components of the directory
and then its own. So it has the last component of the path if the path has any, and otherwise that
of the directory. -/

namespace Path

/-- A path that starts at the root. -/
def IsAbsolute (path : String) : Prop := path.toList.head? = some '/'

variable {directory path : String}

private theorem join_of_absolute (absolute : IsAbsolute path) : join directory path = path :=
  if_pos absolute

private theorem join_empty (path : String) : join "" path = path := by
  simp [join]

/-- A relative path stands behind a slash, which is the last one of the directory if that ends in
one. -/
theorem join_of_relative (relative : ¬ IsAbsolute path) (named : directory ≠ "") :
    ∃ front, (join directory path).toList = front ++ '/' :: path.toList ∧
      (directory.toList = front ∨ directory.toList = front ++ ['/']) := by
  have nonempty : directory.toList ≠ [] := by simpa using named
  unfold IsAbsolute at relative
  rw [join, if_neg relative]
  by_cases ended : directory.toList.getLast? = some '/'
  · obtain ⟨front, listed⟩ := List.getLast?_eq_some_iff.mp ended
    refine ⟨front, ?_, .inr listed⟩
    simp [listed]
  · refine ⟨directory.toList, ?_, .inl rfl⟩
    simp [ended, nonempty]

/-! ### Components -/

/-- Components are the pieces that lead anywhere. -/
private theorem components_eq {characters : List Char} (is : path.toList = characters) :
    components path =
      (pieces '/' characters).filter fun component => component ≠ [] ∧ component ≠ ['.'] := by
  rw [components, is]

private theorem components_join (relative : ¬ IsAbsolute path) :
    components (join directory path) = components directory ++ components path := by
  by_cases empty : directory = ""
  · rw [empty, join_empty]
    rfl
  obtain ⟨front, joined, bare | slashed⟩ := join_of_relative relative empty
  · rw [components_eq joined, components_eq bare, components_eq rfl, pieces_joined,
      List.filter_append]
  · -- What follows the last slash of the directory is the empty piece, which leads nowhere.
    rw [components_eq joined, components_eq slashed, components_eq rfl, pieces_joined,
      pieces_joined, List.filter_append, List.filter_append]
    simp [pieces]

theorem fileName?_eq_none_iff : fileName? path = none ↔
    components path = [] ∨ (components path).getLast? = some ['.', '.'] := by
  unfold fileName?
  rw [← List.getLast?_eq_none_iff]
  cases (components path).getLast? with
  | none => simp
  | some component => simp

private theorem fileName?_join_of_components (leads : components path ≠ []) :
    fileName? (join directory path) = fileName? path := by
  by_cases absolute : IsAbsolute path
  · rw [join_of_absolute absolute]
  · unfold fileName?
    rw [components_join absolute, List.getLast?_append,
      Option.or_of_isSome (List.getLast?_isSome.mpr leads)]

private theorem fileName?_join_of_pointless (relative : ¬ IsAbsolute path)
    (pointless : components path = []) :
    fileName? (join directory path) = fileName? directory := by
  unfold fileName?
  rw [components_join relative, pointless, List.append_nil]

/-! ### Beginnings -/

/-- A word without the separator does not reach beyond it. -/
private theorem prefix_append_separator_iff {α : Type} {separator : α} {word front rest : List α}
    (absent : separator ∉ word) : word <+: front ++ separator :: rest ↔ word <+: front := by
  induction word generalizing front with
  | nil => simp
  | cons head word ih =>
    rw [List.mem_cons, not_or] at absent
    cases front with
    | nil =>
      rw [List.nil_append, List.cons_prefix_cons, List.prefix_nil]
      simp [Ne.symm absent.1]
    | cons other front =>
      rw [List.cons_append, List.cons_prefix_cons, List.cons_prefix_cons, ih absent.2]

/-- A joined path begins with what its directory begins with, as far as the first slash. -/
theorem prefix_join_iff {word : List Char} (relative : ¬ IsAbsolute path) (named : directory ≠ "")
    (absent : '/' ∉ word) : word <+: (join directory path).toList ↔ word <+: directory.toList := by
  obtain ⟨front, joined, bare | slashed⟩ := join_of_relative relative named
  · rw [joined, bare, prefix_append_separator_iff absent]
  · rw [joined, slashed, prefix_append_separator_iff absent, prefix_append_separator_iff absent]

/-- A path that begins with a word has a component, unless the word is empty or a dot. -/
private theorem components_ne_nil_of_prefix {word : List Char} (begins : word <+: path.toList)
    (absent : '/' ∉ word) (long : 2 ≤ word.length) : components path ≠ [] := by
  obtain ⟨rest, listed⟩ := begins
  obtain ⟨first, others, cut⟩ := List.exists_cons_of_ne_nil (pieces_ne_nil '/' rest)
  rw [components_eq listed.symm, pieces_append absent cut, List.filter_cons_of_pos]
  · exact List.cons_ne_nil _ _
  · have size : 2 ≤ (word ++ first).length := by
      rw [List.length_append]
      omega
    rw [decide_eq_true_iff]
    constructor <;>
    · intro short
      rw [short] at size
      simp at size

end Path

/-! ## Programs in a directory -/

/-- How the names of executables begin that need a window system. -/
def windowSystemWord : List Char := "glx-".toList

namespace Platform

variable {platform : Platform} {directory program : String} {arguments : List String}

private theorem skipsExecutable_iff {executable : String} :
    platform.skipsExecutable executable = true ↔
      platform = gbm ∧ (executable = "glean" ∨ windowSystemWord <+: executable.toList) := by
  simp [skipsExecutable, windowSystemWord, List.isPrefixOf_iff_prefix]

private theorem skips_of_otherPlatform (other : platform ≠ gbm) (command : List String) :
    platform.skips command = false := by
  cases command with
  | nil => rfl
  | cons program arguments =>
    rw [skips, ← Bool.not_eq_true, skipsExecutable_iff]
    exact fun both => other both.1

private theorem skips_eq_of_fileName? {other name : String}
    (named : Path.fileName? program = some name)
    (alsoNamed : Path.fileName? other = some name) {otherArguments : List String} :
    platform.skips (program :: arguments) = platform.skips (other :: otherArguments) := by
  rw [skips, skips, named, alsoNamed, Option.getD_some, Option.getD_some]

/-- A program without a base name is judged by how it begins. -/
private theorem skips_nameless_iff (nameless : Path.fileName? program = none) :
    platform.skips (program :: arguments) = true ↔
      platform = gbm ∧ windowSystemWord <+: program.toList := by
  rw [skips, nameless, Option.getD_none, skipsExecutable_iff]
  refine and_congr_right fun _ => or_iff_right ?_
  rintro rfl
  revert nameless
  decide +kernel

/-! ### Paths that name no file -/

private theorem not_slash_mem_windowSystemWord : '/' ∉ windowSystemWord := by decide

/-- A path without components names the directory, so the two are skipped alike. -/
theorem skips_join_of_pointless (relative : ¬ Path.IsAbsolute program) (named : directory ≠ "")
    (pointless : Path.components program = []) :
    platform.skips (Path.join directory program :: arguments) = platform.skips [directory] := by
  have sameName : Path.fileName? (Path.join directory program) = Path.fileName? directory :=
    Path.fileName?_join_of_pointless relative pointless
  cases name : Path.fileName? directory with
  | some name => exact skips_eq_of_fileName? (sameName.trans name) name
  | none =>
    rw [Bool.eq_iff_iff, skips_nameless_iff (sameName.trans name), skips_nameless_iff name,
      Path.prefix_join_iff relative named not_slash_mem_windowSystemWord]

private theorem skips_of_pointless (pointless : Path.components program = []) :
    platform.skips (program :: arguments) = false := by
  rw [← Bool.not_eq_true, skips_nameless_iff (Path.fileName?_eq_none_iff.mpr (.inl pointless))]
  rintro ⟨-, begins⟩
  exact Path.components_ne_nil_of_prefix begins not_slash_mem_windowSystemWord (by decide) pointless

/-- A path to a parent is still one in the directory, and is judged by how the directory begins. -/
theorem skips_join_of_parent_iff (relative : ¬ Path.IsAbsolute program) (named : directory ≠ "")
    (up : (Path.components program).getLast? = some ['.', '.']) :
    platform.skips (Path.join directory program :: arguments) = true ↔
      platform = gbm ∧ windowSystemWord <+: directory.toList := by
  have leads : Path.components program ≠ [] := by
    intro pointless
    rw [pointless] at up
    cases up
  have nameless : Path.fileName? (Path.join directory program) = none := by
    rw [Path.fileName?_join_of_components leads]
    exact Path.fileName?_eq_none_iff.mpr (.inr up)
  rw [skips_nameless_iff nameless,
    Path.prefix_join_iff relative named not_slash_mem_windowSystemWord]

/-! ### Decisions -/

/-- Why a platform decides alike on a program and on the same program in a directory. -/
inductive DecidesAlike (platform : Platform) (directory program : String) : Prop
  /-- Nothing is skipped where there is a window system. -/
  | elsewhere (other : platform ≠ gbm)
  | absolute (absolute : Path.IsAbsolute program)
  | here (empty : directory = "")
  | file {name : String} (named : Path.fileName? program = some name)
  /-- The path names the directory, which itself is not skipped. -/
  | directory (pointless : Path.components program = [])
    (runs : platform.skips [directory] = false)
  /-- The path names a parent, and begins as the directory does. -/
  | parent (up : (Path.components program).getLast? = some ['.', '.'])
    (alike : windowSystemWord <+: directory.toList ↔ windowSystemWord <+: program.toList)

private theorem DecidesAlike.skips_join (alike : platform.DecidesAlike directory program) :
    platform.skips (Path.join directory program :: arguments) =
      platform.skips (program :: arguments) := by
  by_cases absolute : Path.IsAbsolute program
  · rw [Path.join_of_absolute absolute]
  by_cases empty : directory = ""
  · rw [empty, Path.join_empty]
  cases alike with
  | elsewhere other => rw [skips_of_otherPlatform other, skips_of_otherPlatform other]
  | absolute isAbsolute => exact absurd isAbsolute absolute
  | here isEmpty => exact absurd isEmpty empty
  | file named =>
    have leads : Path.components program ≠ [] := by
      intro pointless
      rw [Path.fileName?_eq_none_iff.mpr (.inl pointless)] at named
      cases named
    exact skips_eq_of_fileName? ((Path.fileName?_join_of_components leads).trans named) named
  | directory pointless runs =>
    rw [skips_join_of_pointless absolute empty pointless, skips_of_pointless pointless, runs]
  | parent up alike =>
    rw [Bool.eq_iff_iff, skips_join_of_parent_iff absolute empty up,
      skips_nameless_iff (Path.fileName?_eq_none_iff.mpr (.inr up)), alike]

private theorem decidesAlike_of_skips_join
    (same : platform.skips (Path.join directory program :: arguments) =
      platform.skips (program :: arguments)) : platform.DecidesAlike directory program := by
  by_cases isGbm : platform = gbm
  case neg => exact .elsewhere isGbm
  by_cases absolute : Path.IsAbsolute program
  · exact .absolute absolute
  by_cases empty : directory = ""
  · exact .here empty
  cases name : Path.fileName? program with
  | some name => exact .file name
  | none =>
    rcases Path.fileName?_eq_none_iff.mp name with pointless | up
    · rw [skips_join_of_pointless absolute empty pointless, skips_of_pointless pointless] at same
      exact .directory pointless same
    · rw [Bool.eq_iff_iff, skips_join_of_parent_iff absolute empty up,
        skips_nameless_iff name] at same
      exact .parent up ((and_congr_right_iff.mp same) isGbm)

end Platform

namespace ExecTest

/-- Whether a test is skipped stays the same in a directory exactly when the platform has a reason to
decide alike: there is nothing to decide, the directory is not used, the program names a file, or it
names a directory or parent on which the decision happens to be the same. -/
theorem inDirectory_skipped_iff (command : List String) (directory : String) (platform : Platform) :
    (inDirectory command directory platform).skipped = (make command platform).skipped ↔
      ∀ program ∈ command.head?, platform.DecidesAlike directory program := by
  cases command with
  | nil => simp [inDirectory, resolve]
  | cons program arguments =>
    change platform.skips (Path.join directory program :: arguments) =
      platform.skips (program :: arguments) ↔ _
    constructor
    · intro same other first
      obtain rfl : program = other := Option.some.inj first
      exact Platform.decidesAlike_of_skips_join same
    · intro alike
      exact (alike program rfl).skips_join

/-- A directory named like a skipped program has a path to itself skipped, and any directory hides
how a path to a parent begins. -/
theorem inDirectory_changes_skipped :
    (make ["."] .gbm).skipped = false ∧
      (inDirectory ["."] "/opt/glean" .gbm).skipped = true ∧
      (make ["glx-tools/.."] .gbm).skipped = true ∧
      (inDirectory ["glx-tools/.."] "/usr/lib/piglit/bin" .gbm).skipped = false := by
  decide +kernel

end ExecTest

end Verdict
