import Verdict.Text.Basic
/-! The settings that all tests of a run share. The platform among them decides which tests are
skipped, by the last component of the path of their program. Paths are texts: nothing is normalised
and no file is looked at. -/
namespace Verdict

/-! ### Paths -/

namespace Path

/-- A path inside a directory. An absolute path stands for itself; otherwise a slash is put between
the two unless the directory is empty or ends in one. -/
def join (directory path : String) : String :=
  if path.toList.head? = some '/' then path
  else if directory.toList.isEmpty || directory.toList.getLast? = some '/' then directory ++ path
  else directory ++ "/" ++ path

/-- The components of a path without empty ones and dots. -/
def components (path : String) : List (List Char) :=
  (pieces '/' path.toList).filter fun component => component ≠ [] ∧ component ≠ ['.']

/-- The last component, if there is one and it is not the parent directory. -/
def fileName? (path : String) : Option String :=
  match (components path).getLast? with
  | none => none
  | some component => if component = ['.', '.'] then none else some (String.ofList component)

end Path

/-! ### Platforms -/

/-- The windowing platform that tests run against, by its name. The empty name stands for the
default of the build. -/
structure Platform where
  name : String
  deriving DecidableEq

namespace Platform

/-- The platform that renders without a window system. -/
def gbm : Platform := ⟨"gbm"⟩

/-- Without a window system neither `glean` nor any executable whose name begins with `glx-` can
run. -/
def skipsExecutable (platform : Platform) (executable : String) : Bool :=
  platform == gbm && (executable == "glean" || "glx-".toList.isPrefixOf executable.toList)

/-- Whether a command is skipped. Only the last component of the program counts, or the program
as a whole if it has none; an empty command is never skipped. -/
def skips (platform : Platform) : List String → Bool
  | [] => false
  | program :: _ => platform.skipsExecutable ((Path.fileName? program).getD program)

end Platform

/-! ### Settings -/

/-- The settings of a run. -/
structure Settings where
  /-- Whether tests are run at all, or only announced. -/
  execute : Bool := true
  /-- Whether announcements name the test. -/
  verbose : Bool := false
  /-- Whether tests run under the memory checker. -/
  valgrind : Bool := false
  platform : Platform := ⟨""⟩
  /-- The directory that the executables of tests are found in. -/
  binDirectory : Option String := none
  deriving DecidableEq

end Verdict
