/-! The verdicts a test can end with, their spelling, and the order in which summaries list them. A
verdict has exactly one spelling, and every other text is refused with the list of known ones. The
return code of a process can decide a verdict; which codes mean a crash, and how a run under the
memory checker is judged, is said here too. -/
namespace Verdict

/-! ### Verdicts -/

/-- The verdict on a test. The constructors stand in the order in which summaries list them. -/
inductive Status where
  | pass
  | fail
  | skip
  | crash
  | warn
  | dryRun
  deriving DecidableEq

namespace Status

/-- Every verdict once, in summary order. -/
def all : List Status := [.pass, .fail, .skip, .crash, .warn, .dryRun]

/-- The spelling of a verdict wherever it is read, written or shown. -/
def name : Status → String
  | .pass => "pass"
  | .fail => "fail"
  | .skip => "skip"
  | .crash => "crash"
  | .warn => "warn"
  | .dryRun => "dry-run"

/-- The verdict with exactly this spelling. -/
def ofName? (text : String) : Option Status := all.find? (·.name == text)

/-- A text is read as a verdict exactly when it is that verdict's spelling. -/
theorem ofName?_eq_some_iff {text : String} {status : Status} :
    ofName? text = some status ↔ status.name = text := by
  constructor
  · intro found
    simpa using List.find?_some found
  · rintro rfl
    cases status <;> decide

@[simp] theorem ofName?_name (status : Status) : ofName? status.name = some status :=
  ofName?_eq_some_iff.mpr rfl

/-- The number of verdicts that summaries list before this one. -/
def rank (status : Status) : Nat := all.idxOf status

theorem rank_injective {left right : Status} (same : left.rank = right.rank) : left = right := by
  revert same
  cases left <;> cases right <;> decide

end Status

/-- A text that spells no verdict. -/
structure UnknownStatus where
  input : String
  deriving DecidableEq

/-- The refusal repeats the text and lists every known spelling. -/
def UnknownStatus.message (unknown : UnknownStatus) : String :=
  "unrecognized test status: " ++ unknown.input ++ "\n(known values: "
    ++ String.intercalate ", " (Status.all.map Status.name) ++ ")"

/-- Reads a verdict, keeping the offending text on refusal. -/
def Status.parse (text : String) : Except UnknownStatus Status :=
  match Status.ofName? text with
  | some status => .ok status
  | none => .error ⟨text⟩

/-! ### Return codes -/

/-- The return code of a process. A process killed by signal `n` returns `-n`. -/
abbrev ReturnCode := Int

namespace ReturnCode

/-- Trap, abort, arithmetic error, user signal 1 and segmentation fault, then the two codes that
Windows reports for an access violation and an integer division by zero. -/
def crashes : List ReturnCode := [-5, -6, -8, -10, -11, -1073741819, -1073741676]

/-- A return code means a crash exactly when it is in the table. -/
def isCrash (code : ReturnCode) : Bool := crashes.contains code

end ReturnCode

/-- The verdict on a run under the memory checker, from the verdict of the test itself and the
checker's return code. A test that does not pass says nothing about memory errors and is skipped;
a passing test fails unless the checker returned zero. -/
def Status.underMemoryCheck : Status → Option ReturnCode → Status
  | .pass, some 0 => .pass
  | .pass, _ => .fail
  | _, _ => .skip

/-- How the command line itself can end. The verdict on the test is never among the reasons. -/
inductive ExitCode where
  | ok
  | badSettings
  | badCommand
  | writeFailed
  deriving DecidableEq

namespace ExitCode

def toNat : ExitCode → Nat
  | .ok => 0
  | .badSettings => 95
  | .badCommand => 96
  | .writeFailed => 110

end ExitCode

end Verdict
