import Verdict.App
/-! The command line program. It starts no process itself: what the test prints is read from
standard input, as the output of a program that ends with code zero. Results go to standard output,
one line each, and events go to standard error. -/
namespace Verdict.Terminal

/-- The variables of the environment that mean something to the program. -/
def knownVariables : List String :=
  [Invocation.configVariable, Invocation.logVariable, "PIGLIT_EXECUTE", "PIGLIT_VERBOSE",
    "PIGLIT_VALGRIND", "PIGLIT_PLATFORM", "PIGLIT_TEST_BIN_DIR"]

def usageText : String :=
  "usage: verdict --name PATH [OPTIONS] (--command COMMAND | -- COMMAND [ARGS]...)"

/-- Reads a stream to its end. -/
partial def readAll (stream : IO.FS.Stream) (done : ByteArray) : IO ByteArray := do
  let chunk ← stream.read 65536
  if chunk.isEmpty then return done
  readAll stream (done ++ chunk)

/-- The contents of those files that can be read. -/
def readFiles (paths : List String) : IO (List (String × String)) :=
  paths.filterMapM fun (path : String) => do
    try
      return some (path, ← IO.FS.readFile path)
    catch _ => return none

/-- The invocation without the files and the executables that it meets. -/
def bareInvocation (arguments : List String) : IO Invocation := do
  let environment ← knownVariables.filterMapM fun name => do
    return (← IO.getEnv name).map (name, ·)
  return { arguments, environment := OrderedMap.ofList environment, surroundings := ⟨.zero, ""⟩ }

/-- The invocation with the settings files that the command line may mean, and with the test whose
output stands on standard input. -/
def completeInvocation (bare : Invocation) (line : CommandLine) : IO Invocation := do
  let files ← readFiles (line.config.elim [] SettingsFile.candidates)
  let stdout ← readAll (← IO.getStdin) .empty
  let output : ProcessOutput := { stdout := stdout.data.toList, returncode := some 0 }
  return { bare with
    files := fun path => files.lookup path, host := (Program.runs output []).host }

/-- Shows how the program ended. -/
def showEnding : Ending → IO Unit
  | .usage error =>
    if error.exitCode = 0 then IO.println usageText else IO.eprintln usageText
  | .badFilter => IO.eprintln ("unable to parse " ++ Invocation.logVariable)
  | .ran run filter => do
    (← IO.getStdout).write (ByteArray.mk run.written.toArray)
    (run.shown filter).forM fun line => IO.eprintln line

end Verdict.Terminal

def main (arguments : List String) : IO UInt32 := do
  let bare ← Verdict.Terminal.bareInvocation arguments
  let invocation ← match bare.commandLine with
    | .ok line => Verdict.Terminal.completeInvocation bare line
    | .error _ => pure bare
  let ending := invocation.run {}
  Verdict.Terminal.showEnding ending
  return UInt32.ofNat ending.exitCode
