import BlockHydro.Setup.Cbor
import BlockHydro.ShockTube.Options
import BlockHydro.ShockTube.Result

/-!
# The shock tube as a command

Reads the options, runs the problem that they pose, and writes the result to the
output file.  Nothing is decided here.
-/

namespace BlockHydro.Command

/-- The limit on the number of steps. -/
def stepLimit : Nat := Nat.pow 10 18

/-- Read the configuration that replaces the physics flags. -/
def readConfig (path : String) : IO (Config Float) := do
  let bytes ← IO.FS.readBinFile path
  match (Cbor.decode bytes.toList).bind Config.ofDocument? with
  | some config => return config
  | none => throw (IO.userError s!"no configuration in {path}")

/-- Run the problem that the options pose, and write the result. -/
def run (options : Options) : IO UInt32 := do
  let replacement ← options.configFile.mapM readConfig
  match (options.problem replacement).run stepLimit with
  | .error error =>
    let reason := error.message?.getD "data out of range"
    IO.eprintln s!"error: {reason}"
    return 1
  | .ok final =>
    IO.FS.writeBinFile options.outputFile ⟨(Cbor.encode final.toDocument).toArray⟩
    if options.logLevel.showsSummary then
      IO.println final.summary
    return 0

end BlockHydro.Command

/-- The command; a command line that is refused has an exit status of its own. -/
def main (arguments : List String) : IO UInt32 :=
  match BlockHydro.Options.parse arguments with
  | .error error => do
    IO.eprintln s!"error: {error.message}"
    return 2
  | .ok options => BlockHydro.Command.run options
