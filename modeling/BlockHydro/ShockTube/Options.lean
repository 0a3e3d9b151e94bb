import BlockHydro.Decimal.Numeral
import BlockHydro.ShockTube.Run

/-!
# Command line options of the shock tube

Options have a long name after two dashes and most have a short one after a
single dash.  A value follows in the next argument, or in the same argument:
after an equals sign, or directly after a short name.  Short flags may be joined
in one argument.  A value in an argument of its own may not look like an option.

No option may be given twice, and there are no other arguments.
-/

namespace BlockHydro

/-- The options, by what they set. -/
inductive OptionName where
  | numZones
  | numBlocks
  | finalTime
  | cfl
  | integrator
  | relativistic
  | noCorrection
  | config
  | output
  | logLevel
  deriving DecidableEq, Repr

namespace OptionName

/-- The long names. -/
def ofLong? : String → Option OptionName
  | "num-zones" => some .numZones
  | "num-blocks" => some .numBlocks
  | "tfinal" => some .finalTime
  | "cfl" => some .cfl
  | "integrator" => some .integrator
  | "relativistic" => some .relativistic
  | "no-fofc" => some .noCorrection
  | "config" => some .config
  | "output" => some .output
  | "log-level" => some .logLevel
  | _ => none

/-- The short names. -/
def ofShort? : Char → Option OptionName
  | 'n' => some .numZones
  | 'b' => some .numBlocks
  | 't' => some .finalTime
  | 'i' => some .integrator
  | 'r' => some .relativistic
  | 'o' => some .output
  | _ => none

/-- The long name. -/
def longName : OptionName → String
  | .numZones => "num-zones"
  | .numBlocks => "num-blocks"
  | .finalTime => "tfinal"
  | .cfl => "cfl"
  | .integrator => "integrator"
  | .relativistic => "relativistic"
  | .noCorrection => "no-fofc"
  | .config => "config"
  | .output => "output"
  | .logLevel => "log-level"

/-- An option is found under its long name. -/
theorem ofLong?_longName (option : OptionName) : ofLong? option.longName = some option := by
  cases option <;> rfl

/-- Whether an option stands alone. -/
def isFlag : OptionName → Bool
  | .relativistic | .noCorrection => true
  | _ => false

end OptionName

/-- Why a command line is refused. -/
inductive UsageError where
  | unknownOption (text : String)
  | unexpectedArgument (text : String)
  | missingValue (option : OptionName)
  | valueForFlag (option : OptionName)
  | repeated (option : OptionName)
  | invalidValue (option : OptionName) (text : String)
  deriving DecidableEq, Repr

/-- The wording of a refusal. -/
def UsageError.message : UsageError → String
  | .unknownOption text => s!"no option {text}"
  | .unexpectedArgument text => s!"unexpected argument {text}"
  | .missingValue option => s!"--{option.longName} needs a value"
  | .valueForFlag option => s!"--{option.longName} takes no value"
  | .repeated option => s!"--{option.longName} is given twice"
  | .invalidValue option text => s!"--{option.longName} cannot be {text}"

/-- An option as given, with its value; a flag has an empty one. -/
abbrev GivenOption := OptionName × String

namespace CommandLine

/-- Read joined short options: those complete in this argument, and one that awaits its value. -/
def readShort : List Char → Except UsageError (List GivenOption × Option OptionName)
  | [] => .ok ([], none)
  | letter :: rest =>
    match OptionName.ofShort? letter with
    | none => .error (.unknownOption s!"-{letter}")
    | some option =>
      if option.isFlag then do
        let (given, awaiting) ← readShort rest
        return ((option, "") :: given, awaiting)
      else
        match rest with
        | [] => .ok ([], some option)
        | '=' :: value => .ok ([(option, String.ofList value)], none)
        | value => .ok ([(option, String.ofList value)], none)

/-- Read a long option without its dashes. -/
def readLong (text : List Char) : Except UsageError (List GivenOption × Option OptionName) :=
  let name := String.ofList (text.takeWhile (· ≠ '='))
  match OptionName.ofLong? name, text.dropWhile (· ≠ '=') with
  | none, _ => .error (.unknownOption s!"--{name}")
  | some option, [] => if option.isFlag then .ok ([(option, "")], none) else .ok ([], some option)
  | some option, _ :: value =>
    if option.isFlag then .error (.valueForFlag option)
    else .ok ([(option, String.ofList value)], none)

/-- Read one argument. -/
def readArgument (argument : String) : Except UsageError (List GivenOption × Option OptionName) :=
  match argument.toList with
  | '-' :: '-' :: text => readLong text
  | '-' :: letter :: rest => readShort (letter :: rest)
  | _ => .error (.unexpectedArgument argument)

/-- Whether an argument may be the value of the option before it. -/
def isValue (argument : String) : Bool :=
  match argument.toList with
  | '-' :: _ :: _ => false
  | _ => true

/-- Read the options off a command line; after two dashes nothing may follow. -/
def readOptions : List String → Except UsageError (List GivenOption)
  | [] => .ok []
  | argument :: later =>
    if argument = "--" then
      match later with
      | [] => .ok []
      | next :: _ => .error (.unexpectedArgument next)
    else do
      let (given, awaiting) ← readArgument argument
      match awaiting, later with
      | none, later => return given ++ (← readOptions later)
      | some option, [] => .error (.missingValue option)
      | some option, value :: later =>
        if isValue value then return given ++ (option, value) :: (← readOptions later)
        else .error (.missingValue option)

/-- Refuse an option that is given twice. -/
def requireDistinct : List GivenOption → Except UsageError Unit
  | [] => .ok ()
  | (option, _) :: later =>
    if later.any (·.1 = option) then .error (.repeated option) else requireDistinct later

end CommandLine

/-- How much a run tells about itself. -/
inductive LogLevel where
  | off
  | error
  | warn
  | info
  | debug
  | trace
  deriving DecidableEq, Repr

/-- The level of a name, in any case. -/
def LogLevel.ofName? (name : String) : Option LogLevel :=
  match String.ofList (name.toList.map Char.toLower) with
  | "off" => some .off
  | "error" => some .error
  | "warn" => some .warn
  | "info" => some .info
  | "debug" => some .debug
  | "trace" => some .trace
  | _ => none

/-- Whether a run sums itself up at the end. -/
def LogLevel.showsSummary : LogLevel → Bool
  | .off | .error | .warn => false
  | .info | .debug | .trace => true

/-- The options of a shock tube run. -/
structure Options where
  numZones : Int
  numBlocks : Nat
  finalTime : Float
  cfl : Float
  integrator : Integrator
  relativistic : Bool
  fluxCorrection : Bool
  /-- A file of settings that replace the physics flags. -/
  configFile : Option String
  /-- The file for the result. -/
  outputFile : String
  logLevel : LogLevel

namespace Options

/-- The value of an option, read as asked, or its standard value. -/
def value (given : List GivenOption) (option : OptionName) {α : Type}
    (read : String → Option α) (standard : α) : Except UsageError α :=
  match given.lookup option with
  | none => .ok standard
  | some text =>
    match read text with
    | some value => .ok value
    | none => .error (.invalidValue option text)

/-- Read the options off a command line. -/
def parse (arguments : List String) : Except UsageError Options := do
  let given ← CommandLine.readOptions arguments
  CommandLine.requireDistinct given
  return {
    numZones := ← value given .numZones readInt64? 400
    numBlocks := ← value given .numBlocks readUInt64? 4
    finalTime := ← value given .finalTime readFloat? 0.2
    cfl := ← value given .cfl readFloat? 0.4
    integrator := ← value given .integrator Integrator.ofName? .rk2
    relativistic := (given.lookup .relativistic).isSome
    fluxCorrection := (given.lookup .noCorrection).isNone
    configFile := given.lookup .config
    outputFile := ← value given .output some "shock_tube.cbor"
    logLevel := ← value given .logLevel LogLevel.ofName? .info }

/-- The configuration that the physics flags ask for. -/
def config (options : Options) : Config Float :=
  { (Config.standard : Config Float) with
    dynamics := if options.relativistic then .relativistic 1 else .newtonian
    fluxCorrection := options.fluxCorrection
    integrator := options.integrator }

/-- The problem that the options pose; a configuration read from elsewhere replaces the flags. -/
def problem (options : Options) (replacement : Option (Config Float)) : ShockTube Float where
  numZones := options.numZones
  numBlocks := options.numBlocks
  finalTime := options.finalTime
  cfl := options.cfl
  config := replacement.getD options.config

end Options

end BlockHydro
