import Gatehouse.Options.Loading
import Gatehouse.Relay.Basic
import Gatehouse.Url.International
import Std.Time.DateTime.Timestamp

/-!
# The command line

Settles the settings of a launch, starts a relay with them and says how it stands, so that settings
can be tried before a host that listens takes the relay in. Whatever keeps the relay from starting
is told on the error stream, and the exit code is that of a failure.
-/

namespace Gatehouse.CommandLine

def contentOf (path : String) : IO FileContent := do
  try
    let bytes ← IO.FS.readBinFile path
    return .bytes bytes.toList
  catch
    | .noFileOrDirectory .. => return .absent
    | e => return .unreadable e.toString

def reading (files : List (String × FileContent)) (name : String) : FileContent :=
  (files.lookup name).getD .absent

def environment : IO (List (String × String)) :=
  Flag.all.filterMapM fun f => do
    return (← IO.getEnv f.variableName).map fun value => (f.variableName, value)

def contents (paths : List String) : IO (List (String × FileContent)) :=
  paths.mapM fun path => return (path, ← contentOf path)

def filesOf (c : Config) : List String :=
  [c.caFile, c.clientCertFile, c.clientKeyFile, c.storePath].filterMap id

/-- Whether bytes can be the outermost element of a certificate or a key. -/
def isSequence (b : Bytes) : Bool :=
  b.head? == some 0x30

/-- What a relay is started in: files read before, and host names that are not looked up. -/
def surroundings (files : List (String × FileContent)) : Core.Surroundings where
  read := reading files
  isCertificate := isSequence
  isKey := isSequence
  lookupFault _ := none

def help : List String :=
  ["Usage: gatehouse [OPTIONS]", "", "Options:"] ++
    Flag.all.map fun f => "  --" ++ f.long ++ " <VALUE>  [env: " ++ f.variableName ++ "]"

def explanation : UsageError → String
  | .unknownArgument => "error: unexpected argument found"
  | .missingValue => "error: a value is required"
  | .invalidValue => "error: invalid value"
  | .repeated => "error: an argument cannot be used multiple times"
  | .tooManyValues => "error: unexpected value found"
  | .helpAsked => Text.joined "\n" help
  | .versionAsked => "gatehouse 0.1.0"

def failure (what : String) (cause : ConfigError) : String :=
  match cause.message? with
  | some detail => "Error: " ++ what ++ "\n\nCaused by:\n    " ++ detail
  | none => "Error: " ++ what

def run (l : Launch) : IO UInt32 := do
  let settingsFile ← contents l.file.toList
  match l.loadSettings (reading settingsFile) with
  | .error e =>
    IO.eprintln (failure e.message e.cause)
    return 1
  | .ok c =>
    let files ← contents (filesOf c)
    let now ← Std.Time.Timestamp.now
    match Relay.start (surroundings files) c now.toSecondsSinceUnixEpoch.val with
    | .error e =>
      IO.eprintln (failure "Invalid relay configuration" e)
      return 1
    | .ok (relay, _) =>
      if relay.config.isOpen then
        IO.eprintln "Relay admits every caller: neither a static token nor a signing key is set"
      IO.println ("Relay of " ++ relay.config.coreUrl ++ " for " ++ l.host ++ ":" ++
        toString l.portNumber)
      return 0

end Gatehouse.CommandLine

def main (arguments : List String) : IO UInt32 := do
  let environment ← Gatehouse.CommandLine.environment
  match Gatehouse.Launch.ofArguments arguments (fun name => environment.lookup name) with
  | .ok l => Gatehouse.CommandLine.run l
  | .error .helpAsked =>
    IO.println (Gatehouse.CommandLine.explanation .helpAsked)
    return 0
  | .error .versionAsked =>
    IO.println (Gatehouse.CommandLine.explanation .versionAsked)
    return 0
  | .error e =>
    IO.eprintln (Gatehouse.CommandLine.explanation e)
    return 2
