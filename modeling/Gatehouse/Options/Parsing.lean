import Gatehouse.Options.Flag

/-!
# Reading the command line

A flag is given once, as `--name value` or `--name=value`; the settings file also as `-c`. What
starts with a dash is never the value of a flag before it. A value is looked at only when the next
flag or the end is reached, so an unknown argument is reported before a wrong value right in front
of it. What the command line leaves out is taken from the environment.
-/

namespace Gatehouse.Launch

/-- What has been read: the launch so far, the flags it has taken, and the flag that waits for its
value or for that value to be looked at. -/
structure Progress where
  launch : Launch
  given : List Flag
  pending : Option (Flag × Option String)

namespace Progress

def start : Progress :=
  ⟨default, [], none⟩

def take (p : Progress) (f : Flag) (value : String) : Except UsageError Progress :=
  if f ∈ p.given then .error .repeated
  else (f.take value p.launch).map fun launch => ⟨launch, p.given ++ [f], p.pending⟩

/-- Looks at what is pending. -/
def settle (p : Progress) : Except UsageError Progress :=
  match p.pending with
  | none => .ok p
  | some (_, none) => .error .missingValue
  | some (f, some value) => { p with pending := none }.take f value

/-- Takes a flag with a value attached to it, or waits for its value. -/
def flag (p : Progress) (f : Flag) (attached : Option String) : Except UsageError Progress :=
  match p.settle with
  | .error e => .error e
  | .ok p =>
    match attached with
    | some value => p.take f value
    | none => .ok { p with pending := some (f, none) }

/-- Asks for help or the version, once what is pending is settled. -/
def ask (p : Progress) (what : UsageError) : Except UsageError Progress :=
  match p.settle with
  | .error e => .error e
  | .ok _ => .error what

/-- What an argument after two dashes asks for without a value. -/
def asked? : String → Option UsageError
  | "help" => some .helpAsked
  | "version" => some .versionAsked
  | _ => none

/-- Reads an argument with two dashes in front, already taken off. -/
def long (p : Progress) (text : String) : Except UsageError Progress :=
  let (name, attached) := match Text.cut '=' text with
    | some (name, value) => (name, some value)
    | none => (text, none)
  match asked? name, attached with
  | some what, none => p.ask what
  | some _, some _ => .error .tooManyValues
  | none, _ =>
    match Flag.ofLong? name with
    | some f => p.flag f attached
    | none => .error .unknownArgument

/-- Reads an argument with one dash in front, already taken off. -/
def short (p : Progress) : List Char → Except UsageError Progress
  | 'c' :: [] => p.flag .config none
  | 'c' :: '=' :: value => p.flag .config (some (String.ofList value))
  | 'c' :: value => p.flag .config (some (String.ofList value))
  | 'h' :: _ => p.ask .helpAsked
  | 'V' :: _ => p.ask .versionAsked
  | _ => .error .unknownArgument

/-- Reads an argument that is no flag: the value that is waited for. -/
def plain (p : Progress) (text : String) : Except UsageError Progress :=
  match p.pending with
  | some (f, none) => .ok { p with pending := some (f, some text) }
  | _ => .error .unknownArgument

def argument (p : Progress) (text : String) : Except UsageError Progress :=
  match text.toList with
  | '-' :: '-' :: rest => p.long (String.ofList rest)
  | '-' :: c :: rest => p.short (c :: rest)
  | _ => p.plain text

/-- Reads the arguments; after `--` there is nothing to be given. -/
def arguments (p : Progress) : List String → Except UsageError Progress
  | [] => p.settle
  | "--" :: rest => if rest = [] then p.settle else .error .unknownArgument
  | text :: rest =>
    match p.argument text with
    | .error e => .error e
    | .ok p => p.arguments rest

/-- Takes a flag from the environment if it was not given. -/
def fromVariable (environment : String → Option String) (p : Progress) (f : Flag) :
    Except UsageError Progress :=
  if f ∈ p.given then .ok p
  else
    match environment f.variableName with
    | some value => p.take f value
    | none => .ok p

end Progress

/-- The launch that arguments and an environment ask for. -/
def ofArguments (arguments : List String) (environment : String → Option String) :
    Except UsageError Launch := do
  let p ← Progress.start.arguments arguments
  let p ← Flag.all.foldlM (Progress.fromVariable environment) p
  return p.launch

end Gatehouse.Launch
