import MetricAgent.Config.Load
import MetricAgent.Time.Human

/-!
Settings that can be given on the command line or in the environment. What is given there goes
before what the configuration file says, and the command line goes before the environment.
-/

namespace MetricAgent.CommandLine

open Config Text Time

inductive Setting where
  | config
  | interval
  | collectors
  | output
  | namePrefix
  | source
  | listen
  | httpUrl
  | httpUser
  | httpToken
  deriving DecidableEq, Repr

namespace Setting

def all : List Setting :=
  [config, interval, collectors, output, namePrefix, source, listen, httpUrl, httpUser, httpToken]

/-- The name of the flag, behind two hyphens. -/
def flag : Setting → String
  | config => "config"
  | interval => "interval"
  | collectors => "collectors"
  | output => "output"
  | namePrefix => "prefix"
  | source => "source"
  | listen => "listen"
  | httpUrl => "http-url"
  | httpUser => "http-user"
  | httpToken => "http-token"

/-- The name of the variable. -/
def variableName : Setting → String
  | config => "VIGIL_CONFIG"
  | interval => "VIGIL_INTERVAL"
  | collectors => "VIGIL_COLLECTORS"
  | output => "VIGIL_OUTPUT"
  | namePrefix => "VIGIL_PREFIX"
  | source => "VIGIL_SOURCE"
  | listen => "VIGIL_LISTEN"
  | httpUrl => "VIGIL_HTTP_URL"
  | httpUser => "VIGIL_HTTP_USER"
  | httpToken => "VIGIL_HTTP_TOKEN"

def ofFlag? (name : String) : Option Setting := all.find? (·.flag = name)

/-- A value that the setting can have. -/
def accepts (s : Setting) (value : String) : Bool :=
  match s with
  | config => !value.isEmpty
  | interval => (Span.ofArgument value.toList).toOption.isSome
  | output => (OutputKind.ofText? value).isSome
  | _ => true

/-- A setting that may be given more than once, all its values being taken. -/
def isRepeatable (s : Setting) : Bool := s = collectors

end Setting

abbrev Given := List (Setting × String)

namespace Given

def has (g : Given) (s : Setting) : Bool := g.any (·.1 = s)

/-- The values of a setting. -/
def values (g : Given) (s : Setting) : List String := (g.filter (·.1 = s)).map Prod.snd

/-- The value of a setting that is given once. -/
def value? (g : Given) (s : Setting) : Option String := (g.values s).head?

/-- Adds a value, if the setting accepts it and it is not given twice. -/
def add (g : Given) (s : Setting) (value : String) : Option Given :=
  if s.accepts value && (s.isRepeatable || !g.has s) then some (g ++ [(s, value)]) else none

/-- Adds the values of variables for the settings that are not given. -/
def addVariables (env : Environment) (g : Given) : Option Given :=
  (Setting.all.filter fun s => !g.has s).foldlM
    (fun g s => (env s.variableName).elim (some g) (g.add s)) g

/-- The names in a list between commas. -/
def splitNames (s : String) : List String := (splitOn ',' s.toList).map String.ofList

/-- Puts what is given in the place of what a configuration says. -/
def applyTo (g : Given) (c : AgentConfig) : AgentConfig :=
  let some? (s : Setting) (old : Option String) : Option String := g.value? s <|> old
  { c with
    interval := ((g.value? .interval).bind fun v => (Span.ofArgument v.toList).toOption).getD
      c.interval
    collectors :=
      if g.has .collectors then (g.values .collectors).flatMap splitNames else c.collectors
    output := ((g.value? .output).bind OutputKind.ofText?).getD c.output
    namePrefix := some? .namePrefix c.namePrefix
    source := some? .source c.source
    listen := { c.listen with address := (g.value? .listen).getD c.listen.address }
    http :=
      { c.http with
        url := (g.value? .httpUrl).getD c.http.url
        user := some? .httpUser c.http.user
        token := some? .httpToken c.http.token } }

end Given

/-! ### Arguments -/

/-- Why the arguments are no settings. -/
inductive Refusal where
  | version
  | help
  | misused
  deriving DecidableEq, Repr

/-- The letters that stand for flags. -/
def letters : List (Char × Setting) := [('c', .config)]

/-- An argument that can be the value of the flag in front of it. -/
def isValue (arg : List Char) : Bool := arg.head? ≠ some '-' || arg = ['-']

/-- An argument as a flag: with a long name or a letter, and the value that is attached to it. -/
inductive Flag where
  | long (name : List Char) (value : Option (List Char))
  | short (letter : Char) (attached : List Char)

/-- Reads an argument as a flag. -/
def Flag.ofText? : List Char → Option Flag
  | '-' :: '-' :: s =>
    let value := match s.dropWhile (· ≠ '=') with
      | [] => none
      | _ :: v => some v
    some (.long (s.takeWhile (· ≠ '=')) value)
  | '-' :: c :: s => some (.short c s)
  | _ => none

/-- What a flag asks for: a setting with a value or still without one, or an end of all reading. -/
def Flag.meaning : Flag → Except Refusal (Setting × Option (List Char))
  | .long name value =>
    match Setting.ofFlag? (String.ofList name) with
    | some s => .ok (s, value)
    | none =>
      if value.isNone && name = "version".toList then .error .version
      else if value.isNone && name = "help".toList then .error .help
      else .error .misused
  | .short letter attached =>
    match letters.lookup letter with
    | some s =>
      let value := if attached.head? = some '=' then attached.drop 1 else attached
      .ok (s, if attached.isEmpty then none else some value)
    | none =>
      if letter = 'V' then .error .version
      else if letter = 'h' then .error .help
      else .error .misused

/-- Adds a value, or refuses the arguments. -/
def Given.put (g : Given) (s : Setting) (value : List Char) : Except Refusal Given :=
  (g.add s (String.ofList value)).elim (.error .misused) .ok

/-- Reads arguments, all of which are flags and their values. -/
def readArguments (g : Given) : List String → Except Refusal Given
  | [] => .ok g
  | arg :: args =>
    if arg = "--" then
      if args.isEmpty then .ok g else .error .misused
    else
      match (Flag.ofText? arg.toList).elim (.error .misused) Flag.meaning, args with
      | .error r, _ => .error r
      | .ok (s, some value), args => do readArguments (← g.put s value) args
      | .ok (_, none), [] => .error .misused
      | .ok (s, none), value :: args => do
        if isValue value.toList then readArguments (← g.put s value.toList) args
        else .error .misused

/-- How the program is called. -/
def usage : String :=
  let line (s : Setting) : String :=
    "  --" ++ s.flag ++ " <VALUE>  (or the variable " ++ s.variableName ++ ")\n"
  "Usage: vigil [OPTIONS]\n\nOptions:\n" ++ String.join (Setting.all.map line) ++
    "  -c <VALUE>  the same as --config\n  -V, --version\n  -h, --help\n"

/-- The settings of arguments and variables. -/
def settings (env : Environment) (args : List String) : Except Refusal Given := do
  (Given.addVariables env (← readArguments [] args)).elim (.error .misused) .ok

end MetricAgent.CommandLine
