import MetricAgent.Config.Document
import MetricAgent.Config.Environment
import MetricAgent.Config.Validation
import MetricAgent.FileTree
import MetricAgent.Yaml.Value

/-!
Configurations in files. References to variables are replaced first, and a text of blanks alone
stands for the defaults.
-/

namespace MetricAgent.Config

open Text

/-- YAML documents. -/
def yamlFormat (d : Yaml.Document) : DocumentFormat Yaml.Node where
  record? _ n := d.pairs? n
  items? := d.items?
  text? := d.text?
  optionalText? := d.optionalText?
  flag? := d.flag?
  word? := d.word?
  choice? := d.choice?

/-- Reads a document; one without a node is a record without fields. -/
def AgentConfig.ofYaml? (d : Yaml.Document) : Option AgentConfig :=
  AgentConfig.ofDocument? (yamlFormat d) (d.root.getD .nothing)

/-- Reads a text, without a look at whether the configuration can be run. -/
def AgentConfig.ofText? (env : Environment) (s : List Char) : Option AgentConfig :=
  let s := expand env s
  if (trim s).isEmpty then some .default
  else (Yaml.Document.ofText? s).bind AgentConfig.ofYaml?

/-- Why there is no configuration. -/
inductive ConfigError where
  | notFound (path : String)
  | unreadable (e : SystemError)
  | malformed
  | invalid (e : Fault)
  deriving DecidableEq, Repr

/-- What a path leads to. -/
inductive FileState where
  | missing
  | refused (c : SystemCause)
  | content (bytes : ByteArray)

/-- What a path leads to among some files with contents. -/
def FileState.find (t : FileTree) (content : Path → ByteArray) (p : Path) : FileState :=
  match t.obstacle? [] p, t.find? p with
  | some .notFound, _ | none, none => .missing
  | some c, _ => .refused c
  | none, some ⟨.regular, _⟩ => .content (content p)
  | none, some ⟨.directory, _⟩ => .refused .isADirectory
  | none, some ⟨.socket, _⟩ => .refused .noDevice

/-- What the text of a path leads to. -/
def FileState.ofText (t : FileTree) (content : Path → ByteArray) (base : Path) (s : String) :
    FileState :=
  match find t content (.ofText base s) with
  | .content bytes => if Path.isOfDirectory s then .refused .notADirectory else .content bytes
  | f => f

/-- Reads a file as a configuration. -/
def read (env : Environment) (path : String) : FileState → Except ConfigError AgentConfig
  | .missing => .error (.notFound path)
  | .refused c => .error (.unreadable (.cause c))
  | .content bytes =>
    match String.fromUTF8? bytes with
    | none => .error (.unreadable .invalidText)
    | some s => (AgentConfig.ofText? env s.toList).elim (.error .malformed) .ok

/-- Reads a file that may be missing. -/
def readOrDefault (env : Environment) (path : String) (f : FileState) :
    Except ConfigError AgentConfig :=
  match f with
  | .missing => .ok .default
  | f => read env path f

/-- A configuration that can be run. -/
def checked (c : Except ConfigError AgentConfig) : Except ConfigError AgentConfig := do
  (← c).validate.mapError .invalid

def ConfigError.message : ConfigError → String
  | notFound path => "config file not found: " ++ path
  | unreadable e => "failed to read config file: " ++ e.message
  | malformed => "failed to parse YAML config"
  | invalid e => "config validation error: " ++ e.message

/-- The error with its kind; the cause of a text that is no configuration is not kept. -/
def ConfigError.describe : ConfigError → String
  | notFound path => "NotFound(" ++ quote path ++ ")"
  | unreadable e => "IoError(" ++ e.describe ++ ")"
  | malformed => "ParseError"
  | invalid e => "ValidationError(" ++ quote e.message ++ ")"

end MetricAgent.Config
