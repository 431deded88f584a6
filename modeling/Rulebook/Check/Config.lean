import Rulebook.Check.Settings
import Rulebook.Toml.Decode

/-!
# The configuration

A configuration gives the parameters of the rule checker and the packages that rule files may
import. It is read from a file that is named explicitly, or else from the one of the usual name if
that is there, and what is said on the command line goes before it.
-/

namespace Rulebook

open Decoder

/-- The parameters of the rule checker. -/
structure CheckerSection where
  rules : String := ""
  debug : String := ""
  failOnError : String := ""
  order : String := "message"
  deriving Repr, DecidableEq, Inhabited

/-- A configuration. -/
structure Config where
  checker : CheckerSection := {}
  importable : List String := []
  deriving Repr, DecidableEq, Inhabited

/-- Parameters that go before those of a configuration. -/
structure Overrides where
  rules : Option String := none
  debug : Option String := none
  failOnError : Option String := none
  order : Option String := none
  deriving Repr, DecidableEq, Inhabited

/-- Why there is no configuration. -/
inductive ConfigError where
  | inaccessible (cause : IoError)
  | missing (path : String)
  | unreadable (path : String) (cause : IoError)
  | invalid (path : String) (fault : Toml.Fault)
  deriving Repr, DecidableEq

def ConfigError.message : ConfigError → String
  | inaccessible cause => "IO error: " ++ cause.message
  | missing path => "Config file not found at " ++ path
  | unreadable path cause => s!"failed to read config {path}: {cause.message}"
  | invalid path fault => s!"invalid config {path}: {fault.message}"

namespace Config

def checkerShape : Shape CheckerSection where
  name := "CheckerSection"
  fields := ["rules", "debug", "fail_on_error", "order"]
  strict := true
  set draft name value :=
    match name with
    | "rules" => return { draft with rules := ← Decoder.string value }
    | "debug" => return { draft with debug := ← Decoder.string value }
    | "fail_on_error" => return { draft with failOnError := ← Decoder.string value }
    | _ => return { draft with order := ← Decoder.string value }

def parseShape : Shape (List String) where
  name := "ParseSection"
  fields := ["importable"]
  strict := true
  set _ _ value := list Decoder.string value

def shape : Shape Config where
  name := "RulecheckConfig"
  fields := ["checker", "parse"]
  strict := true
  set draft name value :=
    match name with
    | "checker" =>
      return { draft with checker := ← checkerShape.decode {} (fun draft _ => .ok draft) value }
    | _ =>
      return { draft with importable := ← parseShape.decode [] (fun draft _ => .ok draft) value }

def ofData : Decoder Config := shape.decode {} fun draft _ => .ok draft

/-- The name under which a configuration is looked for. -/
def fileName : String := "rulecheck.toml"

/-- Reads a configuration from a file. -/
def load (fs : FileSystem) (path : String) : Except ConfigError Config := do
  let isThere ← (fs.isThere path).mapError .inaccessible
  if !isThere then .error (.missing path)
  else
    let text ← (fs.read path).mapError (.unreadable path)
    (Toml.decode ofData text).mapError (.invalid path)

/-- The configuration with the path of its file, if it has one: that of a file named explicitly,
else that of the file of the usual name, else the one with all defaults. -/
def discover (fs : FileSystem) (explicit : Option String) :
    Except ConfigError (Option String × Config) :=
  match explicit with
  | some path => (some path, ·) <$> load fs path
  | none => do
    let isThere ← (fs.isThere fileName).mapError .inaccessible
    if isThere then (some fileName, ·) <$> load fs fileName else .ok (none, {})

/-- The path that an environment variable names; an empty value names none. -/
def explicitPath (env : Option String) : Option String := env.filter (· ≠ "")

def override (c : Config) (o : Overrides) : Config :=
  { c with checker :=
    { rules := o.rules.getD c.checker.rules
      debug := o.debug.getD c.checker.debug
      failOnError := o.failOnError.getD c.checker.failOnError
      order := o.order.getD c.checker.order } }

/-- The parameters for the rule checker. -/
def params (c : Config) : Params :=
  .ofList [("rules", c.checker.rules), ("debug", c.checker.debug),
    ("fail_on_error", c.checker.failOnError), ("order", c.checker.order)]

def parseContext (c : Config) : ParseContext := ⟨SortedSet.ofList c.importable⟩

end Config

end Rulebook
