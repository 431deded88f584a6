import Rulebook.Check.Report
import Rulebook.Check.Run

/-!
# The command line

There are two commands: one checks units, the other lists the checkers. Arguments that break the
rules are refused as a whole. A run of the program is a function of the files, the environment and
the arguments, and gives an exit status and what is written.
-/

namespace Rulebook

/-- The form of a report. -/
inductive OutputFormat where
  | human
  | json
  deriving Repr, DecidableEq, Inhabited

def OutputFormat.ofToken? (s : String) : Option OutputFormat :=
  if s = "human" then some .human else if s = "json" then some .json else none

/-- What is asked of the program. -/
inductive Command where
  | check (options : CheckOptions) (format : OutputFormat)
  | checkers (format : OutputFormat)
  deriving Repr, DecidableEq, Inhabited

/-- The level of log lines for a number of `-v` flags. -/
def logLevel (verbose : Nat) : String :=
  match verbose with
  | 0 => "warn"
  | 1 => "info"
  | _ => "debug"

namespace CommandLine

/-- The two commands. -/
inductive Verb where
  | check
  | checkers
  deriving Repr, DecidableEq

/-- An option that takes a value. -/
inductive Opt where
  | rules
  | debug
  | failOnError
  | order
  | config
  | output
  deriving Repr, DecidableEq

/-- What the arguments amount to so far. -/
structure Draft where
  values : List (Opt × String) := []
  units : List String := []
  deriving Repr, DecidableEq, Inhabited

/-- The option that goes by a long name. -/
def longOption? (verb : Verb) (name : String) : Option Opt :=
  match verb, name with
  | _, "output" => some .output
  | .checkers, _ => none
  | .check, "rules" => some .rules
  | .check, "debug" => some .debug
  | .check, "fail-on-error" => some .failOnError
  | .check, "order" => some .order
  | .check, "config" => some .config
  | .check, _ => none

/-- Whether an option takes a value. -/
def accepts (opt : Opt) (value : String) : Bool :=
  match opt with
  | .output => (OutputFormat.ofToken? value).isSome
  | .order => value = "message" || value = "position"
  | .config => value ≠ ""
  | _ => true

/-- Gives an option its value, which it may have only once. -/
def Draft.set (d : Draft) (opt : Opt) (value : String) : Option Draft :=
  if d.values.any (fun v => v.1 = opt) || !accepts opt value then none
  else some { d with values := d.values ++ [(opt, value)] }

/-- Takes a unit, where the command has units. -/
def Draft.addUnit (d : Draft) (verb : Verb) (path : String) : Option Draft :=
  if verb = .check && path ≠ "" then some { d with units := d.units ++ [path] } else none

/-- Whether an argument can be the value of the option before it. A single hyphen can. -/
def isValue (arg : String) : Bool := arg = "-" || arg.toList.head? ≠ some '-'

/-- What a cluster of short flags asks for. -/
inductive Cluster where
  /-- Nothing but to say more. -/
  | flags
  /-- The value of the output option, if it is in the same argument. -/
  | output (value : Option String)

/-- Reads the letters of a cluster. The letter of the output option takes the letters after it as
its value, with or without an equals sign. -/
def cluster? : List Char → Option Cluster
  | [] => some .flags
  | 'v' :: cs => cluster? cs
  | ['f'] => some (.output none)
  | 'f' :: '=' :: cs => some (.output (some (String.ofList cs)))
  | 'f' :: cs => some (.output (some (String.ofList cs)))
  | _ => none

/-- What a single argument is, unless it is taken as the value of the option before it. -/
inductive Arg where
  /-- All arguments after it are units. -/
  | rest
  | flags
  | option (opt : Opt) (value : Option String)
  | unit (path : String)

/-- Reads an argument. -/
def arg? (verb : Verb) (arg : String) : Option Arg :=
  match arg.toList with
  | ['-', '-'] => some .rest
  | '-' :: '-' :: cs =>
    let name := String.ofList (cs.takeWhile (· ≠ '='))
    let value := match cs.dropWhile (· ≠ '=') with
      | [] => none
      | _ :: value => some (String.ofList value)
    (longOption? verb name).map fun opt => .option opt value
  | '-' :: c :: cs =>
    (cluster? (c :: cs)).map fun
      | .flags => .flags
      | .output value => .option .output value
  | _ => some (.unit arg)

/-- Reads the arguments of a command after those read so far. -/
def readArgs (verb : Verb) : Draft → List String → Option Draft
  | d, [] => some d
  | d, arg :: args =>
    match arg? verb arg with
    | none => none
    | some .rest => args.foldlM (fun d path => d.addUnit verb path) d
    | some .flags => readArgs verb d args
    | some (.unit path) => (d.addUnit verb path).bind fun d => readArgs verb d args
    | some (.option opt (some value)) => (d.set opt value).bind fun d => readArgs verb d args
    | some (.option opt none) =>
      match args with
      | [] => none
      | value :: args =>
        if isValue value then (d.set opt value).bind fun d => readArgs verb d args else none

/-- The value of an option. -/
def Draft.value? (d : Draft) (opt : Opt) : Option String :=
  (d.values.find? fun v => v.1 = opt).map Prod.snd

def Draft.format (d : Draft) : OutputFormat :=
  ((d.value? .output).bind OutputFormat.ofToken?).getD .human

def Draft.options (d : Draft) : CheckOptions where
  units := d.units
  config := d.value? .config
  overrides :=
    { rules := d.value? .rules
      debug := d.value? .debug
      failOnError := d.value? .failOnError
      order := d.value? .order }

/-- Reads all arguments. In front of the command there can be flags. -/
def parse : List String → Option Command
  | [] => none
  | arg :: args =>
    if arg = "check" then
      (readArgs .check {} args).map fun d => .check d.options d.format
    else if arg = "checkers" then
      (readArgs .checkers {} args).map fun d => .checkers d.format
    else match arg? .checkers arg with
      | some .flags => parse args
      | _ => none

/-- What a run of the program leaves behind. -/
structure Result where
  status : Nat
  stdout : String := ""
  /-- What is written to standard error, each text with a line feed after it. -/
  stderr : List String := []
  deriving Repr, DecidableEq, Inhabited

/-- The report on an outcome. -/
def report (format : OutputFormat) (o : CheckOutcome) : String :=
  match format with
  | .human => o.toText false
  | .json => o.toJsonText

/-- How a failure is told: by the first line of its text. -/
def headline (e : CheckFailure) : String := "Error: " ++ (Text.lines e.message).headD ""

/-- Checks units. A check that finds something or fails has status one. -/
def runCheck (fs : FileSystem) (env : Option String) (o : CheckOptions) (format : OutputFormat) :
    Result :=
  let r := CheckRun.run fs env o
  match r.result with
  | .ok outcome =>
    ⟨if outcome.hasFindings then 1 else 0, report format outcome, r.trace⟩
  | .error e => ⟨1, "", r.trace ++ [headline e]⟩

/-- Lists the checkers. -/
def listCheckers (fs : FileSystem) (format : OutputFormat) : String :=
  let infos := (Registry.shipped fs {}).infos
  match format with
  | .human => catalogueText false infos
  | .json => catalogueJson infos

/-- Runs a command. -/
def runCommand (fs : FileSystem) (env : Option String) : Command → Result
  | .check o format => runCheck fs env o format
  | .checkers format => ⟨0, listCheckers fs format, []⟩

/-- Runs the program with the value of the variable that names the configuration. Arguments that
break the rules have status two. -/
def run (fs : FileSystem) (env : Option String) (args : List String) : Result :=
  match parse args with
  | some command => runCommand fs env command
  | none => ⟨2, "", []⟩

end CommandLine

end Rulebook
