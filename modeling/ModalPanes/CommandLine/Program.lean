import ModalPanes.CommandLine.Arguments
import ModalPanes.GroundTruth
import ModalPanes.Scenario
import ModalPanes.Settings

/-!
# The program

Scenarios are read from a file and run; their snapshots are printed, or compared with recorded ones.  The
settings file comes first, then the options of the call, then what a scenario says itself.  Files are read
through a function, so that the program runs on any directory.
-/

namespace ModalPanes

namespace CommandLine

/-- Why a file cannot be read. -/
inductive ReadError where
  | missing
  | inFile
  | directory
  | notText
  | other (reason : List Char)
deriving DecidableEq

def ReadError.message : ReadError → List Char
  | missing => "No such file or directory (os error 2)".toList
  | inFile => "Not a directory (os error 20)".toList
  | directory => "Is a directory (os error 21)".toList
  | notText => "stream did not contain valid UTF-8".toList
  | other reason => reason

/-- The files that the program reads. -/
inductive FileKind where
  | config
  | fixtures
  | groundTruth
deriving DecidableEq

def FileKind.name : FileKind → List Char
  | config => "config".toList
  | fixtures => "fixtures".toList
  | groundTruth => "ground truth".toList

/-- What ends the program early. -/
inductive Failure where
  | unreadable (kind : FileKind) (path : List Char) (error : ReadError)
  | malformed (kind : FileKind) (path : List Char)
  | leader (error : LeaderError)
  | unknownScenario (name path : List Char)
  | scenario (name : List Char) (error : SessionError)
deriving DecidableEq

def ticked (name : List Char) : List Char := '\x60' :: name ++ ['\x60']

/-- The text of a failure; an error in a key is named along with the key. -/
def Failure.message : Failure → List Char
  | unreadable kind path error =>
      "reading ".toList ++ kind.name ++ ' ' :: path ++ ": ".toList ++ error.message
  | malformed kind path => "parsing ".toList ++ kind.name ++ ' ' :: path ++ ": malformed".toList
  | leader error => error.message
  | unknownScenario name path =>
      "no scenario named ".toList ++ ticked name ++ " in ".toList ++ path
  | scenario name error =>
      "scenario ".toList ++ ticked name ++ ": ".toList ++ error.fullMessage

/-- What the program comes to: its exit status, what it prints, and the message of a failure. -/
structure Outcome where
  code : Nat
  output : List Char := []
  failure : Option (List Char) := none
deriving DecidableEq

def versionText : List Char := "vimux 0.1.0\n".toList

def helpText : List Char :=
  ("Replay vim + tmux key sequences and capture the screen\n\n" ++
    "Usage: vimux [OPTIONS] <FIXTURES>\n\n" ++
    "Options:\n" ++
    "      --cols <COLS>      Terminal width\n" ++
    "      --rows <ROWS>      Terminal height\n" ++
    "      --scenario <NAME>  Run only the named scenario\n" ++
    "      --expected <FILE>  Snapshots to compare with\n" ++
    "      --pretty           Print snapshots on several lines\n" ++
    "      --config <FILE>    Settings file\n" ++
    "  -h, --help             Print help\n" ++
    "  -V, --version          Print version\n").toList

/-- The settings file that is read when none is named. -/
def defaultConfig : List Char := "vimux.toml".toList

section Reading

variable {m : Type → Type} [Monad m] (read : List Char → m (Except ReadError (List Char)))

def load {α : Type} (kind : FileKind) (path : List Char) (read? : List Char → Option α) :
    m (Except Failure α) := do
  match ← read path with
  | .error error => return .error (.unreadable kind path error)
  | .ok text =>
      match read? text with
      | some value => return .ok value
      | none => return .error (.malformed kind path)

/-- The settings; without a file of that name, the one that is read by default may be missing. -/
def loadSettings (path : Option (List Char)) : m (Except Failure Settings) := do
  match path with
  | some path => load read .config path Settings.read?
  | none =>
      match ← load read .config defaultConfig Settings.read? with
      | .error (.unreadable _ _ .missing) => return .ok {}
      | result => return result

end Reading

/-- What the scenarios start with. -/
def baseSetup (arguments : Arguments) (settings : Settings) : Except Failure Setup :=
  match settings.setup with
  | .error error => .error (.leader error)
  | .ok base =>
      .ok
        { base with
          cols := arguments.cols.getD base.cols
          rows := arguments.rows.getD base.rows }

/-- The scenarios that were chosen: all of them if none was named. -/
def chosen (arguments : Arguments) (path : List Char) (scenarios : Named Scenario) :
    Except Failure (Named Scenario) :=
  match arguments.scenarios.find? fun name => (scenarios.get? name).isNone with
  | some name => .error (.unknownScenario name path)
  | none =>
      .ok <| scenarios.filter fun entry =>
        arguments.scenarios.isEmpty || arguments.scenarios.contains entry.1

def snapshots (base : Setup) (scenarios : Named Scenario) : Except Failure (Named Snapshot) :=
  scenarios.mapM fun entry =>
    match entry.2.run base with
    | .ok snapshot => .ok (entry.1, snapshot)
    | .error error => .error (.scenario entry.1 error)

def printed (pretty : Bool) (found : Named Snapshot) : List Char :=
  let value := Json.object (found.map fun entry => (entry.1, entry.2.toJson))
  (if pretty then value.pretty else value.compact) ++ ['\n']

def judge (truth : Named Json) (found : Named Snapshot) : Report :=
  found.foldl (fun report entry => report.record entry.1 (truth.get? entry.1) entry.2) []

def compared (report : Report) : Outcome :=
  { code := if report.failures = 0 then 0 else 1, output := report.describe ++ ['\n'] }

section Running

variable {m : Type → Type} [Monad m] (read : List Char → m (Except ReadError (List Char)))

/-- Run the chosen scenarios of a file. -/
def capture (arguments : Arguments) (path : List Char) : m (Except Failure (Named Snapshot)) := do
  match (← loadSettings read arguments.config).bind (baseSetup arguments) with
  | .error failure => return .error failure
  | .ok base =>
      let scenarios ← load read .fixtures path Scenario.readAll?
      return (scenarios.bind (chosen arguments path)).bind (snapshots base)

/-- Print the snapshots, or compare them. -/
def conclude (arguments : Arguments) (found : Named Snapshot) : m (Except Failure Outcome) := do
  match arguments.expected with
  | none => return .ok { code := 0, output := printed arguments.pretty found }
  | some path =>
      let truth ← load read .groundTruth path GroundTruth.read?
      return truth.map fun truth => compared (judge truth found)

def run : Call → m Outcome
  | .version => return { code := 0, output := versionText }
  | .help => return { code := 0, output := helpText }
  | .refused => return { code := 2 }
  | .run arguments => do
      let path := arguments.fixtures.getD []
      let result ←
        match ← capture read arguments path with
        | .ok found => conclude read arguments found
        | .error failure => pure (.error failure)
      match result with
      | .ok outcome => return outcome
      | .error failure => return { code := 2, failure := some failure.message }

end Running

end CommandLine

end ModalPanes
