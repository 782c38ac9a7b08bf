import ChatPad.Command.Arguments
import ChatPad.Command.Report
import ChatPad.Config.Schema
import ChatPad.Text.Blank

/-!
# Sessions

A session has the parser of a configuration, and its plain parser for full reports, and answers one
message after the other.  Without a configuration it is for a small handheld console.
-/

namespace ChatPad

/-- The configuration for a small handheld console. -/
def Config.handheld : Config where
  setLength := 2
  sequenceLength := 4
  buttons := ["a", "b", "x", "y", "l", "r", "start", "select", "wait"]
  dpad := some ""
  conflicts := [["start", "select"]]
  touchscreen := some { geometry := { width := 240, height := 160 }, allowDrag := true }

namespace Command

/-! ## Texts -/

/-- Lines as one text, each with its end. -/
def outputText (reports : List String) : String :=
  String.join (reports.map fun line => line ++ "\n")

/-- What tells which version this is. -/
def versionLines : List String := ["crowdinput 0.1.0"]

/-- What explains the arguments. -/
def helpLines : List String :=
  ["Parse chat messages into input sequences",
    "",
    "Usage: crowdinput [OPTIONS] [INPUT]...",
    "",
    "Arguments:",
    "  [INPUT]...  Messages to parse. Reads one message per line from stdin if omitted",
    "",
    "Options:",
    "  -c, --config <CONFIG>  Parser configuration (TOML). Defaults to a small handheld layout",
    "      --color            Force ANSI color output",
    "      --no-color         Disable ANSI color output",
    "  -v, --verbose          Print the token trace, set spans and timing for every message",
    "  -h, --help             Print help",
    "  -V, --version          Print version"]

/-! ## Messages -/

/-- The lines of a text.  The last line need not end with a line feed. -/
def lines : List Char → List (List Char)
  | [] => []
  | c :: rest =>
    if c = '\n' then [] :: lines rest
    else
      match lines rest with
      | [] => [[c]]
      | first :: others => (c :: first) :: others

/-- The message in a line, which goes without the white space at its end. -/
def messageOfLine (line : String) : String := String.ofList (Text.trimEnd line.toList)

/-- The messages of a request: those it has, or else the lines of the input. -/
def Request.allMessages (request : Request) (input : String) : List String :=
  if request.messages.isEmpty then
    (lines input.toList).map fun line => messageOfLine (String.ofList line)
  else request.messages

/-! ## Answers -/

/-- The parsers of a configuration. -/
structure Session where
  plain : PlainParser
  parser : Parser

namespace Session

/-- The session for a configuration. -/
def ofConfig (config : Config) : Except SetupError Session := do
  let layout ← config.toLayout
  let plain ← layout.plain
  let parser ← layout.build
  .ok ⟨plain, parser.value⟩

/-- The session for a request, with the content of its file if that could be read. -/
def ofRequest (request : Request) (content : Option String) : Except SetupError Session := do
  match request.config with
  | none => ofConfig Config.handheld
  | some path => ofConfig (← Config.ofFile path content)

/-- The report on a message, with the line on how long it took for a full one. -/
def report (session : Session) (palette : Palette) (verbose : Bool) (timing message : String) :
    List String :=
  let outcome := (session.parser message).value
  if verbose then fullReport palette (session.plain.details message) outcome timing
  else [summaryLine palette message outcome]

end Session

/-- Colors are used if they are forced, or if nothing is said and the output is a terminal. -/
def Request.palette (request : Request) (terminal : Bool) : Palette :=
  ⟨request.color || (!request.noColor && terminal)⟩

/-! ## Runs -/

/-- How a run of the command ends: its exit code, what it prints, and what it complains about. -/
structure Run where
  exitCode : UInt32
  output : String
  complaint : Option String := none
deriving DecidableEq, Repr

/-- A run that cannot begin. -/
def Run.refused (complaint : String) : Run := ⟨2, "", some ("error: " ++ complaint)⟩

/-- A run whose arguments end early. -/
def Interruption.run : Interruption → Run
  | .help => ⟨0, outputText helpLines, none⟩
  | .version => ⟨0, outputText versionLines, none⟩
  | .misuse mistake => .refused mistake.message

/-- A run of the command, for a given way to read files, input, and line on how long a message took,
when the output is not a terminal. -/
def run (readFile : String → Option String) (input timing : String) (arguments : List String) :
    Run :=
  match Request.ofArguments arguments with
  | .error interruption => interruption.run
  | .ok request =>
    match Session.ofRequest request (request.config.bind readFile) with
    | .error e => .refused e.message
    | .ok session =>
      let reports := (request.allMessages input).flatMap
        (session.report (request.palette false) request.verbose timing)
      ⟨0, outputText reports, none⟩

end Command

end ChatPad
