/-!
# Arguments

The command takes options and messages.  Arguments are looked at from left to right, and the first
one that asks for help or for the version, or that is a mistake, decides.  Only that colors are both
forced and forbidden is noticed at the end.  After `--` there are only messages.
-/

namespace ChatPad.Command

/-- What the command is asked to do. -/
structure Request where
  /-- The file with the configuration. -/
  config : Option String := none
  /-- Whether colors are forced. -/
  color : Bool := false
  /-- Whether colors are forbidden. -/
  noColor : Bool := false
  /-- Whether every message gets a full report. -/
  verbose : Bool := false
  /-- The messages; without any, each line of the input is one. -/
  messages : List String := []
deriving DecidableEq, Repr

/-- A mistake in the arguments. -/
inductive Misuse where
  | unknown (option : String)
  | repeated (option : String)
  | noValue (option : String)
  | needlessValue (option : String)
  | contradiction (first second : String)
deriving DecidableEq, Repr

/-- The text of a mistake. -/
def Misuse.message : Misuse → String
  | unknown option => "unexpected argument '" ++ option ++ "' found"
  | repeated option => "the argument '" ++ option ++ "' cannot be used multiple times"
  | noValue option => "a value is required for '" ++ option ++ "' but none was supplied"
  | needlessValue option => "unexpected value for '" ++ option ++ "' found; no more were expected"
  | contradiction first second =>
    "the argument '" ++ first ++ "' cannot be used with '" ++ second ++ "'"

/-- What ends the arguments early. -/
inductive Interruption where
  | help
  | version
  | misuse (misuse : Misuse)
deriving DecidableEq, Repr

/-- An option. -/
inductive Switch where
  | config
  | color
  | noColor
  | verbose
  | help
  | version
deriving DecidableEq, Repr

namespace Switch

def all : List Switch := [config, color, noColor, verbose, help, version]

/-- The long name of an option. -/
def long : Switch → String
  | config => "config"
  | color => "color"
  | noColor => "no-color"
  | verbose => "verbose"
  | help => "help"
  | version => "version"

/-- The short name of an option, if it has one. -/
def short : Switch → Option Char
  | config => some 'c'
  | color => none
  | noColor => none
  | verbose => some 'v'
  | help => some 'h'
  | version => some 'V'

/-- An option as it is typed. -/
def typed (s : Switch) : String := "--" ++ s.long

def ofLong? (name : List Char) : Option Switch := all.find? fun s => s.long.toList == name

def ofShort? (c : Char) : Option Switch := all.find? fun s => s.short == some c

end Switch

/-- The arguments that were looked at so far. -/
structure Progress where
  request : Request := {}
  /-- Whether the next argument is the file with the configuration. -/
  awaitsConfig : Bool := false
  /-- Whether there are only messages from here on. -/
  onlyMessages : Bool := false
deriving DecidableEq, Repr

namespace Progress

/-- Ends with a mistake. -/
def fail {α : Type} (misuse : Misuse) : Except Interruption α := .error (.misuse misuse)

/-- Takes the file with the configuration. -/
def setConfig (p : Progress) (path : String) : Except Interruption Progress :=
  if path = "" then fail (.noValue Switch.config.typed)
  else if p.request.config.isSome then fail (.repeated Switch.config.typed)
  else .ok { p with request := { p.request with config := some path }, awaitsConfig := false }

/-- Takes an option without a value. -/
def setSwitch (p : Progress) (s : Switch) : Except Interruption Progress :=
  let once (seen : Bool) (request : Request) : Except Interruption Progress :=
    if seen then fail (.repeated s.typed) else .ok { p with request }
  match s with
  | .config => .ok { p with awaitsConfig := true }
  | .color => once p.request.color { p.request with color := true }
  | .noColor => once p.request.noColor { p.request with noColor := true }
  | .verbose => once p.request.verbose { p.request with verbose := true }
  | .help => .error .help
  | .version => .error .version

/-- Takes an option with its long name, which may have its value attached. -/
def setLong (p : Progress) (text : List Char) : Except Interruption Progress :=
  match Switch.ofLong? (text.takeWhile (· != '=')), text.dropWhile (· != '=') with
  | none, _ => fail (.unknown ("--" ++ String.ofList text))
  | some s, [] => p.setSwitch s
  | some .config, _ :: value => p.setConfig (String.ofList value)
  | some s, _ :: _ => fail (.needlessValue s.typed)

/-- The value that is attached to a short name, with or without an equals sign. -/
def attached : List Char → List Char
  | '=' :: value => value
  | value => value

/-- Takes options with their short names, of which the last may have its value attached. -/
def setShort (p : Progress) : List Char → Except Interruption Progress
  | [] => .ok p
  | c :: rest =>
    match Switch.ofShort? c with
    | none => fail (.unknown ("-" ++ String.ofList [c]))
    | some .config =>
      if rest = [] then .ok { p with awaitsConfig := true }
      else p.setConfig (String.ofList (attached rest))
    | some s => do setShort (← p.setSwitch s) rest

/-- Takes a message. -/
def addMessage (p : Progress) (message : String) : Progress :=
  { p with request := { p.request with messages := p.request.messages ++ [message] } }

/-- Takes an argument. -/
def take (p : Progress) (argument : String) : Except Interruption Progress :=
  if p.onlyMessages then .ok (p.addMessage argument)
  else
    match argument.toList, p.awaitsConfig with
    | '-' :: _ :: _, true => fail (.noValue Switch.config.typed)
    | _, true => p.setConfig argument
    | ['-', '-'], false => .ok { p with onlyMessages := true }
    | '-' :: '-' :: text, false => p.setLong text
    | '-' :: c :: rest, false => p.setShort (c :: rest)
    | _, false => .ok (p.addMessage argument)

/-- The request when there are no more arguments. -/
def finish (p : Progress) : Except Interruption Request :=
  if p.awaitsConfig then fail (.noValue Switch.config.typed)
  else if p.request.color && p.request.noColor then
    fail (.contradiction Switch.color.typed Switch.noColor.typed)
  else .ok p.request

end Progress

/-- Reads the arguments. -/
def Request.ofArguments (arguments : List String) : Except Interruption Request := do
  (← arguments.foldlM Progress.take {}).finish

end ChatPad.Command
