import ChatPad.Command.Session
import ChatPad.Command.Timing

/-!
# The command

Reads the arguments, the configuration and the messages, and prints the reports.  The exit code is 2
for mistakes in the arguments or the configuration, and 1 if the input cannot be read.
-/

namespace ChatPad.Command

/-- A value, and how many nanoseconds it took to compute. -/
def timed {α : Type} (compute : Unit → α) : IO (α × Nat) := do
  let start ← IO.monoNanosNow
  let value ← IO.lazyPure compute
  let stop ← IO.monoNanosNow
  return (value, stop - start)

/-- How long the plain parser takes for a message. -/
def Session.timing (session : Session) (message : String) : IO Timing := do
  let (captures, matching) ← timed fun _ => session.plain.grammar.captures? message.toList
  let (_, assembly) ← timed fun _ =>
    captures.map (assemble session.plain.definitions session.plain.grammar.limits)
  return ⟨matching + assembly, matching, assembly⟩

/-- Prints the report on a message. -/
def Session.answer (session : Session) (palette : Palette) (verbose : Bool) (message : String) :
    IO Unit := do
  let timing ← if verbose then session.timing message else pure ⟨0, 0, 0⟩
  IO.print (outputText (session.report palette verbose (timing.line palette) message))

/-- Prints the report on each line of the input as it comes in. -/
partial def Session.answerLines (session : Session) (palette : Palette) (verbose : Bool) :
    IO Unit := do
  let line ← (← IO.getStdin).getLine
  unless line.isEmpty do
    session.answer palette verbose (messageOfLine line)
    session.answerLines palette verbose

/-- The content of a file, if it can be read. -/
def content? (path : String) : IO (Option String) := do
  try
    return some (← IO.FS.readFile path)
  catch _ =>
    return none

/-- Ends the command as a run does. -/
def Run.finish (run : Run) : IO UInt32 := do
  IO.print run.output
  if let some complaint := run.complaint then IO.eprintln complaint
  return run.exitCode

/-- Answers the messages of a request. -/
def Session.serve (session : Session) (request : Request) : IO UInt32 := do
  let palette := request.palette (← (← IO.getStdout).isTty)
  if request.messages.isEmpty then
    try
      session.answerLines palette request.verbose
    catch e =>
      IO.eprintln ("error: failed to read stdin: " ++ e.toString)
      return 1
  else
    for message in request.messages do
      session.answer palette request.verbose message
  return 0

/-- Does what the arguments ask for. -/
def perform (arguments : List String) : IO UInt32 := do
  match Request.ofArguments arguments with
  | .error interruption => interruption.run.finish
  | .ok request =>
    let content ← match request.config with
      | none => pure none
      | some path => content? path
    match Session.ofRequest request content with
    | .error e => (Run.refused e.message).finish
    | .ok session => session.serve request

end ChatPad.Command

/-- Runs the command. -/
def main (arguments : List String) : IO UInt32 := ChatPad.Command.perform arguments
