import ChatPad.Command.Palette
import ChatPad.Parser.Plain

/-!
# Reports

A message is reported in a line, or in full: the tokens and the sets that were matched, what the
grammar alone makes of the message, what becomes of it in the end, and how long that took.
-/

namespace ChatPad.Command

/-- The sequence that a message stands for, or that it stands for none. -/
def outcomeText (palette : Palette) : Option InputSequence → String
  | some sequence => palette.paint .green sequence.text
  | none => palette.paint .red "rejected"

/-- A report in one line. -/
def summaryLine (palette : Palette) (text : String) (outcome : Option InputSequence) : String :=
  palette.paint .cyan (Text.quoted text) ++ " " ++ palette.paint .dim "→" ++ " "
    ++ outcomeText palette outcome

/-- A heading, with a blank line before it. -/
def heading (palette : Palette) (title : String) : List String :=
  ["", palette.paint .gray ("━━━ " ++ title ++ " ━━━")]

/-- What is in front of a token. -/
def slotText : Slot → String
  | .leading => "lead"
  | .additional => "+"

/-- The line of a token. -/
def tokenLine (palette : Palette) (token : MatchedToken) : String :=
  "  " ++ palette.paint .yellow (Text.decimal token.start ++ ".." ++ Text.decimal token.stop)
    ++ " " ++ palette.paint .bold (palette.paint .green token.text)
    ++ " " ++ palette.paint .dim ("│ " ++ slotText token.slot ++ " │")
    ++ " " ++ palette.paint .blue token.definition

/-- The lines of the tokens. -/
def tokenLines (palette : Palette) (tokens : List MatchedToken) : List String :=
  if tokens.isEmpty then [palette.paint .dim "  No tokens matched"]
  else tokens.map (tokenLine palette)

/-- What comes after the tokens of a set: whether it is held, and how often it is repeated. -/
def setExtras (details : Details) (start stop : Nat) : List String :=
  let within (offset : Nat) : Bool := start ≤ offset && offset < stop
  let held := if details.holds.any within then ["held"] else []
  let repeated := match details.repeats.find? fun (offset, _) => within offset with
    | some (_, count) => ["×" ++ Text.decimal count]
    | none => []
  held ++ repeated

/-- The line of a set. -/
def setLine (palette : Palette) (details : Details) (index : Nat) (span : Nat × Nat) : String :=
  "  " ++ palette.paint .gray ("[" ++ Text.decimal index ++ "]")
    ++ " " ++ palette.paint .yellow
      ("span " ++ Text.decimal span.1 ++ ".." ++ Text.decimal span.2)
    ++ " " ++ palette.paint .cyan (" ".intercalate (setExtras details span.1 span.2))

/-- The lines of the sets. -/
def setLines (palette : Palette) (details : Details) : List String :=
  if details.sets.isEmpty then [palette.paint .dim "  No sets matched"]
  else details.sets.zipIdx.map fun (span, index) => setLine palette details index span

/-- The lines on what the grammar alone makes of a message. -/
def grammarLines (palette : Palette) (details : Details) : List String :=
  match details.outcome with
  | .ok sequence =>
    ["  " ++ palette.paint .dim "grammar:" ++ " " ++ palette.paint .green sequence.text,
      "  " ++ palette.paint .dim "chat:" ++ " " ++ sequence.chat true]
  | .error reason =>
    ["  " ++ palette.paint .dim "grammar:" ++ " " ++ palette.paint .red reason.message]

/-- What may be wrong with a message that the grammar accepts. -/
def reasonLines (palette : Palette) : List String :=
  ["", palette.paint .yellow "Possible reasons:",
    "  • Same button or same outcome twice in one set",
    "  • Conflicting buttons, or a lone button combined with others",
    "  • Several touches without multitouch",
    "", palette.paint .dim "  Tip: Set RUST_LOG=crowdinput=debug to see the exact violation"]

/-- The lines on what becomes of a message in the end. -/
def finalLines (palette : Palette) (details : Details) (outcome : Option InputSequence) :
    List String :=
  ("  " ++ palette.paint .dim "final:" ++ " " ++ outcomeText palette outcome)
    :: if outcome.isNone && details.result.isSome then reasonLines palette else []

/-- A full report.  The line on how long it took is given. -/
def fullReport (palette : Palette) (details : Details) (outcome : Option InputSequence)
    (timing : String) : List String :=
  ["", palette.paint .bold (palette.paint .cyan ("⚙  Parsing: \"" ++ details.text ++ "\""))]
  ++ heading palette "Tokens" ++ tokenLines palette details.tokens
  ++ heading palette "Sets" ++ setLines palette details
  ++ heading palette "Result" ++ grammarLines palette details
  ++ finalLines palette details outcome
  ++ heading palette "Timing" ++ [timing, ""]

end ChatPad.Command
