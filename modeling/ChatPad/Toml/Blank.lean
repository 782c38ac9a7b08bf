import ChatPad.Toml.Reader

/-!
# Blanks, line ends and comments

Within a line only spaces and tabs separate.  A line ends with a line feed, which a carriage return
may precede, or with the document.
-/

namespace ChatPad.Toml

open Reader

/-- Whether a character is a blank within a line. -/
def isSpace (c : Char) : Bool := c == ' ' || c == '\t'

/-- Whether a character may stand for itself in a comment or in a string on one line, where of the
ASCII controls only the tab may. -/
def isPlain (c : Char) : Bool := c == '\t' || (0x20 ≤ c.toNat && c.toNat != 0x7F)

/-- Takes the blanks within a line. -/
def spaces : Reader Unit := discard <| span isSpace

/-- Whether a line end is next. -/
def newlineAhead : Reader Bool := do
  if ← ahead ['\n'] then pure true else ahead ['\r', '\n']

/-- Takes a line end. -/
def newline : Reader Unit := do
  discard <| wordIf ['\r']
  word ['\n']

/-- Takes a comment up to the end of its line. -/
def comment : Reader Unit := do
  word ['#']
  discard <| span isPlain

/-- Takes what may follow at the end of a line, and the line end. -/
def lineEnd : Reader Unit := do
  spaces
  if ← ahead ['#'] then comment
  unless ← atEnd do newline

/-- Takes blanks, comments and line ends, which may stand anywhere between the elements of an
array. -/
def gap : Reader Unit :=
  discard <| items (sees fun c => isSpace c || c == '\n' || c == '\r' || c == '#') do
    spaces
    if ← ahead ['#'] then comment
    if ← sees fun c => c == '\n' || c == '\r' then newline

end ChatPad.Toml
