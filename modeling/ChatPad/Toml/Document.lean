import ChatPad.Toml.Expression

/-!
# Documents

A document is a sequence of lines: blank ones, pairs, and headers, which say for which table the
pairs below them are.
-/

namespace ChatPad.Toml

open Reader

/-- A line of a document. -/
inductive Line where
  | blank
  | pair (pair : Pair)
  /-- A header of a table. -/
  | table (path : List String) (key : String)
  /-- A header of a further element in an array of tables. -/
  | element (path : List String) (key : String)

/-- Takes a line, except for its end. -/
def lineContent : Reader Line := do
  spaces
  if ← atEnd then pure .blank
  else if ← sees fun c => c == '#' || c == '\n' || c == '\r' then pure .blank
  else if ← wordIf ['[', '['] then
    let (path, key) ← key
    word [']', ']']
    pure (.element path key)
  else if ← wordIf ['['] then
    let (path, key) ← key
    word [']']
    pure (.table path key)
  else return .pair (← pair (value depthLimit))

/-- Takes a line. -/
def line : Reader Line := do
  let content ← lineContent
  lineEnd
  pure content

/-- The pairs up to the next header, and the lines from there on. -/
def pairsBeforeHeader : List Line → List Pair × List Line
  | .blank :: rest => pairsBeforeHeader rest
  | .pair pair :: rest => (pair :: (pairsBeforeHeader rest).1, (pairsBeforeHeader rest).2)
  | rest => ([], rest)

theorem length_pairsBeforeHeader_le (lines : List Line) :
    (pairsBeforeHeader lines).2.length ≤ lines.length := by
  fun_induction pairsBeforeHeader lines <;> simp_all <;> omega

/-- Adds the sections that lines consist of. -/
def addSections (table : Table) : List Line → Option Table
  | [] => some table
  | .table path key :: rest => do
    let table ← table.addSection path key (pairsBeforeHeader rest).1
    addSections table (pairsBeforeHeader rest).2
  | .element path key :: rest => do
    let table ← table.addElement path key (pairsBeforeHeader rest).1
    addSections table (pairsBeforeHeader rest).2
  | .blank :: rest => addSections table rest
  | .pair pair :: rest => do addSections (← table.add pair) rest
termination_by lines => lines.length
decreasing_by
  all_goals
    have := length_pairsBeforeHeader_le rest
    simp only [List.length_cons]
    omega

/-- The entries of the table that a document describes, unless it is not well formed.  A byte order
mark at its front does not count. -/
def parse? (text : String) : Option (List (String × Value)) := do
  let text := match text.toList with
    | '\ufeff' :: rest => rest
    | text => text
  let (lines, _) ← items (do return !(← atEnd)) line text
  let table ← addSections [] lines
  some (Table.finish table)

end ChatPad.Toml
