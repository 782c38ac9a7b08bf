import ChatPad.Toml.Value

/-!
# Records

A record is a value with fields that are known beforehand.  It need not be a table: it can also be
an array of its fields in order, of which some may be missing at the end and any number of items may
follow.  A point in time counts as a record with none of the fields and one key that means nothing.
A strict record refuses keys that mean nothing.
-/

namespace ChatPad.Toml

/-- The fields of a record that are there. -/
abbrev Fields := String → Option Value

/-- The entries of a table as the fields with these names. -/
def Fields.ofEntries (names : List String) (strict : Bool) (entries : List (String × Value)) :
    Option Fields :=
  if strict && !(entries.all fun (key, _) => names.contains key) then none
  else some fun name => entries.lookup name

/-- A value as a record of fields with these names. -/
def Value.fields? (names : List String) (strict : Bool) : Value → Option Fields
  | .table entries => Fields.ofEntries names strict entries
  | .array items => some fun name => (names.zip items).lookup name
  | .dateTime _ => if strict then none else some fun _ => none
  | _ => none

namespace Fields

variable {α : Type}

/-- A field that has to be there. -/
def required (fields : Fields) (name : String) (read? : Value → Option α) : Option α := do
  read? (← fields name)

/-- A field with a default. -/
def optional (fields : Fields) (name : String) (default : α) (read? : Value → Option α) :
    Option α :=
  match fields name with
  | none => some default
  | some value => read? value

end Fields

end ChatPad.Toml
