namespace Showcase

/-! # Output formats and their names -/

/-- The forms in which results are written. -/
inductive OutputFormat where
  | text
  | json
  | csv
  | markdown
deriving DecidableEq, Repr, Inhabited

namespace OutputFormat

def name : OutputFormat → String
  | text => "text"
  | json => "json"
  | csv => "csv"
  | markdown => "markdown"

def ofName? : String → Option OutputFormat
  | "text" => some text
  | "json" => some json
  | "csv" => some csv
  | "markdown" => some markdown
  | _ => none

/-- The format of a name or of the short name of one. -/
def ofNameOrAlias? : String → Option OutputFormat
  | "md" => some markdown
  | s => ofName? s

/-- The sign for the unit of temperature named after Kelvin, whose small form is a plain k. -/
def kelvinSign : Char := Char.ofNat 0x212A

/-- The small form of a letter, as far as a format name can have it. -/
def smallLetter (c : Char) : Char := if c = kelvinSign then 'k' else c.toLower

/-- The format of a name or a short name in any mixture of capital and small letters. -/
def ofAnyCase? (s : String) : Option OutputFormat :=
  ofNameOrAlias? (String.ofList (s.toList.map smallLetter))

/-- The wording for a name that no format has. -/
def unknownMessage (s : String) : String := s!"Invalid output format: {s}"

theorem ofName?_name (format : OutputFormat) : ofName? format.name = some format := by
  cases format <;> rfl

end OutputFormat

end Showcase
