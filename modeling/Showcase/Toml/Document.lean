import Showcase.Toml.Scalar
import Showcase.Toml.Quoted

namespace Showcase.Toml

/-! # Configuration files

A file consists of lines: a key with its value, or the header of a table.  A file that
breaks a rule has no value at all.
-/

def skipBlanks (cs : List Char) : List Char := cs.dropWhile isBlank

/-- What follows a comment, which ends before a line break. -/
def afterComment (cs : List Char) : Option (List Char) :=
  let body := cs.takeWhile fun c => c ≠ '\n' && c ≠ '\r'
  if body.any isControl then none else some (cs.drop body.length)

/-- What follows blanks and a comment. -/
def afterGap (cs : List Char) : Option (List Char) :=
  match skipBlanks cs with
  | '#' :: rest => afterComment rest
  | rest => some rest

/-- What follows blanks, comments and line breaks. -/
def afterLines : Nat → List Char → Option (List Char)
  | 0, cs => some cs
  | fuel + 1, cs =>
    match afterGap cs with
    | none => none
    | some rest =>
      match afterBreak rest with
      | some rest => afterLines fuel rest
      | none => some rest

def skipLines (cs : List Char) : Option (List Char) := afterLines (cs.length + 1) cs

/-- What follows the end of a line. -/
def afterLine (cs : List Char) : Option (List Char) :=
  match afterGap cs with
  | some [] => some []
  | some rest => afterBreak rest
  | none => none

/-- Characters of a key without quotes. -/
def isKeyChar (c : Char) : Bool := c.isAlphanum || c = '_' || c = '-'

def keyPart (cs : List Char) : Option (String × List Char) :=
  match cs with
  | '"' :: _ | '\'' :: _ => quotedString false cs
  | cs =>
    let name := cs.takeWhile isKeyChar
    if name.isEmpty then none else some (String.ofList name, cs.drop name.length)

/-- A key whose parts are separated by points. -/
def key : Nat → List Char → Option (List String × List Char)
  | 0, _ => none
  | fuel + 1, cs =>
    match keyPart (skipBlanks cs) with
    | none => none
    | some (part, rest) =>
      match skipBlanks rest with
      | '.' :: rest =>
        match key fuel rest with
        | some (parts, rest) => some (part :: parts, rest)
        | none => none
      | rest => some ([part], rest)

/-- Characters that end a bare value. -/
def endsBare (c : Char) : Bool :=
  isBlank c || c = '\n' || c = '\r' || c = '#' || c = ',' || c = ']' || c = '\x7d' || c = '='

/-- A bare value at the front.  A date and a time of day may be separated by a blank. -/
def bare (cs : List Char) : Option (Toml × List Char) :=
  let word := cs.takeWhile (!endsBare ·)
  let rest := cs.drop word.length
  match afterDate word, rest with
  | some [], ' ' :: d :: more =>
    if d.isDigit then
      let time := (d :: more).takeWhile (!endsBare ·)
      (scalar? (word ++ ' ' :: time)).map fun v => (v, (d :: more).drop time.length)
    else (scalar? word).map fun v => (v, rest)
  | _, _ => (scalar? word).map fun v => (v, rest)

/-- The items of an array up to its end. -/
def items (value : List Char → Option (Toml × List Char)) :
    Nat → List Toml → List Char → Option (Toml × List Char)
  | 0, _, _ => none
  | fuel + 1, acc, cs =>
    match skipLines cs with
    | some (']' :: rest) => some (.array false acc.reverse, rest)
    | some cs =>
      match value cs with
      | none => none
      | some (v, rest) =>
        match skipLines rest with
        | some (',' :: rest) => items value fuel (v :: acc) rest
        | some (']' :: rest) => some (.array false (v :: acc).reverse, rest)
        | _ => none
    | none => none

/-- The entries of a table between braces up to its end. -/
def inlineEntries (value : List Char → Option (Toml × List Char)) :
    Nat → Table → List Char → Option (Toml × List Char)
  | 0, _, _ => none
  | fuel + 1, whole, cs =>
    match skipLines cs with
    | some ('\x7d' :: rest) => some (.table .inlined whole.entries, rest)
    | some cs =>
      match key (cs.length + 1) cs with
      | some (path, '=' :: rest) =>
        match value (skipBlanks rest) with
        | none => none
        | some (v, rest) =>
          match whole.assign path v, skipLines rest with
          | some whole, some (',' :: rest) => inlineEntries value fuel whole rest
          | some whole, some ('\x7d' :: rest) => some (.table .inlined whole.entries, rest)
          | _, _ => none
      | _ => none
    | none => none

/-- A value in which arrays and tables are nested at most `depth` deep. -/
def value : Nat → List Char → Option (Toml × List Char)
  | depth, cs =>
    match cs with
    | '"' :: _ | '\'' :: _ => (quotedString true cs).map fun (s, rest) => (.string s, rest)
    | '[' :: rest =>
      match depth with
      | 0 => none
      | depth + 1 => items (value depth) (rest.length + 1) [] rest
    | '\x7b' :: rest =>
      match depth with
      | 0 => none
      | depth + 1 => inlineEntries (value depth) (rest.length + 1) (.empty .header) rest
    | cs => bare cs

/-- How deep arrays and tables may be nested. -/
def depthLimit : Nat := 80

/-- A header after its first bracket: the path, whether it names an array of tables, and
what follows. -/
def header (cs : List Char) : Option (List String × Bool × List Char) :=
  match cs with
  | '[' :: cs =>
    match key (cs.length + 1) cs with
    | some (path, ']' :: ']' :: rest) => some (path, true, rest)
    | _ => none
  | cs =>
    match key (cs.length + 1) cs with
    | some (path, ']' :: rest) => some (path, false, rest)
    | _ => none

/-- What has been read: the whole table, and the header that holds now. -/
structure Reading where
  root : Table
  current : List String

/-- One line, which begins with no blank. -/
def line (reading : Reading) (cs : List Char) : Option (Reading × List Char) :=
  match cs with
  | '[' :: rest =>
    match header rest with
    | none => none
    | some (path, isArray, rest) =>
      match if isArray then reading.root.openElement path else reading.root.openTable path,
          afterLine rest with
      | some root, some rest => some ({ root, current := path }, rest)
      | _, _ => none
  | cs =>
    match key (cs.length + 1) cs with
    | some (path, '=' :: rest) =>
      match value depthLimit (skipBlanks rest) with
      | none => none
      | some (v, rest) =>
        match reading.root.atHeader (·.assign path v) reading.current, afterLine rest with
        | some root, some rest => some ({ reading with root }, rest)
        | _, _ => none
    | _ => none

def lines : Nat → Reading → List Char → Option Table
  | 0, _, _ => none
  | fuel + 1, reading, cs =>
    match skipLines cs with
    | none => none
    | some [] => some reading.root
    | some cs =>
      match line reading (skipBlanks cs) with
      | none => none
      | some (reading, rest) => lines fuel reading rest

/-- The mark that may stand at the beginning of a file. -/
def byteOrderMark : Char := Char.ofNat 0xFEFF

/-- The entries of a configuration file, unless it is malformed. -/
def parse? (text : String) : Option Entries :=
  let cs := match text.toList with
    | c :: rest => if c = byteOrderMark then rest else c :: rest
    | [] => []
  (lines (cs.length + 2) ⟨.empty .header, []⟩ cs).map (·.entries)

end Showcase.Toml
