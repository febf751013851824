import Showcase.Disk.Bytes
import Showcase.Text.Utf8

namespace Showcase

open Text

/-! # Places in a source text

A place is reported as a line and a column, both counted from one.  Lines are
separated by line feeds, columns count characters, and a byte order mark at the
very beginning takes no column.
-/

/-- A place in the file `path`. -/
structure Location where
  path : String
  line : Nat
  column : Nat
deriving DecidableEq, Repr, Inhabited

namespace Location

def byteOrderMark : Char := Char.ofNat 0xFEFF

/-- The characters after the last line feed, or all of them. -/
def lastLine (before : List Char) : List Char :=
  (before.reverse.takeWhile (· ≠ '\n')).reverse

/-- The characters of the last line that take a column. -/
def visibleLine (before : List Char) : List Char :=
  if before.contains '\n' then lastLine before
  else if before.head? = some byteOrderMark then before.drop 1 else before

/-- Where the byte offset `offset` of `source` is.  An offset past the end stands for
the end. -/
def ofOffset (source path : String) (offset : Nat) : Location :=
  let before := takeBytes offset source.toList
  { path
    line := before.count '\n' + 1
    column := (visibleLine before).length + 1 }

/-- The place as it is printed: path, line and column, separated by colons. -/
def display (location : Location) : String :=
  s!"{Path.shown location.path}:{location.line}:{location.column}"

end Location

end Showcase
