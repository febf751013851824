import Showcase.Text.Utf8
import Showcase.Text.NameCharacters
import Showcase.Script.Program

namespace Showcase.Script

open Text

/-! # Tokens

Words and marks are told apart by their spelling.  A word that was written with an
escape is never a keyword.
-/

/-- What a token is. -/
inductive Lexeme where
  | word (name : String) (escaped : Bool)
  | privateName (name : String)
  | mark (text : String)
  | string (value : String)
  | number (value : Binary64)
  | bigint
  | regex
  /-- A template without substitution, with its cooked text unless an escape is bad. -/
  | templateWhole (cooked : Option String)
  | templateHead (cooked : Option String)
  | templateMiddle (cooked : Option String)
  | templateTail (cooked : Option String)
  | markupText
  | malformed
  | finish
deriving DecidableEq, Repr, Inhabited

/-- A token with its place and the source text from its first character on. -/
structure Token where
  lexeme : Lexeme
  start : Nat
  stop : Nat
  /-- Whether a line break stands before the token. -/
  afterBreak : Bool
  text : List Char
deriving Inhabited

namespace Lexeme

def describe : Lexeme → String
  | word name _ => name
  | privateName name => "#" ++ name
  | mark text => text
  | string _ => "string"
  | number _ => "number"
  | bigint => "bigint"
  | regex => "regexp"
  | templateWhole _ | templateHead _ | templateMiddle _ | templateTail _ => "template"
  | markupText => "JSXText"
  | malformed => "Unknown"
  | finish => "EOF"

end Lexeme

/-- Words that are never names. -/
def reservedWords : List String :=
  ["break", "case", "catch", "class", "const", "continue", "debugger", "default", "delete",
   "do", "else", "enum", "export", "extends", "false", "finally", "for", "function", "if",
   "import", "in", "instanceof", "new", "null", "return", "super", "switch", "this", "throw",
   "true", "try", "typeof", "var", "void", "while", "with"]

/-- Line feed, carriage return, line separator and paragraph separator. -/
def isLineBreak (c : Char) : Bool :=
  c = '\n' || c = '\r' || c.val = 0x2028 || c.val = 0x2029

/-- Blanks between tokens that are no line breaks. -/
def isSpace (c : Char) : Bool :=
  c = ' ' || c = '\t' || c.val = 0x0B || c.val = 0x0C || c.val = 0xA0 || c.val = 0xFEFF ||
    c.val = 0x1680 || (0x2000 ≤ c.val && c.val ≤ 0x200A) || c.val = 0x202F ||
    c.val = 0x205F || c.val = 0x3000

/-- Whether a character may start a name. -/
def startsName (c : Char) : Bool :=
  if c.val < 0x80 then c.isAlpha || c = '$' || c = '_'
  else NameCharacters.inBlocks c.toNat NameCharacters.starting

/-- Whether a character may continue a name. -/
def continuesName (c : Char) : Bool :=
  if c.val < 0x80 then c.isAlphanum || c = '$' || c = '_'
  else
    c.val = 0x200C || c.val = 0x200D ||
      NameCharacters.inBlocks c.toNat NameCharacters.starting ||
      NameCharacters.inBlocks c.toNat NameCharacters.continuing

def hexDigit? (c : Char) : Option Nat :=
  if '0' ≤ c ∧ c ≤ '9' then some (c.toNat - '0'.toNat)
  else if 'a' ≤ c ∧ c ≤ 'f' then some (c.toNat - 'a'.toNat + 10)
  else if 'A' ≤ c ∧ c ≤ 'F' then some (c.toNat - 'A'.toNat + 10)
  else none

end Showcase.Script
