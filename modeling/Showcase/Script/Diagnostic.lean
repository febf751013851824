namespace Showcase.Script

/-! # What is wrong with a source text -/

/-- A reason to refuse a source text. -/
inductive Diagnostic where
  | missingSemicolon
  | unexpectedToken
  | expected (wanted : String) (found : String)
  | unterminated (what : String)
  | invalid (what : String)
  | misplaced (what : String)
  | tooDeep
deriving DecidableEq, Repr, Inhabited

namespace Diagnostic

def message : Diagnostic → String
  | missingSemicolon =>
    "Expected a semicolon or an implicit semicolon after a statement, but found none"
  | unexpectedToken => "Unexpected token"
  | expected wanted found => "Expected `" ++ wanted ++ "` but found `" ++ found ++ "`"
  | unterminated what => "Unterminated " ++ what
  | invalid what => "Invalid " ++ what
  | misplaced what => "Unexpected " ++ what
  | tooDeep => "Nesting is too deep"

end Diagnostic

end Showcase.Script
