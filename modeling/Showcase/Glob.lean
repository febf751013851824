namespace Showcase

/-! # Wildcard patterns

A pattern is matched against a whole text.  A question mark stands for any
character, an asterisk for any characters, slashes among them, brackets for one of a
set of characters, and two asterisks that make up a whole path component for any
directories or for all the rest.
-/

/-- An element of a bracket: single characters and ranges. -/
inductive GlobSpan where
  | single (c : Char)
  | range (low high : Char)
deriving DecidableEq, Repr

/-- A part of a pattern. -/
inductive GlobToken where
  | char (c : Char)
  | anyChar
  | within (spans : List GlobSpan)
  | except (spans : List GlobSpan)
  /-- Any characters. -/
  | many
  /-- Any directories, each with its slash, or all the rest. -/
  | directories
deriving DecidableEq, Repr

/-- What is wrong with a pattern. -/
inductive GlobProblem where
  | tooManyAsterisks
  | partialComponent
  | badRange
deriving DecidableEq, Repr

/-- A problem with the number of characters before it. -/
structure GlobFault where
  position : Nat
  problem : GlobProblem
deriving DecidableEq, Repr

def GlobProblem.message : GlobProblem → String
  | tooManyAsterisks => "wildcards are either regular \x60*\x60 or recursive \x60**\x60"
  | partialComponent => "recursive wildcards must form a single path component"
  | badRange => "invalid range pattern"

def GlobFault.message (fault : GlobFault) : String :=
  s!"Pattern syntax error near position {fault.position}: {fault.problem.message}"

/-- A pattern. -/
structure Glob where
  tokens : List GlobToken
deriving DecidableEq, Repr

namespace GlobSpan

def contains (c : Char) : GlobSpan → Bool
  | single d => c = d
  | range low high => low ≤ c && c ≤ high

def ofChars : List Char → List GlobSpan
  | a :: '-' :: b :: rest => range a b :: ofChars rest
  | a :: rest => single a :: ofChars rest
  | [] => []

end GlobSpan

namespace Glob

/-- The body of a bracket, which has at least one character, and what follows it. -/
def bracketBody : List Char → Option (List Char × List Char)
  | [] => none
  | c :: cs =>
    match cs.dropWhile (· ≠ ']') with
    | [] => none
    | _ :: rest => some (c :: cs.takeWhile (· ≠ ']'), rest)

/-- A bracket after its opening mark. -/
def bracket : List Char → Option (GlobToken × List Char)
  | '!' :: cs => (bracketBody cs).map fun (body, rest) => (.except (GlobSpan.ofChars body), rest)
  | cs => (bracketBody cs).map fun (body, rest) => (.within (GlobSpan.ofChars body), rest)

/-- Adds the token of a recursive wildcard. -/
def pushDirectories (acc : List GlobToken) : List GlobToken :=
  match acc with
  | .directories :: _ :: _ => acc
  | _ => .directories :: acc

/-- The tokens of the pattern `cs`, of which `position` characters stand before the rest;
`before` is the last of these. -/
def tokensFrom : Nat → Nat → Option Char → List GlobToken → List Char →
    Except GlobFault (List GlobToken)
  | _, _, _, acc, [] => .ok acc.reverse
  | 0, _, _, acc, _ => .ok acc.reverse
  | fuel + 1, position, before, acc, c :: cs =>
    if c = '?' then tokensFrom fuel (position + 1) (some c) (.anyChar :: acc) cs
    else if c = '*' then
      let count := (cs.takeWhile (· = '*')).length + 1
      let rest := cs.dropWhile (· = '*')
      if 2 < count then .error ⟨position + 2, .tooManyAsterisks⟩
      else if count = 2 then
        if position = 0 ∨ before = some '/' then
          match rest with
          | [] => tokensFrom fuel (position + 2) (some '*') (pushDirectories acc) []
          | '/' :: rest => tokensFrom fuel (position + 3) (some '/') (pushDirectories acc) rest
          | _ => .error ⟨position + 2, .partialComponent⟩
        else .error ⟨position - 1, .partialComponent⟩
      else tokensFrom fuel (position + 1) (some c) (.many :: acc) cs
    else if c = '[' then
      match bracket cs with
      | some (token, rest) =>
        tokensFrom fuel (position + 1 + (cs.length - rest.length)) (some ']') (token :: acc) rest
      | none => .error ⟨position, .badRange⟩
    else tokensFrom fuel (position + 1) (some c) (.char c :: acc) cs

def parse (pattern : String) : Except GlobFault Glob :=
  match tokensFrom pattern.length 0 none [] pattern.toList with
  | .ok tokens => .ok { tokens }
  | .error fault => .error fault

/-- What is left of a text after each of its slashes, and its end. -/
def afterSlashes : List Char → List (List Char)
  | [] => [[]]
  | c :: cs => if c = '/' then cs :: afterSlashes cs else afterSlashes cs

/-- A text and everything that is left of it after some characters. -/
def suffixes : List Char → List (List Char)
  | [] => [[]]
  | c :: cs => (c :: cs) :: suffixes cs

/-- Whether tokens match a whole text. -/
def matchTokens : List GlobToken → List Char → Bool
  | [], cs => cs.isEmpty
  | .many :: ts, cs => (suffixes cs).any (matchTokens ts)
  | .directories :: ts, cs => (cs :: afterSlashes cs).any (matchTokens ts)
  | _ :: _, [] => false
  | .char d :: ts, c :: cs => c = d && matchTokens ts cs
  | .anyChar :: ts, _ :: cs => matchTokens ts cs
  | .within spans :: ts, c :: cs => spans.any (·.contains c) && matchTokens ts cs
  | .except spans :: ts, c :: cs => !spans.any (·.contains c) && matchTokens ts cs

/-- Whether a pattern matches a text. -/
def isMatch (glob : Glob) (text : String) : Bool := matchTokens glob.tokens text.toList

end Glob

end Showcase
