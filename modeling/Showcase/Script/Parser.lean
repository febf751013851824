import Showcase.Script.Statements

namespace Showcase.Script

/-! # Parsing a text

The rules are tied together with a bound on how deep they may call each other.  A
rule passes through only a few others before a token is read, so a small multiple
of the length of the text is never reached.
-/

def Rule.body (g : Grammar) : (rule : Rule) → Parse rule.Result
  | .expression => Parse.expressionBody g
  | .assignment allowed => Parse.assignmentBody g allowed
  | .binary floor => Parse.binaryBody g floor
  | .unary => Parse.unaryBody g
  | .leftHandSide => Parse.leftHandSideBody g
  | .callee => Parse.calleeBody g
  | .statement place => Parse.statementBody g place
  | .type => Parse.typeBody g
  | .operatorType => Parse.prefixedType g
  | .pattern => Parse.bindingPattern g
  | .markupElement nested => Parse.markupBody g nested

/-- The parser of a rule in which rules are nested at most `depth` deep. -/
def Rule.parse : Nat → (rule : Rule) → Parse rule.Result
  | 0, _ => Parse.stop .tooDeep
  | depth + 1, rule => rule.body ⟨Rule.parse depth⟩

/-- The grammar in which rules are nested at most `depth` deep. -/
def Grammar.ofDepth (depth : Nat) : Grammar := ⟨Rule.parse depth⟩

namespace Program

/-- A directive: a statement that is a string and nothing else. -/
def isDirective : Statement → Bool
  | .expression span (.string s _) => span.start == s.start
  | _ => false

/-- The statements of a text without the directives at its beginning. -/
def statements (g : Grammar) : Parse (List Statement) := do
  let all ← Parse.many do
    if ← Parse.isAtEnd then return none
    return some (← g.statement .list)
  return all.dropWhile isDirective

/-- The cursor at the beginning of a text.  A byte order mark and a line that begins with
a number sign and an exclamation mark are passed over. -/
def firstCursor (dialect : Dialect) (source : String) : Cursor :=
  let cs := source.toList
  let place : Lexer.Place := match cs with
    | c :: rest => if c.toNat = 0xFEFF then ⟨rest, c.utf8Size⟩ else ⟨cs, 0⟩
    | [] => ⟨[], 0⟩
  let place := match place.rest with
    | '#' :: '!' :: rest => Lexer.advanceTo place (rest.dropWhile (!isLineBreak ·))
    | _ => place
  let lexed := Lexer.next place
  { token := lexed.token
    next := lexed.next
    previousEnd := 0
    dialect
    surroundings := {
      allowIn := true, yields := false, awaits := true, returns := false, ambient := false
      decorator := false, noConditional := false }
    problems := lexed.problem.toList
    pendingDefaults := []
    trailingCommas := []
    exported := [] }

/-- How deep rules may be nested in a text. -/
def depthFor (source : String) : Nat := 32 * (source.length + 4)

/-- Parses a text.  It is refused with every diagnostic that was noted. -/
def parse (dialect : Dialect) (source : String) : Except (List Diagnostic) Program :=
  let g := Grammar.ofDepth (depthFor source)
  match statements g (firstCursor dialect source) with
  | .error d => .error [d]
  | .ok (body, c) =>
    let left := c.pendingDefaults.map fun _ => Diagnostic.invalid "shorthand default"
    match c.problems.reverse ++ left with
    | [] => .ok { body }
    | problems => .error problems

end Program

end Showcase.Script
