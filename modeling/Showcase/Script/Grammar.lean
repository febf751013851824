import Showcase.Script.Cursor

namespace Showcase.Script

/-! # The recursive rules of the grammar

Expressions, types, patterns, statements and markup contain each other.  A grammar
gives a parser for each rule through which that recursion goes; the parsers of all
other constructs are written over an arbitrary grammar, and the knot is tied once,
with a bound on the depth that is larger than the text can use up.
-/

/-- Where a statement stands. -/
inductive StatementPlace where
  /-- In a list of statements. -/
  | list
  /-- As the only statement of a branch, a loop or a label. -/
  | single
deriving DecidableEq

/-- What a binding pattern is. -/
inductive Pattern where
  | name (id : Identifier)
  | structured (span : Span)
  | defaulted (span : Span)

/-- The rules through which the grammar is recursive. -/
inductive Rule where
  | expression
  /-- An assignment expression; `returnType` unless an arrow function here may not
  have a return type. -/
  | assignment (returnType : Bool)
  /-- A binary expression of operators that bind tighter than `floor`. -/
  | binary (floor : Nat)
  | unary
  | leftHandSide
  /-- The callee of `new`, without calls; the answer tells of an optional chain too. -/
  | callee
  | statement (place : StatementPlace)
  | type
  | operatorType
  | pattern
  | markupElement (nested : Bool)

/-- What a rule yields. -/
abbrev Rule.Result : Rule → Type
  | .expression => Expr
  | .assignment _ => Expr
  | .binary _ => Expr
  | .unary => Expr
  | .leftHandSide => Expr
  | .callee => Expr × Bool
  | .statement _ => Statement
  | .type => Unit
  | .operatorType => Unit
  | .pattern => Pattern
  | .markupElement _ => Unit

/-- A parser for every rule. -/
structure Grammar where
  run : (rule : Rule) → Parse rule.Result

namespace Grammar

def expression (g : Grammar) : Parse Expr := g.run .expression

def assignment (g : Grammar) : Parse Expr := g.run (.assignment true)

def assignmentWith (g : Grammar) (returnType : Bool) : Parse Expr :=
  g.run (.assignment returnType)

def binary (g : Grammar) (floor : Nat) : Parse Expr := g.run (.binary floor)

def unary (g : Grammar) : Parse Expr := g.run .unary

def leftHandSide (g : Grammar) : Parse Expr := g.run .leftHandSide

def callee (g : Grammar) : Parse (Expr × Bool) := g.run .callee

def statement (g : Grammar) (place : StatementPlace) : Parse Statement :=
  g.run (.statement place)

def type (g : Grammar) : Parse Unit := g.run .type

def operatorType (g : Grammar) : Parse Unit := g.run .operatorType

def pattern (g : Grammar) : Parse Pattern := g.run .pattern

def markupElement (g : Grammar) (nested : Bool) : Parse Unit := g.run (.markupElement nested)

end Grammar

end Showcase.Script
