import Mathlib.Logic.Relation
import Showcase.Proofs.Reading.Bare

namespace Showcase

open Script

/-!
# Wrappers around values

Parentheses, type annotations and the assertion `!` can be put around any value of a
program, and taken away from it, without a change of what the program says.  One wrapper
more or less leaves the bare form as it is, and the bare form says everything.
-/

namespace Script

/-- One more wrapper stands around a value in the second expression. -/
inductive Expr.Wraps : Expr → Expr → Prop
  | here (s : Span) (w : Wrapper) (e : Expr) : Wraps e (.wrapped s w e)
  | inside (s : Span) (w : Wrapper) {e e' : Expr} (h : Wraps e e') :
      Wraps (.wrapped s w e) (.wrapped s w e')
  | element (s : Span) (before after : List Element) {e e' : Expr} (h : Wraps e e') :
      Wraps (.array s (before ++ .item e :: after)) (.array s (before ++ .item e' :: after))
  | member (s span : Span) (key : Key) (before after : List Member) {e e' : Expr}
      (h : Wraps e e') :
      Wraps (.object s (before ++ .property span key .value e :: after))
        (.object s (before ++ .property span key .value e' :: after))
  | operand (s : Span) {e e' : Expr} (h : Wraps e e') : Wraps (.negation s e) (.negation s e')
  | assigned (s : Span) (plain : Bool) (target : Expr) {e e' : Expr} (h : Wraps e e') :
      Wraps (.assignment s plain target e) (.assignment s plain target e')

inductive Declaration.Wraps : Declaration → Declaration → Prop
  | initial (name : Identifier) (before after : List Declarator) {e e' : Expr}
      (h : e.Wraps e') :
      Wraps (.declarators (before ++ ⟨name, some e⟩ :: after))
        (.declarators (before ++ ⟨name, some e'⟩ :: after))

inductive Statement.Wraps : Statement → Statement → Prop
  | expression (s : Span) {e e' : Expr} (h : e.Wraps e') :
      Wraps (.expression s e) (.expression s e')
  | exportAssignment {e e' : Expr} (h : e.Wraps e') :
      Wraps (.exportAssignment e) (.exportAssignment e')
  | exportDefault {e e' : Expr} (h : e.Wraps e') : Wraps (.exportDefault e) (.exportDefault e')
  | declaration {d d' : Declaration} (h : d.Wraps d') : Wraps (.declaration d) (.declaration d')
  | exportDeclaration {d d' : Declaration} (h : d.Wraps d') :
      Wraps (.exportDeclaration d) (.exportDeclaration d')

/-- The second program is the first one with one more wrapper around a value. -/
inductive Program.Wraps : Program → Program → Prop
  | statement (before after : List Statement) {st st' : Statement} (h : st.Wraps st') :
      Wraps ⟨before ++ st :: after⟩ ⟨before ++ st' :: after⟩

/-! ## One step -/

theorem Expr.Wraps.bare_eq {e e' : Expr} (h : e.Wraps e') : e.bare = e'.bare := by
  induction h with
  | here s w e => rw [bare_wrapped]
  | inside s w _ ih => rw [bare_wrapped, bare_wrapped, ih]
  | element s before after _ ih => simp [Element.bare, ih]
  | member s span key before after _ ih => simp [Member.bare, ih]
  | operand s _ ih => rw [bare_negation, bare_negation, ih]
  | assigned s plain target _ ih => rw [bare_assignment, bare_assignment, ih]

theorem Declaration.Wraps.bare_eq {d d' : Declaration} (h : d.Wraps d') : d.bare = d'.bare := by
  cases h with
  | initial name before after h => simp [bare, Declarator.bare, h.bare_eq]

theorem Statement.Wraps.bare_eq {st st' : Statement} (h : st.Wraps st') : st.bare = st'.bare := by
  cases h with
  | expression s h => rw [bare, bare, h.bare_eq]
  | exportAssignment h | exportDefault h => rw [bare, bare, h.bare_eq]
  | declaration h | exportDeclaration h => rw [bare, bare, h.bare_eq]

theorem Program.Wraps.bare_eq {p q : Program} (h : p.Wraps q) : p.bare = q.bare := by
  cases h with
  | statement before after h => simp [bare, h.bare_eq]

/-! ## Any number of steps, in both directions -/

theorem Program.bare_eq_of_eqvGen {p q : Program} (h : Relation.EqvGen Program.Wraps p q) :
    p.bare = q.bare := by
  induction h with
  | rel p q h => exact h.bare_eq
  | refl p => rfl
  | symm p q _ ih => exact ih.symm
  | trans p q r _ _ ihp ihq => exact ihp.trans ihq

/-- Programs that differ in wrappers only say the same: the search ends with the same object,
wrappers in it apart, or the same number of candidates, and the object is read alike. -/
theorem findings_eq_of_wraps {p q : Program} (h : Relation.EqvGen Program.Wraps p q)
    (style : ExportStyle) (code : String) :
    let f := p.findings style code
    let g := q.findings style code
    f.search.bare = g.search.bare ∧
      f.reading.map (·.component) = g.reading.map (·.component) ∧
      f.reading.map (·.unresolved.map (·.name)) = g.reading.map (·.unresolved.map (·.name)) ∧
      f.reading.map (·.text) = g.reading.map (·.text) ∧
      f.reading.map (·.entries) = g.reading.map (·.entries) ∧
      f.reading.map (·.config) = g.reading.map (·.config) := by
  intro f g
  have hbare : f.bare = g.bare := by
    rw [← Program.findings_bare, ← Program.findings_bare, Program.bare_eq_of_eqvGen h]
  have hreading : f.reading.map Reading.bare = g.reading.map Reading.bare :=
    congrArg Findings.reading hbare
  -- Only the bindings of unresolved components hold expressions; their names do not change.
  have hproj {α : Type} (part : Reading → α) (hpart : ∀ r, part r.bare = part r) :
      f.reading.map part = g.reading.map part := by
    have hmap := congrArg (Option.map part) hreading
    simpa [Option.map_map, Function.comp_def, hpart] using hmap
  refine ⟨congrArg Findings.search hbare, hproj _ fun _ => rfl, hproj _ fun r => ?_,
    hproj _ fun _ => rfl, hproj _ fun _ => rfl, hproj _ fun _ => rfl⟩
  simp [Reading.bare, UnresolvedComponent.bare, Function.comp_def]

namespace Wrapped

/-- `export default { props: [props] }` -/
def exported (props : Expr) : Expr :=
  .object ⟨0, 0⟩ [.property ⟨0, 0⟩ (.name "props") .value (.array ⟨0, 0⟩ [.item props])]

/-- `export default { props: [({})] }` -/
def inner : Program :=
  ⟨[.exportDefault (exported (.wrapped ⟨1, 5⟩ .parentheses (.object ⟨2, 4⟩ [])))]⟩

/-- `export default { props: [{}] } as const` -/
def outer : Program :=
  ⟨[.exportDefault (.wrapped ⟨0, 9⟩ .asType (exported (.object ⟨2, 4⟩ [])))]⟩

end Wrapped

open Wrapped in
theorem findings_eq_of_wraps_sample :
    Relation.EqvGen Program.Wraps inner outer ∧
      (let f := inner.findings .exportStatement " ({})"
       let g := outer.findings .exportStatement " ({})"
       f.search.bare = g.search.bare ∧
        f.reading.map (·.component) = g.reading.map (·.component) ∧
        f.reading.map (·.unresolved.map (·.name)) = g.reading.map (·.unresolved.map (·.name)) ∧
        f.reading.map (·.text) = g.reading.map (·.text) ∧
        f.reading.map (·.entries) = g.reading.map (·.entries) ∧
        f.reading.map (·.config) = g.reading.map (·.config)) := by
  let plain : Program := ⟨[.exportDefault (exported (.object ⟨2, 4⟩ []))]⟩
  have hinner : plain.Wraps inner :=
    .statement [] [] (.exportDefault (.member _ _ _ [] [] (.element _ [] [] (.here _ _ _))))
  have houter : plain.Wraps outer := .statement [] [] (.exportDefault (.here _ _ _))
  have h : Relation.EqvGen Program.Wraps inner outer :=
    .trans _ _ _ (.symm _ _ (.rel _ _ hinner)) (.rel _ _ houter)
  exact ⟨h, findings_eq_of_wraps h .exportStatement " ({})"⟩

end Script

end Showcase
