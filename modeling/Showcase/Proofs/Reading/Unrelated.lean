import Mathlib.Data.List.Basic
import Showcase.Proofs.Reading.Agreement

namespace Showcase

open Script

/-!
# Unrelated statements

Neither the order nor the presence of top-level statements that have nothing to do with
the export changes what a program says.  A change of the program shows in two places
only: in the scope, and in the list of objects that are exported.
-/

namespace ExportSearch

theorem object?_ofCandidates {objects : List ObjectLiteral} {object : ObjectLiteral}
    (h : (ofCandidates objects).object? = some object) : objects = [object] := by
  unfold ofCandidates at h
  split at h
  · simpa [object?] using h
  · simp [object?] at h

theorem ofCandidates_perm {xs ys : List ObjectLiteral} (h : xs.Perm ys) :
    ofCandidates xs = ofCandidates ys := by
  by_cases hx : ∃ object, xs = [object]
  · obtain ⟨object, rfl⟩ := hx
    rw [← List.singleton_perm.mp h]
  · have hy : ¬ ∃ object, ys = [object] := by
      rintro ⟨object, rfl⟩
      exact hx ⟨object, List.perm_singleton.mp h⟩
    unfold ofCandidates
    split
    · exact absurd ⟨_, rfl⟩ hx
    · split
      · exact absurd ⟨_, rfl⟩ hy
      · rw [h.length_eq]

end ExportSearch

namespace Script

namespace Statement

/-- Whether a statement binds a name. -/
def binds (statement : Statement) (x : String) : Bool :=
  statement.bindings.any (·.name.name == x)

theorem names_exported? {style : ExportStyle} {statement : Statement} {e : Expr}
    (h : statement.exported? style = some e) {x : String} (hx : x ∈ e.names) :
    x ∈ statement.names := by
  unfold exported? at h
  split at h
  · rename_i span value
    split at h
    · rename_i s target v hv
      split at h
      · obtain rfl : v = e := by simpa using h
        have hn : x ∈ value.peel.names := by
          simp [hv, Expr.names, hx]
        simpa [names] using hn
      · cases h
    · cases h
  · cases h
    exact hx
  · cases h
    exact hx
  · cases h

end Statement

theorem Declaration.names_initial {d : Declaration} {b : Binding} (hb : b ∈ d.bindings)
    {e : Expr} (he : b.initial = some e) {x : String} (hx : x ∈ e.names) : x ∈ d.names := by
  cases d with
  | declarators ds =>
      obtain ⟨declarator, hd, rfl⟩ := List.mem_map.mp hb
      refine List.mem_flatMap.mpr ⟨declarator, hd, List.mem_cons_of_mem _ ?_⟩
      simpa [show declarator.initial = some e from he] using hx
  | function name | ofClass name =>
      obtain ⟨n, -, rfl⟩ := List.mem_map.mp hb
      cases he
  | typed => simp [bindings] at hb

theorem Statement.names_initial {statement : Statement} {b : Binding}
    (hb : b ∈ statement.bindings) {e : Expr} (he : b.initial = some e) {x : String}
    (hx : x ∈ e.names) : x ∈ statement.names := by
  cases statement with
  | declaration d | exportDeclaration d => exact Declaration.names_initial hb he hx
  | importing names module =>
      obtain ⟨n, -, rfl⟩ := List.mem_map.mp hb
      cases he
  | _ => simp [bindings] at hb

namespace Program

variable {style : ExportStyle} {s t : Scope}

theorem exportCandidates_congr {N : String → Prop} (h : s.AgreeOn N t) {program : Program}
    (hp : ∀ statement ∈ program.body, ∀ x ∈ statement.names, N x) :
    program.exportCandidates style (some s) = program.exportCandidates style (some t) := by
  refine List.filterMap_congr fun statement hmem => Option.bind_congr fun e he => ?_
  exact Expr.resolveObject_congr h fun x hx => hp statement hmem x (Statement.names_exported? he hx)

theorem within_of_mem_exportCandidates {N : String → Prop} (h : s.AgreeOn N t)
    {program : Program} (hp : ∀ statement ∈ program.body, ∀ x ∈ statement.names, N x)
    {object : ObjectLiteral} (ho : object ∈ program.exportCandidates style (some t)) :
    object.Within N := by
  obtain ⟨statement, hmem, ho⟩ := List.mem_filterMap.mp ho
  obtain ⟨e, he, ho⟩ := Option.bind_eq_some_iff.mp ho
  exact Expr.within_of_resolveObject h
    (fun x hx => hp statement hmem x (Statement.names_exported? he hx)) ho

/-- A program says the same in two scopes that agree on its names. -/
theorem findingsIn_congr {N : String → Prop} (h : s.AgreeOn N t) {program : Program}
    (hp : ∀ statement ∈ program.body, ∀ x ∈ statement.names, N x) (code : String) :
    program.findingsIn s style code = program.findingsIn t style code := by
  have hsearch : program.findExport style (some s) = program.findExport style (some t) := by
    unfold findExport
    rw [exportCandidates_congr h hp]
  have hreading : (program.findExport style (some t)).object?.map (·.reading s code) =
      (program.findExport style (some t)).object?.map (·.reading t code) := by
    refine Option.map_congr fun object ho => ObjectLiteral.reading_congr h ?_ code
    have hmem : object ∈ program.exportCandidates style (some t) := by
      rw [ExportSearch.object?_ofCandidates ho]
      exact List.mem_singleton_self object
    exact within_of_mem_exportCandidates h hp hmem
  simp only [findingsIn, hsearch, hreading]

/-- Programs that export the same objects in any order say the same in one scope. -/
theorem findingsIn_eq_of_perm {p q : Program}
    (h : (p.exportCandidates style (some t)).Perm (q.exportCandidates style (some t)))
    (code : String) : p.findingsIn t style code = q.findingsIn t style code := by
  have hsearch : p.findExport style (some t) = q.findExport style (some t) :=
    ExportSearch.ofCandidates_perm h
  simp only [findingsIn, hsearch]

end Program

/-! ## Scopes of related programs -/

theorem Statement.find?_bindings_of_not_binds {statement : Statement} {x : String}
    (h : statement.binds x = false) : statement.bindings.find? (·.name.name == x) = none := by
  simpa [binds] using h

/-- Only the statements that bind a name count for its first binder. -/
theorem find?_bindings_filter (body : List Statement) (x : String) :
    ((body.filter (·.binds x)).flatMap Statement.bindings).find? (·.name.name == x) =
      (body.flatMap Statement.bindings).find? (·.name.name == x) := by
  induction body with
  | nil => rfl
  | cons statement rest ih =>
      cases hb : statement.binds x with
      | true =>
          simp only [List.filter_cons, hb, if_true, List.flatMap_cons, List.find?_append, ih]
      | false =>
          simp only [List.filter_cons, hb, Bool.false_eq_true, if_false, List.flatMap_cons,
            List.find?_append, ih, Statement.find?_bindings_of_not_binds hb, Option.none_or]

/-- The same statements in an order that differs only between statements which bind no
common name. -/
structure Reordered (xs ys : List Statement) : Prop where
  perm : xs.Perm ys
  order : ∀ x, xs.filter (·.binds x) = ys.filter (·.binds x)

theorem Reordered.agreeOn {p q : Program} (h : Reordered p.body q.body) :
    (Scope.ofProgram p).AgreeOn (fun _ => True) (.ofProgram q) where
  get?_eq x _ := by
    rw [Scope.get?_ofProgram, Scope.get?_ofProgram, Program.bindings, Program.bindings,
      ← find?_bindings_filter p.body, ← find?_bindings_filter q.body, h.order]
  closed _ _ _ _ _ _ _ _ := trivial

/-- A statement among others that exports no object in a style and binds no name which
occurs in the others. -/
structure Unrelated (style : ExportStyle) (before after : List Statement)
    (statement : Statement) : Prop where
  exports : ∀ e, statement.exported? style = some e →
    e.resolveObject (some (.ofProgram ⟨before ++ statement :: after⟩)) = none
  binds : ∀ b ∈ statement.bindings, ∀ sibling ∈ before ++ after, b.name.name ∉ sibling.names

namespace Unrelated

variable {style : ExportStyle} {before after : List Statement} {statement : Statement}

theorem agreeOn (h : Unrelated style before after statement) :
    (Scope.ofProgram ⟨before ++ statement :: after⟩).AgreeOn
      (fun x => ∃ sibling ∈ before ++ after, x ∈ sibling.names)
      (.ofProgram ⟨before ++ after⟩) where
  get?_eq x hx := by
    obtain ⟨sibling, hmem, hx⟩ := hx
    have hnone : statement.bindings.find? (·.name.name == x) = none := by
      refine List.find?_eq_none.mpr fun b hb hbx => h.binds b hb sibling hmem ?_
      rwa [beq_iff_eq.mp hbx]
    simp only [Scope.get?_ofProgram, Program.bindings, List.flatMap_append, List.flatMap_cons,
      List.find?_append, hnone, Option.none_or]
  closed x _ b e hb he y hy := by
    rw [Scope.get?_ofProgram] at hb
    obtain ⟨sibling, hmem, hb⟩ := List.mem_flatMap.mp (List.mem_of_find?_eq_some hb)
    exact ⟨sibling, hmem, Statement.names_initial hb he hy⟩

theorem exportCandidates_eq (h : Unrelated style before after statement) :
    Program.exportCandidates ⟨before ++ statement :: after⟩ style
        (some (.ofProgram ⟨before ++ statement :: after⟩)) =
      Program.exportCandidates ⟨before ++ after⟩ style
        (some (.ofProgram ⟨before ++ statement :: after⟩)) := by
  have hnone : (statement.exported? style).bind
      (Expr.resolveObject (some (.ofProgram ⟨before ++ statement :: after⟩))) = none :=
    Option.bind_eq_none_iff.mpr h.exports
  simp only [Program.exportCandidates, List.filterMap_append, List.filterMap_cons, hnone]

end Unrelated

/-- What a program says depends neither on the order of statements that bind no common
name nor on the presence of a statement that is unrelated to the others. -/
theorem findings_eq_of_unrelated (style : ExportStyle) (code : String) :
    (∀ p q : Program, Reordered p.body q.body →
        p.findings style code = q.findings style code) ∧
      ∀ before after statement, Unrelated style before after statement →
        Program.findings ⟨before ++ statement :: after⟩ style code =
          Program.findings ⟨before ++ after⟩ style code := by
  constructor
  · intro p q h
    calc
      p.findings style code = p.findingsIn (.ofProgram q) style code :=
        Program.findingsIn_congr h.agreeOn (fun _ _ _ _ => trivial) code
      _ = q.findings style code :=
        Program.findingsIn_eq_of_perm (h.perm.filterMap _) code
  · intro before after statement h
    calc
      Program.findings ⟨before ++ statement :: after⟩ style code =
          Program.findingsIn ⟨before ++ after⟩
            (.ofProgram ⟨before ++ statement :: after⟩) style code :=
        Program.findingsIn_eq_of_perm (.of_eq h.exportCandidates_eq) code
      _ = Program.findings ⟨before ++ after⟩ style code :=
        Program.findingsIn_congr h.agreeOn (fun sibling hmem _ hx => ⟨sibling, hmem, hx⟩) code

namespace Sample

/-- `const name = value` -/
def constant (name : String) (value : Expr) : Statement :=
  .declaration (.declarators [⟨⟨name, ⟨0, 0⟩⟩, some value⟩])

/-- `module.exports = { component: Button, props: data }` -/
def exporting : Statement :=
  .expression ⟨0, 0⟩ (.assignment ⟨0, 0⟩ true
    (.member ⟨0, 0⟩ (.identifier ⟨"module", ⟨0, 0⟩⟩) "exports")
    (.object ⟨0, 0⟩
      [.property ⟨0, 0⟩ (.name "component") .value (.identifier ⟨"Button", ⟨0, 0⟩⟩),
        .property ⟨0, 0⟩ (.name "props") .value (.identifier ⟨"data", ⟨0, 0⟩⟩)]))

def button : Statement := constant "Button" (.definition ⟨0, 0⟩ .arrow)

def data : Statement := constant "data" (.object ⟨0, 0⟩ [])

/-- `const unused = Button` -/
def unused : Statement := constant "unused" (.identifier ⟨"Button", ⟨0, 0⟩⟩)

end Sample

open Sample in
theorem findings_eq_of_unrelated_sample :
    Reordered [data, exporting, button] [exporting, button, data] ∧
      Program.findings ⟨[data, exporting, button]⟩ .moduleExports "" =
        Program.findings ⟨[exporting, button, data]⟩ .moduleExports "" ∧
      Unrelated .moduleExports [exporting] [button, data] unused ∧
      Program.findings ⟨[exporting, unused, button, data]⟩ .moduleExports "" =
        Program.findings ⟨[exporting, button, data]⟩ .moduleExports "" := by
  have horder : Reordered [data, exporting, button] [exporting, button, data] := by
    refine ⟨show ([data] ++ [exporting, button]).Perm ([exporting, button] ++ [data]) from
      List.perm_append_comm, fun x => ?_⟩
    by_cases hx : x = "data"
    · subst hx
      rfl
    · have hd : data.binds x = false := by
        simpa [data, constant, Statement.binds, Statement.bindings, Declaration.bindings] using
          Ne.symm hx
      simp [List.filter_cons, hd]
  have hunrelated : Unrelated .moduleExports [exporting] [button, data] unused :=
    ⟨by simp [unused, constant, Statement.exported?], by decide⟩
  have hsame := (findings_eq_of_unrelated .moduleExports "").1
    ⟨[data, exporting, button]⟩ ⟨[exporting, button, data]⟩ horder
  have hwithout := (findings_eq_of_unrelated .moduleExports "").2
    [exporting] [button, data] unused hunrelated
  rw [List.singleton_append, List.singleton_append] at hwithout
  exact ⟨horder, hsame, hunrelated, hwithout⟩

end Script

end Showcase
