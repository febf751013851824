import Mathlib.Data.Option.Basic
import Showcase.Proofs.Reading.Findings

namespace Showcase

open Script

/-!
# Bare forms

The bare form of a program has no wrapper around any value.  Each reader commutes with
taking bare forms: what it finds in the bare form is the bare form of what it finds.
-/

namespace Script

mutual

/-- An expression without wrappers around the values in it. -/
def Expr.bare : Expr → Expr
  | .wrapped _ _ inner => inner.bare
  | .array s elements => .array s (bareElements elements)
  | .object s members => .object s (bareMembers members)
  | .negation s operand => .negation s operand.bare
  | .assignment s plain target value => .assignment s plain target value.bare
  | e => e

def bareElements : List Element → List Element
  | [] => []
  | .item e :: rest => .item e.bare :: bareElements rest
  | .spread s e :: rest => .spread s e.bare :: bareElements rest
  | .hole s :: rest => .hole s :: bareElements rest

def bareMembers : List Member → List Member
  | [] => []
  | .property s key kind value :: rest => .property s key kind value.bare :: bareMembers rest
  | .spread s e :: rest => .spread s e.bare :: bareMembers rest

end

def Element.bare : Element → Element
  | item e => item e.bare
  | spread s e => spread s e.bare
  | hole s => hole s

def Member.bare : Member → Member
  | property s key kind value => property s key kind value.bare
  | spread s e => spread s e.bare

theorem bareElements_eq_map (elements : List Element) :
    bareElements elements = elements.map Element.bare := by
  induction elements with
  | nil => rfl
  | cons element rest ih => cases element <;> simp [bareElements, Element.bare, ih]

theorem bareMembers_eq_map (members : List Member) :
    bareMembers members = members.map Member.bare := by
  induction members with
  | nil => rfl
  | cons m rest ih => cases m <;> simp [bareMembers, Member.bare, ih]

namespace Expr

@[simp] theorem bare_wrapped (s : Span) (w : Wrapper) (e : Expr) :
    (wrapped s w e).bare = e.bare := by
  rw [bare]

@[simp] theorem bare_array (s : Span) (elements : List Element) :
    (array s elements).bare = array s (elements.map Element.bare) := by
  rw [bare, bareElements_eq_map]

@[simp] theorem bare_object (s : Span) (members : List Member) :
    (object s members).bare = object s (members.map Member.bare) := by
  rw [bare, bareMembers_eq_map]

@[simp] theorem bare_negation (s : Span) (e : Expr) :
    (negation s e).bare = negation s e.bare := by
  rw [bare]

@[simp] theorem bare_assignment (s : Span) (plain : Bool) (target value : Expr) :
    (assignment s plain target value).bare = assignment s plain target value.bare := by
  rw [bare]

@[simp] theorem bare_peel (e : Expr) : e.peel.bare = e.bare := by
  fun_induction peel e with
  | case1 s w inner ih => rw [ih, bare_wrapped]
  | case2 => rfl

/-- A bare form is peeled. -/
@[simp] theorem peel_bare (e : Expr) : e.bare.peel = e.bare := by
  fun_induction peel e with
  | case1 s w inner ih => rwa [bare_wrapped]
  | case2 e h => cases e <;> first | rfl | exact absurd rfl (h _ _ _)

end Expr

def Declarator.bare (d : Declarator) : Declarator := { d with initial := d.initial.map Expr.bare }

def Declaration.bare : Declaration → Declaration
  | declarators ds => declarators (ds.map Declarator.bare)
  | function name => function name
  | ofClass name => ofClass name
  | typed => typed

def Statement.bare : Statement → Statement
  | expression s e => expression s e.bare
  | declaration d => declaration d.bare
  | exportDeclaration d => exportDeclaration d.bare
  | exportAssignment e => exportAssignment e.bare
  | exportDefault e => exportDefault e.bare
  | importing names module => importing names module
  | importEquals name module => importEquals name module
  | other => other

def Program.bare (program : Program) : Program := ⟨program.body.map Statement.bare⟩

end Script

def Binding.bare (b : Binding) : Binding := { b with initial := b.initial.map Expr.bare }

def Scope.bare (scope : Scope) : Scope := ⟨scope.bindings.map Binding.bare⟩

def Lookup.bare : Lookup → Lookup
  | initializer e => initializer e.bare
  | noInitializer b => noInitializer b.bare
  | undeclared => undeclared

/-! ## The scope -/

namespace Script

theorem Declaration.bindings_bare (d : Declaration) :
    d.bare.bindings = d.bindings.map Binding.bare := by
  cases d <;> simp [bare, bindings, Binding.bare, Declarator.bare]

theorem Statement.bindings_bare (statement : Statement) :
    statement.bare.bindings = statement.bindings.map Binding.bare := by
  cases statement <;> simp [bare, bindings, Declaration.bindings_bare, Binding.bare]

theorem Program.bindings_bare (program : Program) :
    program.bare.bindings = program.bindings.map Binding.bare := by
  simp [bare, bindings, List.flatMap_map, List.map_flatMap, Statement.bindings_bare]

end Script

namespace Scope

theorem get?_bare (scope : Scope) (x : String) :
    scope.bare.get? x = (scope.get? x).map Binding.bare := by
  simp [get?, bare, List.find?_map, Function.comp_def, Binding.bare]

theorem insert_bare (scope : Scope) (b : Binding) :
    scope.bare.insert b.bare = (scope.insert b).bare := by
  have hb : scope.bare.get? b.bare.name.name = (scope.get? b.name.name).map Binding.bare :=
    get?_bare scope b.name.name
  unfold insert
  rw [hb]
  cases scope.get? b.name.name <;> simp [bare]

theorem ofProgram_bare (program : Program) : ofProgram program.bare = (ofProgram program).bare := by
  have hfold (bs : List Binding) (scope : Scope) :
      (bs.map Binding.bare).foldl insert scope.bare = (bs.foldl insert scope).bare := by
    induction bs generalizing scope with
    | nil => rfl
    | cons b bs ih => rw [List.map_cons, List.foldl_cons, List.foldl_cons, insert_bare, ih]
  rw [ofProgram, Program.bindings_bare]
  exact hfold program.bindings empty

theorem lookup_bare (scope : Scope) (x : String) : scope.bare.lookup x = (scope.lookup x).bare := by
  unfold lookup
  rw [get?_bare]
  cases scope.get? x with
  | none => rfl
  | some b =>
      obtain ⟨kind, name, initial, module⟩ := b
      cases kind <;> cases initial <;> rfl

theorem initializer?_bare (scope : Scope) (x : String) :
    scope.bare.initializer? x = (scope.initializer? x).map Expr.bare := by
  unfold initializer?
  rw [lookup_bare]
  cases scope.lookup x <;> rfl

end Scope

def ObjectLiteral.bare (object : ObjectLiteral) : ObjectLiteral :=
  ⟨object.span, object.members.map Member.bare⟩

@[simp] theorem ObjectLiteral.span_bare (object : ObjectLiteral) :
    object.bare.span = object.span := rfl

/-! ## References -/

namespace Script

namespace Expr

/-- What an expression refers to is peeled. -/
theorem resolve_ne_wrapped (scope : Option Scope) (e : Expr) (s : Span) (w : Wrapper)
    (i : Expr) : e.resolve scope ≠ some (wrapped s w i) := by
  intro h
  unfold resolve at h
  split at h
  · obtain ⟨v, -, hv⟩ := Option.map_eq_some_iff.mp h
    exact peel_ne_wrapped v s w i hv
  · exact peel_ne_wrapped e s w i (by simpa using h)

theorem resolve_bare (s : Scope) (e : Expr) :
    e.bare.resolve (some s.bare) = (e.resolve (some s)).map bare := by
  unfold resolve
  rw [peel_bare, ← bare_peel]
  cases hp : e.peel with
  | identifier id => simp [bare, Scope.initializer?_bare, Function.comp_def]
  | wrapped span w inner => exact absurd hp (peel_ne_wrapped e span w inner)
  | _ => simp [bare]

theorem resolveObject_bare (s : Scope) (e : Expr) :
    e.bare.resolveObject (some s.bare) = (e.resolveObject (some s)).map ObjectLiteral.bare := by
  unfold resolveObject
  rw [resolve_bare]
  cases hr : e.resolve (some s) with
  | none => rfl
  | some v =>
      cases v with
      | wrapped span w inner => exact absurd hr (resolve_ne_wrapped (some s) e span w inner)
      | object span members => simp [ObjectLiteral.bare]
      | _ => simp [bare]

end Expr

theorem Member.plain?_bare (m : Member) :
    m.bare.plain? = m.plain?.map fun (name, value) => (name, value.bare) := by
  cases m with
  | spread span e => rfl
  | property span key kind value => cases kind <;> simp [bare, plain?, Function.comp_def]

theorem Element.expression?_bare (element : Element) :
    element.bare.expression? = element.expression?.map Expr.bare := by
  cases element <;> rfl

end Script

theorem ObjectLiteral.find?_bare (object : ObjectLiteral) (name : String) :
    object.bare.find? name = (object.find? name).map Expr.bare := by
  unfold find? bare
  rw [List.findSome?_map, List.map_findSome?]
  congr 1
  funext m
  rw [Function.comp_apply, Function.comp_apply, Member.plain?_bare]
  cases m.plain? with
  | none => rfl
  | some p =>
      simp only [Option.map_some]
      split <;> rfl

/-! ## Props -/

theorem objectText_bare (s : Scope) (code : String) (sub : Option String) (e : Expr) :
    objectText code (some s.bare) sub e.bare = objectText code (some s) sub e := by
  unfold objectText
  rw [Expr.resolveObject_bare]
  cases e.resolveObject (some s) with
  | none => rfl
  | some object =>
      cases sub with
      | none => rfl
      | some name =>
          cases hf : object.find? name with
          | none => simp [hf, ObjectLiteral.find?_bare]
          | some v =>
              cases ho : v.resolveObject (some s) <;>
                simp [hf, ho, ObjectLiteral.find?_bare, Expr.resolveObject_bare]

namespace PropsElement

def bare : PropsElement → PropsElement
  | plain e => plain e.bare
  | tuple props options => tuple (props.map Expr.bare) (options.map Expr.bare)

theorem ofExpr_bare (s : Scope) (e : Expr) :
    ofExpr (some s.bare) e.bare = (ofExpr (some s) e).bare := by
  unfold ofExpr
  rw [Expr.resolve_bare]
  cases hr : e.resolve (some s) with
  | none => rfl
  | some v =>
      cases v with
      | array span elements =>
          simp [bare, Option.bind_map, Option.map_bind, Element.expression?_bare]
      | wrapped span w inner => exact absurd hr (Expr.resolve_ne_wrapped (some s) e span w inner)
      | _ => simp [Expr.bare, bare]

theorem text_bare (s : Scope) (code : String) (sub : Option String) (element : PropsElement) :
    element.bare.text code (some s.bare) sub = element.text code (some s) sub := by
  cases element with
  | plain e => exact objectText_bare s code sub e
  | tuple props options =>
      cases sub <;> simp [bare, text, Option.bind_map, objectText_bare]

end PropsElement

/-! ## Static values -/

namespace Static

mutual

theorem valueWith_bare (f : String → Option Json) (e : Expr) :
    valueWith f e.bare = valueWith f e := by
  cases e with
  | wrapped span w inner => simp only [Expr.bare, valueWith, valueWith_bare f inner]
  | array span elements => simp only [Expr.bare, valueWith, itemsWith_bare f elements]
  | object span members => simp only [Expr.bare, valueWith, membersWith_bare f [] members]
  | negation span operand =>
      simp only [Expr.bare, valueWith, Expr.peel_bare]
      rw [← Expr.bare_peel]
      cases hp : operand.peel with
      | wrapped span w inner => exact absurd hp (Expr.peel_ne_wrapped operand span w inner)
      | _ => simp [Expr.bare]
  | _ => simp only [Expr.bare, valueWith]

theorem itemsWith_bare (f : String → Option Json) (elements : List Element) :
    itemsWith f (bareElements elements) = itemsWith f elements := by
  cases elements with
  | nil => rfl
  | cons element rest =>
      cases element with
      | item e =>
          simp only [bareElements, itemsWith, valueWith_bare f e, itemsWith_bare f rest]
      | spread span e => simp only [bareElements, itemsWith, itemsWith_bare f rest]
      | hole span => simp only [bareElements, itemsWith, itemsWith_bare f rest]

theorem membersWith_bare (f : String → Option Json) (acc : List (String × Json))
    (members : List Member) :
    membersWith f acc (bareMembers members) = membersWith f acc members := by
  cases members with
  | nil => rfl
  | cons m rest =>
      cases m with
      | spread span e => simp only [bareMembers, membersWith, membersWith_bare f acc rest]
      | property span key kind value =>
          have hrest := fun acc => membersWith_bare f acc rest
          simp only [bareMembers, membersWith, valueWith_bare f value, hrest]

end

theorem ofName_bare (s : Scope) : ofName (some s.bare) = ofName (some s) := by
  have hclosed (e : Expr) : closedValue e.bare = closedValue e := valueWith_bare _ e
  funext x
  simp [ofName, Scope.initializer?_bare, Option.bind_map, hclosed]

end Static

theorem Script.Expr.staticValue_bare (s : Scope) (e : Expr) :
    e.bare.staticValue (some s.bare) = e.staticValue (some s) := by
  rw [staticValue, Static.ofName_bare, Static.valueWith_bare, staticValue]

theorem ObjectLiteral.staticValue_bare (s : Scope) (object : ObjectLiteral) :
    object.bare.staticValue (some s.bare) = object.staticValue (some s) := by
  rw [staticValue, Static.ofName_bare, bare, ← bareMembers_eq_map, Static.membersWith_bare,
    staticValue]

/-! ## Entries -/

theorem PropsElement.entry_bare (s : Scope) (code : String) (element : PropsElement) :
    element.bare.entry code (some s.bare) = element.entry code (some s) := by
  cases element with
  | plain e =>
      have ht := text_bare s code none (plain e)
      simp only [bare, entry] at ht ⊢
      rw [ht]
  | tuple props options =>
      have ht (sub : Option String) := text_bare s code sub (tuple props options)
      have hv : (options.map Expr.bare).bind (Expr.staticValue (some s.bare)) =
          options.bind (Expr.staticValue (some s)) := by
        simp [Option.bind_map, Expr.staticValue_bare]
      simp only [bare, entry] at ht ⊢
      rw [ht, ht, hv]

namespace PropsMatch

def bare : PropsMatch → PropsMatch
  | expression e => expression e.bare
  | unresolved => unresolved

theorem text_bare (s : Scope) (code : String) (sub : Option String) (props : PropsMatch) :
    props.bare.text code (some s.bare) sub = props.text code (some s) sub := by
  cases props with
  | unresolved => rfl
  | expression e =>
      simp only [bare, text, Expr.peel_bare]
      rw [← Expr.bare_peel]
      cases hp : e.peel with
      | array span elements =>
          simp [Function.comp_def, Element.expression?_bare, Option.bind_map,
            PropsElement.ofExpr_bare, PropsElement.text_bare]
      | wrapped span w inner => exact absurd hp (Expr.peel_ne_wrapped e span w inner)
      | _ => simp only [Expr.bare, ← objectText_bare s code sub]

theorem entries_bare (s : Scope) (code : String) (props : PropsMatch) :
    props.bare.entries code (some s.bare) = props.entries code (some s) := by
  cases props with
  | unresolved => rfl
  | expression e =>
      simp only [bare, entries, Expr.peel_bare]
      rw [← Expr.bare_peel]
      cases hp : e.peel with
      | array span elements =>
          simp only [Expr.bare_array, List.map_map]
          refine List.map_congr_left fun element _ => ?_
          cases element with
          | item v =>
              simp [Element.bare, Element.expression?, PropsElement.ofExpr_bare,
                PropsElement.entry_bare]
          | spread span v | hole span => rfl
      | wrapped span w inner => exact absurd hp (Expr.peel_ne_wrapped e span w inner)
      | _ => simp only [Expr.bare, ← objectText_bare s code none]

end PropsMatch

/-! ## Roles -/

namespace MemberShape

def bare : MemberShape → MemberShape
  | inline name value => inline name value.bare
  | reference name id => reference name id
  | shorthand name id => shorthand name id
  | method name span => method name span
  | ignored => ignored

theorem ofMember_bare (m : Member) : ofMember m.bare = (ofMember m).bare := by
  cases m with
  | spread span e => rfl
  | property span key kind value =>
      simp only [Member.bare, ofMember]
      cases key.text? with
      | none => rfl
      | some name =>
          cases kind with
          | value | shorthand =>
              simp only [ofNamed, Expr.peel_bare]
              rw [← Expr.bare_peel]
              cases hp : value.peel with
              | wrapped span w inner => exact absurd hp (Expr.peel_ne_wrapped value span w inner)
              | _ => simp [Expr.bare, bare]
          | method | getter | setter => rfl

theorem name?_bare (shape : MemberShape) : shape.bare.name? = shape.name? := by
  cases shape <;> rfl

/-- The value that a member holds inline is peeled. -/
theorem peel_inline {m : Member} {name : String} {value : Expr}
    (h : ofMember m = inline name value) : value.peel = value := by
  cases m with
  | spread span e => cases h
  | property span key kind v =>
      simp only [ofMember] at h
      split at h
      · cases kind <;> simp only [ofNamed] at h
        all_goals try cases h
        all_goals
          split at h
          · cases h
          · cases h
            exact Expr.peel_peel v
      · cases h

end MemberShape

theorem componentSpan?_bare (e : Expr) : componentSpan? e.bare = componentSpan? e.peel := by
  rw [← Expr.bare_peel]
  cases hp : e.peel with
  | wrapped span w inner => exact absurd hp (Expr.peel_ne_wrapped e span w inner)
  | _ => simp [Expr.bare, componentSpan?]

def UnresolvedComponent.bare (u : UnresolvedComponent) : UnresolvedComponent :=
  { u with binding := u.binding.map Binding.bare }

theorem lookupIn_bare (s : Scope) (x : String) :
    lookupIn (some s.bare) x = (lookupIn (some s) x).bare :=
  s.lookup_bare x

namespace MemberShape

variable (s : Scope)

theorem component?_bare (m : Member) :
    (ofMember m).bare.component? (some s.bare) = (ofMember m).component? (some s) := by
  cases hm : ofMember m with
  | inline name value =>
      simp only [bare, component?, componentSpan?_bare, peel_inline hm]
  | reference name id | shorthand name id =>
      simp only [bare, component?, lookupIn_bare]
      cases lookupIn (some s) id.name with
      | initializer e => simp [Lookup.bare, componentSpan?_bare]
      | noInitializer b | undeclared => rfl
  | method name span | ignored => rfl

theorem unresolved?_bare (shape : MemberShape) :
    shape.bare.unresolved? (some s.bare) =
      (shape.unresolved? (some s)).map UnresolvedComponent.bare := by
  cases shape with
  | reference name id | shorthand name id =>
      simp only [bare, unresolved?, reference?, Option.bind_some, lookupIn_bare]
      cases lookupIn (some s) id.name <;> rfl
  | inline name value | method name span | ignored => rfl

theorem props?_bare (shape : MemberShape) :
    shape.bare.props? (some s.bare) = (shape.props? (some s)).map PropsMatch.bare := by
  cases shape with
  | reference name id | shorthand name id =>
      simp only [bare, props?, lookupIn_bare]
      cases lookupIn (some s) id.name with
      | initializer e => simp [Lookup.bare, PropsMatch.bare]
      | noInitializer b | undeclared => rfl
  | inline name value | method name span | ignored => rfl

end MemberShape

namespace RoleScan

def bare (scan : RoleScan) : RoleScan :=
  { component := scan.component
    props := scan.props.map PropsMatch.bare
    unresolved := scan.unresolved.map UnresolvedComponent.bare }

theorem isDone_bare (scan : RoleScan) : scan.bare.isDone = scan.isDone := by
  simp [isDone, bare]

theorem tryComponent_bare (s : Scope) (scan : RoleScan) (m : Member) :
    scan.bare.tryComponent (some s.bare) (MemberShape.ofMember m).bare =
      (scan.tryComponent (some s) (.ofMember m)).bare := by
  simp only [tryComponent, MemberShape.component?_bare, MemberShape.unresolved?_bare, bare,
    List.map_append]
  cases (MemberShape.ofMember m).unresolved? (some s) <;> rfl

theorem step_bare (s : Scope) (scan : RoleScan) (m : Member) :
    scan.bare.step (some s.bare) (.ofMember m.bare) =
      (scan.step (some s) (.ofMember m)).bare := by
  have htry := tryComponent_bare s scan m
  have hprops := MemberShape.props?_bare s (MemberShape.ofMember m)
  have hname := MemberShape.name?_bare (MemberShape.ofMember m)
  have hc : scan.bare.component = scan.component := rfl
  have hp : scan.bare.props.isNone = scan.props.isNone := by simp [bare]
  rw [MemberShape.ofMember_bare]
  cases hm : MemberShape.ofMember m with
  | method name span =>
      rw [hm] at htry
      simp only [MemberShape.bare] at htry ⊢
      simp only [step, hc, htry]
      split <;> rfl
  | _ =>
      rw [hm] at htry hprops hname
      simp only [MemberShape.bare] at htry hprops hname ⊢
      simp only [step, hc, hp, htry, hprops, hname]
      split
      · rfl
      · split <;> rfl

theorem overMembers_bare (s : Scope) (scan : RoleScan) (members : List Member) :
    scan.bare.overMembers (some s.bare) (members.map Member.bare) =
      (scan.overMembers (some s) members).bare := by
  induction members generalizing scan with
  | nil => rfl
  | cons m rest ih =>
      simp only [List.map_cons, overMembers, step_bare, isDone_bare, ih]
      split <;> rfl

end RoleScan

/-! ## The whole reading -/

def Reading.bare (reading : Reading) : Reading :=
  { reading with unresolved := reading.unresolved.map UnresolvedComponent.bare }

namespace ObjectLiteral

theorem scan_bare (s : Scope) (object : ObjectLiteral) :
    object.bare.scan (some s.bare) = (object.scan (some s)).bare :=
  RoleScan.overMembers_bare s .empty object.members

theorem reading_bare (s : Scope) (object : ObjectLiteral) (code : String) :
    object.bare.reading s.bare code = (object.reading s code).bare := by
  simp [reading, scan_bare, RoleScan.bare, Reading.bare, Option.map_map, Function.comp_def,
    PropsMatch.text_bare, PropsMatch.entries_bare, staticValue_bare]

end ObjectLiteral

def ExportSearch.bare : ExportSearch → ExportSearch
  | definitive object => definitive object.bare
  | notDefinitive candidates => notDefinitive candidates

theorem ExportSearch.ofCandidates_map_bare (objects : List ObjectLiteral) :
    ofCandidates (objects.map ObjectLiteral.bare) = (ofCandidates objects).bare := by
  match objects with
  | [] | [_] => rfl
  | _ :: _ :: _ => simp [ofCandidates, bare]

def Findings.bare (findings : Findings) : Findings :=
  ⟨findings.search.bare, findings.reading.map Reading.bare⟩

namespace Script

theorem Statement.exported?_bare (style : ExportStyle) (statement : Statement) :
    statement.bare.exported? style = (statement.exported? style).map Expr.bare := by
  cases style with
  | exportStatement => cases statement <;> rfl
  | moduleExports =>
      cases statement with
      | expression span e =>
          simp only [bare, exported?, Expr.peel_bare]
          rw [← Expr.bare_peel]
          cases hp : e.peel with
          | assignment s plain target value =>
              cases plain with
              | false => rfl
              | true =>
                  simp only [Expr.bare_assignment]
                  split <;> rfl
          | wrapped s w inner => exact absurd hp (Expr.peel_ne_wrapped e s w inner)
          | _ => simp [Expr.bare]
      | _ => rfl

namespace Program

theorem exportCandidates_bare (s : Scope) (style : ExportStyle) (program : Program) :
    program.bare.exportCandidates style (some s.bare) =
      (program.exportCandidates style (some s)).map ObjectLiteral.bare := by
  simp only [exportCandidates, bare, List.filterMap_map, List.map_filterMap]
  congr 1
  funext statement
  rw [Function.comp_apply, Statement.exported?_bare]
  cases statement.exported? style with
  | none => rfl
  | some e => exact Expr.resolveObject_bare s e

/-- The bare form of a program says the same. -/
theorem findings_bare (program : Program) (style : ExportStyle) (code : String) :
    program.bare.findings style code = (program.findings style code).bare := by
  have hsearch : program.bare.findExport style (some (.ofProgram program.bare)) =
      (program.findExport style (some (.ofProgram program))).bare := by
    rw [Scope.ofProgram_bare, findExport, exportCandidates_bare,
      ExportSearch.ofCandidates_map_bare, findExport]
  simp only [findings, findingsIn, hsearch, Findings.bare]
  cases program.findExport style (some (.ofProgram program)) with
  | definitive object =>
      simp [ExportSearch.bare, ExportSearch.object?, Scope.ofProgram_bare,
        ObjectLiteral.reading_bare]
  | notDefinitive candidates => rfl

end Program

end Script

end Showcase
