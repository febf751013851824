import Showcase.Proofs.Reading.Calls
import Showcase.Proofs.Reading.Roles
import Showcase.Proofs.Reading.Unrelated

namespace Showcase

open Script

/-!
# Imported components

A component that is imported cannot be shown, and a notice tells so.  There is one notice for each
reference in the component role, up to the first component, to a name whose first binder is an
import.  An `import x = require('m')` binds nothing, so it is passed over as though it were not
there.
-/

namespace RoleScan

/-- The names that members in the component role refer to, up to the first component. -/
def componentReferences (scope : Option Scope) (shapes : List MemberShape) : List Identifier :=
  let before := shapes.takeWhile (!·.fills scope)
  (before.filter (·.name? == some "component")).filterMap (·.reference?)

end RoleScan

namespace Script

namespace Statement

/-- Whether a statement declares a name, by binding it or as `import x = …`. -/
def declares (statement : Statement) (x : String) : Bool :=
  match statement with
  | importEquals name _ => name.name == x
  | statement => statement.binds x

/-- The module that a statement imports a name from. -/
def importsFrom? (statement : Statement) (x : String) : Option String :=
  match statement with
  | importing names module => if names.any (·.name == x) then some module else none
  | importEquals name (some module) => if name.name == x then some module else none
  | _ => none

theorem declares_eq_binds {statement : Statement}
    (h : ∀ name module, statement ≠ .importEquals name module) (x : String) : statement.declares x = statement.binds x := by
  unfold declares
  split
  · exact absurd rfl (h _ _)
  · rfl

theorem isSome_find?_bindings (statement : Statement) (x : String) :
    (statement.bindings.find? (·.name.name == x)).isSome = statement.binds x := by
  rw [binds, List.isSome_find?]

end Statement

end Script

/-- The module that an import binds a name from. -/
def Binding.importedFrom? (b : Binding) : Option String :=
  if b.kind = .imported then some (b.module.getD "") else none

theorem Script.Declaration.importedFrom?_eq_none {d : Declaration} {b : Binding}
    (hb : b ∈ d.bindings) : b.importedFrom? = none := by
  cases d with
  | declarators ds =>
      obtain ⟨d, -, rfl⟩ := List.mem_map.mp hb
      rfl
  | function name | ofClass name =>
      obtain ⟨id, -, rfl⟩ := List.mem_map.mp hb
      rfl
  | typed => cases hb

theorem Script.Statement.importsFrom?_of_find?_bindings {statement : Statement} {x : String}
    {b : Binding} (h : statement.bindings.find? (·.name.name == x) = some b) :
    statement.importsFrom? x = b.importedFrom? := by
  have hb : b ∈ statement.bindings := List.mem_of_find?_eq_some h
  cases statement with
  | declaration d | exportDeclaration d => exact (Declaration.importedFrom?_eq_none hb).symm
  | importing names module =>
      have hx : (b.name.name == x) = true := by simpa using List.find?_some h
      obtain ⟨id, hid, rfl⟩ := List.mem_map.mp hb
      have hany : names.any (·.name == x) := List.any_eq_true.mpr ⟨id, hid, hx⟩
      rw [importsFrom?, if_pos hany]
      rfl
  | _ => cases hb

namespace Script.Program

/-- The module that a name is imported from by the first statement that binds it. -/
def importSource? (program : Program) (x : String) : Option String :=
  (program.body.find? (·.binds x)).bind (·.importsFrom? x)

/-- The module that a name is imported from by the first statement that declares it. -/
def declaredSource? (program : Program) (x : String) : Option String :=
  (program.body.find? (·.declares x)).bind (·.importsFrom? x)

theorem importedFrom?_first_binder (body : List Statement) (x : String) :
    ((body.flatMap Statement.bindings).find? (·.name.name == x)).bind Binding.importedFrom? =
      (body.find? (·.binds x)).bind (·.importsFrom? x) := by
  induction body with
  | nil => rfl
  | cons statement rest ih =>
      rw [List.flatMap_cons, List.find?_append, List.find?_cons, ← statement.isSome_find?_bindings]
      cases h : statement.bindings.find? (·.name.name == x) with
      | none => exact ih
      | some b => exact (Statement.importsFrom?_of_find?_bindings h).symm

theorem importedFrom?_get?_ofProgram (program : Program) (x : String) :
    ((Scope.ofProgram program).get? x).bind Binding.importedFrom? = program.importSource? x := by
  rw [Scope.get?_ofProgram]
  exact importedFrom?_first_binder program.body x

theorem find?_binds_eq_find?_declares {body : List Statement} {x : String}
    (h : ∀ name module, body.find? (·.declares x) ≠ some (.importEquals name module)) :
    body.find? (·.binds x) = body.find? (·.declares x) := by
  induction body with
  | nil => rfl
  | cons statement rest ih =>
      rw [List.find?_cons] at h ⊢
      rw [List.find?_cons]
      cases hdeclares : statement.declares x with
      | true =>
          rw [hdeclares] at h
          have hbinds : statement.binds x = true := by
            rw [← hdeclares, Statement.declares_eq_binds]
            rintro name module rfl
            exact h name module rfl
          rw [hbinds]
      | false =>
          rw [hdeclares] at h
          have hbinds : statement.binds x = false := by
            cases statement with
            | importEquals name module => rfl
            | _ => exact hdeclares
          rw [hbinds]
          exact ih h

/-- Unless an `import x = …` declares a name first, it is imported from where it is declared. -/
theorem importSource?_eq_declaredSource? {program : Program} {x : String}
    (h : ∀ name module, program.body.find? (·.declares x) ≠ some (.importEquals name module)) :
    program.importSource? x = program.declaredSource? x := by
  rw [importSource?, declaredSource?, find?_binds_eq_find?_declares h]

end Script.Program

/-! ## The notices -/

namespace Source

variable {source : Source} {program : Program} {object : ObjectLiteral}

/-- The notices about references, given where names are imported from. -/
def noticesFor (source : Source) (imported : String → Option String)
    (references : List Identifier) : List Notice :=
  references.filterMap fun id =>
    (imported id.name).map fun module => .importedComponent source.path id.name module

theorem mem_noticesFor_iff {imported : String → Option String} {references : List Identifier}
    {n : Notice} :
    n ∈ source.noticesFor imported references ↔ ∃ id ∈ references, ∃ module,
      imported id.name = some module ∧ n = .importedComponent source.path id.name module := by
  simp only [noticesFor, List.mem_filterMap, Option.map_eq_some_iff, @eq_comm _ n]

/-- A notice names what it is about, so the same notices come from the same imports. -/
theorem noticesFor_eq_iff {imported other : String → Option String} {references : List Identifier} :
    source.noticesFor imported references = source.noticesFor other references ↔
      ∀ id ∈ references, imported id.name = other id.name := by
  have hsome {imported other : String → Option String}
      (h : source.noticesFor imported references = source.noticesFor other references)
      {id : Identifier} (hid : id ∈ references) {module : String}
      (himported : imported id.name = some module) : other id.name = some module := by
    have hmem : Notice.importedComponent source.path id.name module ∈
        source.noticesFor imported references :=
      mem_noticesFor_iff.mpr ⟨id, hid, module, himported, rfl⟩
    rw [h] at hmem
    obtain ⟨found, -, m, hm, heq⟩ := mem_noticesFor_iff.mp hmem
    obtain ⟨-, hname, rfl⟩ := Notice.importedComponent.inj heq
    rwa [hname]
  constructor
  · intro h id hid
    refine Option.ext fun module => ⟨hsome h hid, hsome h.symm hid⟩
  · intro h
    refine List.filterMap_congr fun id hid => ?_
    rw [h id hid]

/-- A reference that fails is told of if its name is imported. -/
theorem notice_failedReference? (program : Program) (id : Identifier) :
    (RoleScan.failedReference? (some (.ofProgram program)) id).bind (fun u =>
        u.binding.bind fun b =>
          if b.kind = .imported then
            some (Notice.importedComponent source.path u.name (b.module.getD ""))
          else none) =
      (program.importSource? id.name).map fun module =>
        .importedComponent source.path id.name module := by
  rw [← program.importedFrom?_get?_ofProgram, RoleScan.failedReference?, Option.bind_some,
    Option.bind_some, Scope.initializer?]
  rcases (Scope.ofProgram program).lookup_cases id.name with
    ⟨hget, hlookup⟩ | ⟨b, hget, ⟨e, hkind, -, hlookup⟩ | ⟨-, hlookup⟩⟩
  · rw [hlookup, hget]
    rfl
  · simp [hlookup, hget, Binding.importedFrom?, hkind]
  · simp only [hlookup, hget, Option.bind_some, Binding.importedFrom?]
    split <;> rfl

theorem importNotices_scan (program : Program) (object : ObjectLiteral) :
    source.importNotices (object.scan (some (.ofProgram program))) =
      source.noticesFor program.importSource?
        (RoleScan.componentReferences (some (.ofProgram program))
          (object.members.map MemberShape.ofMember)) := by
  have hunresolved : (object.scan (some (.ofProgram program))).unresolved =
      (RoleScan.componentReferences (some (.ofProgram program))
        (object.members.map MemberShape.ofMember)).filterMap
          (RoleScan.failedReference? (some (.ofProgram program))) := by
    rw [ObjectLiteral.scan_eq_foldl, RoleScan.foldl_step_unresolved]
    rfl
  rw [importNotices, hunresolved, List.filterMap_filterMap, noticesFor]
  exact List.filterMap_congr fun id _ => notice_failedReference? program id

/-- Of the references in the component role before the first component, those to a name whose first
binder is an import are told of, in order, and nothing else is.  These are the references to a name
whose first declaration is an import unless that declaration is an `import x = …`. -/
theorem imported_components_told (source : Source) (program : Program) (object : ObjectLiteral)
    (hparse : source.parse = .ok program)
    (hsearch : source.findExport program = .definitive object) :
    let references := RoleScan.componentReferences (some (.ofProgram program))
      (object.members.map MemberShape.ofMember)
    (∃ component,
      source.component = .ok (component, source.noticesFor program.importSource? references)) ∧
    (∃ extracted,
      source.extract = .ok (extracted, source.noticesFor program.importSource? references)) ∧
    (source.noticesFor program.importSource? references =
        source.noticesFor program.declaredSource? references ↔
      ∀ id ∈ references, program.importSource? id.name = program.declaredSource? id.name) ∧
    ∀ x, (∀ name module, program.body.find? (·.declares x) ≠ some (.importEquals name module)) →
      program.importSource? x = program.declaredSource? x := by
  have hexported := exported_of_definitive hparse hsearch
  refine ⟨?_, ?_, noticesFor_eq_iff, fun x => Program.importSource?_eq_declaredSource?⟩
  · rw [← importNotices_scan]
    exact ⟨_, component_eq_reading hexported⟩
  · rw [← importNotices_scan]
    exact ⟨_, extract_eq_extracted hexported⟩

namespace Imports

/-- Two references to imports before the component, and one behind it. -/
def imported : Source :=
  ⟨"readme.ts", .ts,
    "import Button from './button';\nimport * as Card from './card';\n" ++
      "export default \x7b component: Button, component: Card, component: () => 1, " ++
        "component: Button \x7d;"⟩

/-- The component is imported by an `import x = …`. -/
def equated : Source :=
  ⟨"readme.ts", .ts, "import Button = require('./button');\nexport = \x7b component: Button \x7d;"⟩

/-- What a description exports, and the references in the component role before the component. -/
def read? (source : Source) : Option (Program × ObjectLiteral) :=
  source.parse.toOption.bind fun program =>
    (source.findExport program).object?.map fun object => (program, object)

def references (found : Program × ObjectLiteral) : List Identifier :=
  RoleScan.componentReferences (some (.ofProgram found.1))
    (found.2.members.map MemberShape.ofMember)

theorem eq_of_read? {source : Source} {found : Program × ObjectLiteral}
    (h : read? source = some found) :
    source.parse = .ok found.1 ∧ source.findExport found.1 = .definitive found.2 := by
  obtain ⟨program, hparse, hobject⟩ := Option.bind_eq_some_iff.mp h
  obtain ⟨object, hsearch, rfl⟩ := Option.map_eq_some_iff.mp hobject
  refine ⟨eq_ok_of_toOption hparse, ?_⟩
  cases hfound : source.findExport program with
  | definitive found =>
      rw [hfound] at hsearch
      cases hsearch
      rfl
  | notDefinitive candidates =>
      rw [hfound] at hsearch
      cases hsearch

end Imports

open Imports in
theorem imported_components_told_twice :
    ∃ found, imported.parse = .ok (found : Program × ObjectLiteral).1 ∧
      imported.findExport found.1 = .definitive found.2 ∧
      ∃ component, imported.component = .ok (component,
        [.importedComponent "readme.ts" "Button" "./button",
          .importedComponent "readme.ts" "Card" "./card"]) := by
  have hread : (read? imported).map (fun found =>
      imported.noticesFor found.1.importSource? (references found)) =
        some [.importedComponent "readme.ts" "Button" "./button",
          .importedComponent "readme.ts" "Card" "./card"] := by decide +kernel
  obtain ⟨found, hfound, hnotices⟩ := Option.map_eq_some_iff.mp hread
  obtain ⟨hparse, hsearch⟩ := eq_of_read? hfound
  obtain ⟨hcomponent, -⟩ := imported_components_told imported found.1 found.2 hparse hsearch
  refine ⟨found, hparse, hsearch, ?_⟩
  rw [← hnotices]
  exact hcomponent

open Imports in
theorem imported_components_not_always_told :
    ¬ ∀ (source : Source) (program : Program) (object : ObjectLiteral),
      source.parse = .ok program → source.findExport program = .definitive object →
        ∃ component, source.component = .ok (component,
          source.noticesFor program.declaredSource?
            (RoleScan.componentReferences (some (.ofProgram program))
              (object.members.map MemberShape.ofMember))) := by
  intro hall
  have hread : (read? equated).map (fun found =>
      equated.noticesFor found.1.declaredSource? (references found)) =
        some [.importedComponent "readme.ts" "Button" "./button"] := by decide +kernel
  have hsilent : equated.component.toOption.map Prod.snd = some [] := by decide +kernel
  obtain ⟨found, hfound, hnotices⟩ := Option.map_eq_some_iff.mp hread
  obtain ⟨hparse, hsearch⟩ := eq_of_read? hfound
  obtain ⟨component, hcomponent⟩ := hall equated found.1 found.2 hparse hsearch
  rw [hcomponent] at hsilent
  have hnone : equated.noticesFor found.1.declaredSource? (references found) = [] :=
    Option.some.inj hsilent
  rw [hnotices] at hnone
  cases hnone

end Source

end Showcase
