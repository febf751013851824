import Showcase.Reading.Entries

namespace Showcase

open Script

/-!
# Texts and entries side by side

Props are given as texts, as the texts of the `props` in their options, and as entries.  For an
array these are three columns over its elements: as long as the array, with rows that agree in
themselves, each made from its element and the scope alone.  Any other props have one row.
-/

namespace Script.Element

/-- An element that is an array, or a name for one, is a pair. -/
def IsPair (scope : Option Scope) : Element → Prop
  | item e => ∃ span halves, e.resolve scope = some (.array span halves)
  | _ => False

/-- The row over an element: its text, the text of the `props` in its options, its entry. -/
structure Row (scope : Option Scope) (element : Element) (text readme : Option String)
    (entry : RawEntry) : Prop where
  code_eq : entry.code = text
  readmeCode_eq : element.IsPair scope → entry.readmeCode = readme
  plain : ¬ element.IsPair scope → entry.readmeCode = none ∧ entry.options = none
  empty : element.expression? = none → text = none ∧ readme = none ∧ entry = .empty

section Rows

variable (source : String) (scope : Option Scope)

def text (sub : Option String) (element : Element) : Option String :=
  element.expression?.bind fun e => (PropsElement.ofExpr scope e).text source scope sub

def entry (element : Element) : RawEntry :=
  match element.expression? with
  | some e => (PropsElement.ofExpr scope e).entry source scope
  | none => .empty

theorem ofExpr_cases (e : Expr) :
    ((item e).IsPair scope ∧
        ∃ props options, PropsElement.ofExpr scope e = .tuple props options) ∨
      (¬ (item e).IsPair scope ∧ PropsElement.ofExpr scope e = .plain e) := by
  unfold PropsElement.ofExpr
  split
  · rename_i span halves hresolve
    exact .inl ⟨⟨span, halves, hresolve⟩, _, _, rfl⟩
  · rename_i hother
    refine .inr ⟨?_, rfl⟩
    rintro ⟨span, halves, hresolve⟩
    exact hother span halves hresolve

/-- The conversions of an element agree, whichever of them looks at it. -/
theorem row (element : Element) :
    element.Row scope (element.text source scope none) (element.text source scope (some "props"))
      (element.entry source scope) := by
  cases element with
  | spread span e | hole span =>
      refine ⟨rfl, ?_, fun _ => ⟨rfl, rfl⟩, fun _ => ⟨rfl, rfl, rfl⟩⟩
      intro hpair
      exact hpair.elim
  | item e =>
      rcases ofExpr_cases scope e with ⟨hpair, props, options, hsplit⟩ | ⟨hplain, hsplit⟩
      · refine ⟨?_, ?_, fun h => absurd hpair h, fun h => nomatch h⟩
        · simp only [entry, text, expression?, hsplit, PropsElement.entry, Option.bind_some]
        · intro _
          simp only [entry, text, expression?, hsplit, PropsElement.entry, Option.bind_some]
      · refine ⟨?_, fun h => absurd h hplain, ?_, fun h => nomatch h⟩
        · simp only [entry, text, expression?, hsplit, PropsElement.entry, Option.bind_some]
        · intro _
          simp only [entry, expression?, hsplit, PropsElement.entry, and_self]

end Rows

end Script.Element

namespace PropsText

/-- The texts in order, a single one as the only one. -/
def texts : PropsText → List (Option String)
  | single text => [text]
  | list texts => texts

end PropsText

namespace PropsMatch

/-- The elements of props that are an array. -/
def elements? : PropsMatch → Option (List Element)
  | unresolved => none
  | expression e =>
    match e.peel with
    | .array _ elements => some elements
    | _ => none

section Columns

variable (source : String) (scope : Option Scope) {props : PropsMatch}

theorem exists_peel_of_elements? {elements : List Element} (h : props.elements? = some elements) :
    ∃ e span, props = .expression e ∧ e.peel = .array span elements := by
  cases props with
  | unresolved => cases h
  | expression e =>
      rw [elements?] at h
      split at h
      · rename_i span others hpeel
        cases h
        exact ⟨e, span, rfl, hpeel⟩
      · cases h

theorem text_of_elements? {elements : List Element} (h : props.elements? = some elements)
    (sub : Option String) :
    props.text source scope sub = .list (elements.map (Element.text source scope sub)) := by
  obtain ⟨e, span, rfl, hpeel⟩ := exists_peel_of_elements? h
  rw [text, hpeel]
  rfl

theorem entries_of_elements? {elements : List Element} (h : props.elements? = some elements) :
    props.entries source scope = elements.map (Element.entry source scope) := by
  obtain ⟨e, span, rfl, hpeel⟩ := exists_peel_of_elements? h
  rw [entries, hpeel]
  rfl

/-- The one text of props that are no array. -/
def onlyText (sub : Option String) : PropsMatch → Option String
  | unresolved => none
  | expression e => objectText source scope sub e.peel

theorem text_of_elements?_eq_none (h : props.elements? = none) (sub : Option String) :
    props.text source scope sub = .single (props.onlyText source scope sub) := by
  cases props with
  | unresolved => rfl
  | expression e =>
      rw [text]
      split
      · rename_i span elements hpeel
        simp [elements?, hpeel] at h
      · rfl

theorem entries_of_elements?_eq_none (h : props.elements? = none) :
    props.entries source scope = [⟨props.onlyText source scope none, none, none⟩] := by
  cases props with
  | unresolved => rfl
  | expression e =>
      rw [entries]
      split
      · rename_i span elements hpeel
        simp [elements?, hpeel] at h
      · rfl

end Columns

/-- Texts and entries of props say the same at every position. -/
theorem text_entries_agree (source : String) (scope : Option Scope) (props : PropsMatch) :
    (∀ elements, props.elements? = some elements →
      ∃ texts readmes, props.text source scope none = .list texts ∧
        props.text source scope (some "props") = .list readmes ∧
        texts.length = elements.length ∧ readmes.length = elements.length ∧
        (props.entries source scope).length = elements.length ∧
        ∀ (i : Nat) element, elements[i]? = some element → ∃ text readme entry,
          texts[i]? = some text ∧ readmes[i]? = some readme ∧
            (props.entries source scope)[i]? = some entry ∧
            element.Row scope text readme entry ∧
            ∀ (other : PropsMatch) (others : List Element) (j : Nat),
              other.elements? = some others → others[j]? = some element →
                (other.text source scope none).texts[j]? = some text ∧
                  (other.text source scope (some "props")).texts[j]? = some readme ∧
                  (other.entries source scope)[j]? = some entry) ∧
      (props.elements? = none →
        ∃ text : Option String → Option String,
          (∀ sub, props.text source scope sub = .single (text sub)) ∧
            props.entries source scope = [⟨text none, none, none⟩] ∧
            (props = .unresolved → ∀ sub, text sub = none)) := by
  constructor
  · intro elements h
    refine ⟨_, _, text_of_elements? source scope h none,
      text_of_elements? source scope h (some "props"), List.length_map .., List.length_map .., ?_,
      ?_⟩
    · rw [entries_of_elements? source scope h, List.length_map]
    intro i element hi
    have hrow {α : Type} (f : Element → α) {elements : List Element} {i : Nat}
        (hi : elements[i]? = some element) : (elements.map f)[i]? = some (f element) := by
      rw [List.getElem?_map, hi, Option.map_some]
    refine ⟨_, _, element.entry source scope, hrow _ hi, hrow _ hi, ?_,
      element.row source scope, ?_⟩
    · rw [entries_of_elements? source scope h]
      exact hrow _ hi
    · intro other others j hother hj
      rw [text_of_elements? source scope hother, text_of_elements? source scope hother,
        entries_of_elements? source scope hother]
      exact ⟨hrow _ hj, hrow _ hj, hrow _ hj⟩
  · intro h
    refine ⟨fun sub => props.onlyText source scope sub, ?_, ?_, ?_⟩
    · exact text_of_elements?_eq_none source scope h
    · exact entries_of_elements?_eq_none source scope h
    · rintro rfl sub
      rfl

end PropsMatch

namespace Paired

def code : String := "{x}[{y},{props:{z}}]"

/-- `b` stands for the pair in `code`. -/
def scope : Scope :=
  ⟨[⟨.variable, ⟨"b", ⟨0, 0⟩⟩,
    some (.array ⟨3, 20⟩
      [.item (.object ⟨4, 7⟩ []),
        .item (.object ⟨8, 19⟩
          [.property ⟨9, 18⟩ (.name "props") .value (.object ⟨15, 18⟩ [])])]), none⟩]⟩

def name : Expr := .identifier ⟨"b", ⟨0, 0⟩⟩

/-- `[{x}, b, , ...b]` -/
def elements : List Element :=
  [.item (.object ⟨0, 3⟩ []), .item name, .hole ⟨0, 0⟩, .spread ⟨0, 0⟩ name]

def props : PropsMatch := .expression (.array ⟨0, 0⟩ elements)

end Paired

open Paired in
theorem PropsMatch.text_entries_agree_paired :
    props.elements? = some elements ∧
      props.text code (some scope) none = .list [some "{x}", some "{y}", none, none] ∧
      props.text code (some scope) (some "props") = .list [none, some "{z}", none, none] ∧
      ∃ entry, (props.entries code (some scope))[1]? = some entry ∧
        entry.code = some "{y}" ∧ entry.readmeCode = some "{z}" := by
  have htext : props.text code (some scope) none = .list [some "{x}", some "{y}", none, none] := by
    decide +kernel
  have hreadme : props.text code (some scope) (some "props") =
      .list [none, some "{z}", none, none] := by
    decide +kernel
  obtain ⟨texts, readmes, htexts, hreadmes, -, -, -, hrows⟩ :=
    (text_entries_agree code (some scope) props).1 elements rfl
  cases htexts.symm.trans htext
  cases hreadmes.symm.trans hreadme
  obtain ⟨_, _, entry, hfirst, hsecond, hentry, hrow, -⟩ := hrows 1 (.item name) rfl
  cases hfirst
  cases hsecond
  exact ⟨rfl, htext, hreadme, entry, hentry, hrow.code_eq, hrow.readmeCode_eq ⟨_, _, rfl⟩⟩

end Showcase
