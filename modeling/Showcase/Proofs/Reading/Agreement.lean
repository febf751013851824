import Showcase.Proofs.Reading.Names

namespace Showcase

open Script

/-!
# Readings under two scopes

Two scopes that agree on a closed set of names give the same reading of every object
within the set.  There is one lemma for each reader, and the initial values that a
reader hands on stay within the set.
-/

/-- Two scopes bind the names of a set alike, and what initial values mention belongs to
the set again. -/
structure Scope.AgreeOn (N : String → Prop) (s t : Scope) : Prop where
  get?_eq : ∀ x, N x → s.get? x = t.get? x
  closed : ∀ x, N x → ∀ b e, t.get? x = some b → b.initial = some e → e.Within N

variable {N : String → Prop} {s t : Scope}

namespace Scope.AgreeOn

theorem lookup_eq (h : s.AgreeOn N t) {x : String} (hx : N x) : s.lookup x = t.lookup x := by
  unfold lookup
  rw [h.get?_eq x hx]

theorem initializer?_eq (h : s.AgreeOn N t) {x : String} (hx : N x) :
    s.initializer? x = t.initializer? x := by
  unfold initializer?
  rw [h.lookup_eq hx]

theorem within_of_lookup (h : s.AgreeOn N t) {x : String} (hx : N x) {e : Expr}
    (he : t.lookup x = .initializer e) : e.Within N := by
  rcases t.lookup_cases x with ⟨-, hlookup⟩ | ⟨b, hb, ⟨v, -, hv, hlookup⟩ | ⟨-, hlookup⟩⟩
  · cases he.symm.trans hlookup
  · cases he.symm.trans hlookup
    exact h.closed x hx b e hb hv
  · cases he.symm.trans hlookup

theorem within_of_initializer? (h : s.AgreeOn N t) {x : String} (hx : N x) {e : Expr}
    (he : t.initializer? x = some e) : e.Within N :=
  h.within_of_lookup hx (initializer?_eq_some_iff.mp he)

end Scope.AgreeOn

/-! ## References -/

namespace Script.Expr

theorem resolve_congr (h : s.AgreeOn N t) {e : Expr} (he : e.Within N) :
    e.resolve (some s) = e.resolve (some t) := by
  unfold resolve
  split
  · rename_i id hid
    have hx : N id.name := by
      simpa [hid] using within_peel.mpr he
    simp [h.initializer?_eq hx]
  · rfl

theorem within_of_resolve (h : s.AgreeOn N t) {e e' : Expr} (he : e.Within N)
    (hr : e.resolve (some t) = some e') : e'.Within N := by
  unfold resolve at hr
  split at hr
  · rename_i id hid
    have hx : N id.name := by
      simpa [hid] using within_peel.mpr he
    obtain ⟨v, hv, rfl⟩ := Option.map_eq_some_iff.mp hr
    exact within_peel.mpr (h.within_of_initializer? hx hv)
  · obtain rfl : e.peel = e' := by simpa using hr
    exact within_peel.mpr he

theorem resolveObject_congr (h : s.AgreeOn N t) {e : Expr} (he : e.Within N) :
    e.resolveObject (some s) = e.resolveObject (some t) := by
  unfold resolveObject
  rw [resolve_congr h he]

theorem within_of_resolveObject (h : s.AgreeOn N t) {e : Expr} {object : ObjectLiteral}
    (he : e.Within N) (hr : e.resolveObject (some t) = some object) : object.Within N := by
  unfold resolveObject at hr
  split at hr
  · rename_i span members hm
    obtain rfl : (⟨span, members⟩ : ObjectLiteral) = object := by simpa using hr
    simpa [Within, names, ObjectLiteral.Within] using within_of_resolve h he hm
  · cases hr

end Script.Expr

/-! ## Props -/

theorem objectText_congr (h : s.AgreeOn N t) (code : String) (sub : Option String) {e : Expr}
    (he : e.Within N) : objectText code (some s) sub e = objectText code (some t) sub e := by
  unfold objectText
  rw [Expr.resolveObject_congr h he]
  cases ho : e.resolveObject (some t) with
  | none => rfl
  | some object =>
      cases sub with
      | none => rfl
      | some name =>
          cases hv : object.find? name with
          | none => simp [hv]
          | some v =>
              have hw : v.Within N := (Expr.within_of_resolveObject h he ho).find? hv
              simp [hv, Expr.resolveObject_congr h hw]

namespace PropsElement

/-- Every name in the parts of an element belongs to a set. -/
def Within (N : String → Prop) : PropsElement → Prop
  | plain e => e.Within N
  | tuple props options => (∀ e ∈ props, e.Within N) ∧ ∀ e ∈ options, e.Within N

theorem ofExpr_congr (h : s.AgreeOn N t) {e : Expr} (he : e.Within N) :
    ofExpr (some s) e = ofExpr (some t) e := by
  unfold ofExpr
  rw [Expr.resolve_congr h he]

theorem within_ofExpr (h : s.AgreeOn N t) {e : Expr} (he : e.Within N) :
    (ofExpr (some t) e).Within N := by
  unfold ofExpr
  split
  · rename_i span elements hr
    have hw := (Expr.within_of_resolve h he hr).elements
    constructor
    all_goals
      intro v hv
      obtain ⟨element, hmem, hv⟩ := Option.bind_eq_some_iff.mp hv
      exact hw element (List.mem_of_getElem? hmem) v hv
  · exact he

theorem text_congr (h : s.AgreeOn N t) (code : String) (sub : Option String)
    {element : PropsElement} (he : element.Within N) :
    element.text code (some s) sub = element.text code (some t) sub := by
  cases element with
  | plain e => exact objectText_congr h code sub he
  | tuple props options =>
      cases sub with
      | none => exact Option.bind_congr fun e hm => objectText_congr h code none (he.1 e hm)
      | some name =>
          exact Option.bind_congr fun e hm => objectText_congr h code (some name) (he.2 e hm)

end PropsElement

/-! ## Static values -/

namespace Static

mutual

/-- A static value depends only on the values of the names that occur. -/
theorem valueWith_congr {f g : String → Option Json} (e : Expr)
    (h : ∀ x ∈ e.names, f x = g x) : valueWith f e = valueWith g e := by
  cases e with
  | wrapped span wrapper inner =>
      simp only [Expr.names] at h
      simp only [valueWith, valueWith_congr inner h]
  | identifier id =>
      simp only [Expr.names, List.mem_singleton, forall_eq] at h
      simp only [valueWith, h]
  | array span elements =>
      simp only [Expr.names] at h
      simp only [valueWith, itemsWith_congr elements h]
  | object span members =>
      simp only [Expr.names] at h
      simp only [valueWith, membersWith_congr members [] h]
  | _ => simp only [valueWith]

theorem itemsWith_congr {f g : String → Option Json} (elements : List Element)
    (h : ∀ x ∈ namesOfElements elements, f x = g x) :
    itemsWith f elements = itemsWith g elements := by
  cases elements with
  | nil => simp only [itemsWith]
  | cons element rest =>
      cases element with
      | item e =>
          simp only [namesOfElements, List.mem_append] at h
          simp only [itemsWith, valueWith_congr e fun x hx => h x (.inl hx),
            itemsWith_congr rest fun x hx => h x (.inr hx)]
      | spread span e =>
          simp only [namesOfElements, List.mem_append] at h
          simp only [itemsWith, itemsWith_congr rest fun x hx => h x (.inr hx)]
      | hole span =>
          simp only [namesOfElements] at h
          simp only [itemsWith, itemsWith_congr rest h]

theorem membersWith_congr {f g : String → Option Json} (members : List Member)
    (acc : List (String × Json)) (h : ∀ x ∈ namesOfMembers members, f x = g x) :
    membersWith f acc members = membersWith g acc members := by
  cases members with
  | nil => simp only [membersWith]
  | cons m rest =>
      cases m with
      | spread span e =>
          simp only [namesOfMembers, List.mem_append] at h
          simp only [membersWith, membersWith_congr rest acc fun x hx => h x (.inr hx)]
      | property span key kind value =>
          simp only [namesOfMembers, List.mem_append] at h
          have hrest := fun acc => membersWith_congr rest acc fun x hx => h x (.inr hx)
          simp only [membersWith, valueWith_congr value fun x hx => h x (.inl hx), hrest]

end

theorem ofName_congr (h : s.AgreeOn N t) {x : String} (hx : N x) :
    ofName (some s) x = ofName (some t) x := by
  simp [ofName, h.initializer?_eq hx]

end Static

theorem Script.Expr.staticValue_congr (h : s.AgreeOn N t) {e : Expr} (he : e.Within N) :
    e.staticValue (some s) = e.staticValue (some t) :=
  Static.valueWith_congr e fun x hx => Static.ofName_congr h (he x hx)

theorem ObjectLiteral.staticValue_congr (h : s.AgreeOn N t) {object : ObjectLiteral}
    (ho : object.Within N) : object.staticValue (some s) = object.staticValue (some t) := by
  unfold staticValue
  rw [Static.membersWith_congr object.members [] fun x hx => Static.ofName_congr h (ho x hx)]

/-! ## Entries -/

theorem PropsElement.entry_congr (h : s.AgreeOn N t) (code : String) {element : PropsElement}
    (he : element.Within N) : element.entry code (some s) = element.entry code (some t) := by
  cases element with
  | plain e => simp only [entry, text_congr h code none he]
  | tuple props options =>
      have hv : options.bind (Expr.staticValue (some s)) =
          options.bind (Expr.staticValue (some t)) :=
        Option.bind_congr fun e hm => Expr.staticValue_congr h (he.2 e hm)
      simp only [entry, text_congr h code none he, text_congr h code (some "props") he, hv]

namespace PropsMatch

/-- Every name in matched props belongs to a set. -/
def Within (N : String → Prop) : PropsMatch → Prop
  | expression e => e.Within N
  | unresolved => True

theorem text_congr (h : s.AgreeOn N t) (code : String) (sub : Option String) {props : PropsMatch}
    (hp : props.Within N) : props.text code (some s) sub = props.text code (some t) sub := by
  cases props with
  | unresolved => rfl
  | expression e =>
      have he : e.peel.Within N := Expr.within_peel.mpr hp
      simp only [text]
      split
      · rename_i span elements hm
        rw [hm] at he
        congr 1
        refine List.map_congr_left fun element hmem => Option.bind_congr fun v hv => ?_
        have hw := he.elements element hmem v hv
        rw [PropsElement.ofExpr_congr h hw]
        exact PropsElement.text_congr h code sub (PropsElement.within_ofExpr h hw)
      · rw [objectText_congr h code sub he]

theorem entries_congr (h : s.AgreeOn N t) (code : String) {props : PropsMatch}
    (hp : props.Within N) : props.entries code (some s) = props.entries code (some t) := by
  cases props with
  | unresolved => rfl
  | expression e =>
      have he : e.peel.Within N := Expr.within_peel.mpr hp
      simp only [entries]
      split
      · rename_i span elements hm
        rw [hm] at he
        refine List.map_congr_left fun element hmem => ?_
        split
        · rename_i v hv
          have hw := he.elements element hmem v hv
          rw [PropsElement.ofExpr_congr h hw]
          exact PropsElement.entry_congr h code (PropsElement.within_ofExpr h hw)
        · rfl
      · rw [objectText_congr h code none he]

end PropsMatch

/-! ## Roles -/

theorem lookupIn_congr (h : s.AgreeOn N t) {x : String} (hx : N x) :
    lookupIn (some s) x = lookupIn (some t) x :=
  h.lookup_eq hx

namespace MemberShape

/-- Every name in the value that a shape holds belongs to a set. -/
def Within (N : String → Prop) : MemberShape → Prop
  | inline _ value => value.Within N
  | reference _ id | shorthand _ id => N id.name
  | method _ _ | ignored => True

theorem within_ofNamed (span : Span) (name : String) (kind : MemberKind) {value : Expr}
    (h : value.Within N) : (ofNamed span name kind value).Within N := by
  have hp : value.peel.Within N := Expr.within_peel.mpr h
  cases kind with
  | value | shorthand =>
      simp only [ofNamed]
      split
      · rename_i id hid
        simpa [hid, Within] using hp
      · exact hp
  | method | getter | setter => exact trivial

theorem within_ofMember {m : Member} (h : m.Within N) : (ofMember m).Within N := by
  cases m with
  | spread span e => exact trivial
  | property span key kind value =>
      simp only [ofMember]
      split
      · exact within_ofNamed _ _ _ h
      · exact trivial

variable {shape : MemberShape}

theorem within_reference (hs : shape.Within N) {id : Identifier}
    (hid : shape.reference? = some id) : N id.name := by
  cases shape <;> simp [reference?] at hid
  all_goals
    subst hid
    exact hs

theorem component?_congr (h : s.AgreeOn N t) (hs : shape.Within N) :
    shape.component? (some s) = shape.component? (some t) := by
  cases shape with
  | reference name id | shorthand name id =>
      have hx : lookupIn (some s) id.name = lookupIn (some t) id.name := lookupIn_congr h hs
      simp only [component?, hx]
  | _ => rfl

theorem unresolved?_congr (h : s.AgreeOn N t) (hs : shape.Within N) :
    shape.unresolved? (some s) = shape.unresolved? (some t) := by
  unfold unresolved?
  exact Option.bind_congr fun id hid => by rw [lookupIn_congr h (within_reference hs hid)]

theorem props?_congr (h : s.AgreeOn N t) (hs : shape.Within N) :
    shape.props? (some s) = shape.props? (some t) := by
  cases shape with
  | reference name id | shorthand name id =>
      have hx : lookupIn (some s) id.name = lookupIn (some t) id.name := lookupIn_congr h hs
      simp only [props?, hx]
  | _ => rfl

theorem within_props? (h : s.AgreeOn N t) (hs : shape.Within N) :
    ∀ props ∈ shape.props? (some t), props.Within N := by
  intro props hp
  cases shape with
  | inline name value =>
      obtain rfl : PropsMatch.expression value = props := by simpa [props?] using hp
      exact hs
  | reference name id | shorthand name id =>
      simp only [props?, lookupIn, Option.mem_def] at hp
      split at hp
      · rename_i v hv
        obtain rfl : PropsMatch.expression v.peel = props := by simpa using hp
        exact Expr.within_peel.mpr (h.within_of_lookup hs hv)
      · obtain rfl : PropsMatch.unresolved = props := by simpa using hp
        exact trivial
  | method | ignored => simp [props?] at hp

end MemberShape

namespace RoleScan

theorem step_congr (h : s.AgreeOn N t) (scan : RoleScan) {shape : MemberShape}
    (hs : shape.Within N) : scan.step (some s) shape = scan.step (some t) shape := by
  have htry : scan.tryComponent (some s) shape = scan.tryComponent (some t) shape := by
    unfold tryComponent
    rw [MemberShape.component?_congr h hs, MemberShape.unresolved?_congr h hs]
  cases shape <;> simp only [step, htry, MemberShape.props?_congr h hs]

theorem within_step (h : s.AgreeOn N t) {scan : RoleScan} (hscan : ∀ p ∈ scan.props, p.Within N)
    {shape : MemberShape} (hs : shape.Within N) :
    ∀ p ∈ (scan.step (some t) shape).props, p.Within N := by
  have hp := MemberShape.within_props? h hs
  unfold step
  split
  · split <;> exact hscan
  · split
    · exact hscan
    · split
      · exact hp
      · exact hscan

/-- The whole pass reads alike, and the props that it finds stay within the set. -/
theorem overMembers_congr (h : s.AgreeOn N t) {members : List Member}
    (hm : ∀ m ∈ members, m.Within N) {scan : RoleScan} (hscan : ∀ p ∈ scan.props, p.Within N) :
    scan.overMembers (some s) members = scan.overMembers (some t) members ∧
      ∀ p ∈ (scan.overMembers (some t) members).props, p.Within N := by
  induction members generalizing scan with
  | nil => exact ⟨rfl, hscan⟩
  | cons m rest ih =>
      have hs : (MemberShape.ofMember m).Within N :=
        MemberShape.within_ofMember (hm m List.mem_cons_self)
      have hnext := within_step h hscan hs
      simp only [overMembers, step_congr h scan hs]
      split
      · exact ⟨rfl, hnext⟩
      · exact ih (fun m' hm' => hm m' (List.mem_cons_of_mem _ hm')) hnext

end RoleScan

/-! ## The whole reading -/

namespace ObjectLiteral

theorem scan_congr (h : s.AgreeOn N t) {object : ObjectLiteral} (ho : object.Within N) :
    object.scan (some s) = object.scan (some t) ∧
      ∀ p ∈ (object.scan (some t)).props, p.Within N :=
  RoleScan.overMembers_congr h (within_of_mem ho) (by simp [RoleScan.empty])

/-- What an object says depends only on the names that can be reached from it. -/
theorem reading_congr (h : s.AgreeOn N t) {object : ObjectLiteral} (ho : object.Within N)
    (code : String) : object.reading s code = object.reading t code := by
  obtain ⟨hscan, hprops⟩ := scan_congr h ho
  have htext (sub : Option String) :
      (object.scan (some t)).props.map (·.text code (some s) sub) =
        (object.scan (some t)).props.map (·.text code (some t) sub) :=
    Option.map_congr fun p hp => PropsMatch.text_congr h code sub (hprops p hp)
  have hentries : (object.scan (some t)).props.map (·.entries code (some s)) =
      (object.scan (some t)).props.map (·.entries code (some t)) :=
    Option.map_congr fun p hp => PropsMatch.entries_congr h code (hprops p hp)
  simp only [reading, hscan, htext, hentries, staticValue_congr h ho]

end ObjectLiteral

end Showcase
