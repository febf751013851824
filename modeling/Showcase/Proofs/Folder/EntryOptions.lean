import Showcase.Proofs.Folder.Entries
import Showcase.Proofs.Reading.Literals

namespace Showcase

open Script

/-!
# The options of an entry

The options of an entry are read from the static value behind its code.  An object gives options if
its texts are texts or `null`.  An array of at most three items is taken for such an object, its
items for the members in their order.  Any other value keeps the folder from being loaded.
-/

namespace Record

/-- What becomes of a text when a value is given for it, or none is. -/
inductive Takes (before : Option String) : Option Json → Option String → Prop
  | absent : Takes before none before
  | null : Takes before (some .null) none
  | text (s : String) : Takes before (some (.string s)) (some s)

theorem takes_none_iff {before t : Option String} : Takes before none t ↔ t = before := by
  constructor
  · intro h
    cases h
    rfl
  · rintro rfl
    exact .absent

theorem text?_eq_ok_iff (before : Option String) {v : Json} {t : Option String} :
    text? v = .ok t ↔ Takes before (some v) t := by
  constructor
  · intro h
    cases v with
    | null =>
        cases h
        exact .null
    | string s =>
        cases h
        exact .text s
    | bool b | number n | array items | object members => cases h
  · intro h
    cases h <;> rfl

section Fields

variable {ρ : Type} {fields : List (String × Setter ρ)} {set : Setter ρ} {r o : ρ}

theorem ofMembers_cons_iff {key : String} (hset : fields.lookup key = some set) (v : Json)
    (rest : List (String × Json)) :
    ofMembers fields r ((key, v) :: rest) = .ok o ↔
      ∃ next, set v r = .ok next ∧ ofMembers fields next rest = .ok o := by
  rw [ofMembers, hset]
  dsimp only
  cases set v r <;> simp

theorem ofMembers_cons_of_none {key : String} (hnone : fields.lookup key = none) (v : Json)
    (rest : List (String × Json)) :
    ofMembers fields r ((key, v) :: rest) = ofMembers fields r rest := by
  rw [ofMembers, hnone]

theorem ofItems_cons_iff (name : String) (v : Json) (rest : List Json) :
    ofItems ((name, set) :: fields) r (v :: rest) = .ok o ↔
      ∃ next, set v r = .ok next ∧ ofItems fields next rest = .ok o := by
  rw [ofItems]
  cases set v r <;> simp

theorem exists_map_text?_iff (before : Option String) (give : Option String → ρ) (v : Json)
    (P : ρ → Prop) :
    (∃ next, (text? v).map give = .ok next ∧ P next) ↔
      ∃ t, Takes before (some v) t ∧ P (give t) := by
  simp only [← text?_eq_ok_iff before]
  cases text? v <;> simp [Except.map]

end Fields

end Record

namespace EntryOptions

/-- What becomes of options when values are given for some of them. -/
structure Takes (before : EntryOptions) (alt readme screenshot : Option Json)
    (after : EntryOptions) : Prop where
  alt : Record.Takes before.alt alt after.alt
  readme : Record.Takes before.readme readme after.readme
  screenshot : after.screenshot = screenshot.elim before.screenshot Record.any?

variable {alt readme screenshot : Option Json} {r o : EntryOptions}

theorem ok_eq_ok_iff : (.ok r : Except ShapeFault EntryOptions) = .ok o ↔
    r.Takes none none none o := by
  rw [Except.ok.injEq]
  constructor
  · rintro rfl
    exact ⟨.absent, .absent, rfl⟩
  · rintro ⟨halt, hreadme, hscreenshot⟩
    rw [Record.takes_none_iff] at halt hreadme
    cases o
    cases r
    simp_all

/-! ## One value after the other -/

theorem takes_alt_iff (v : Json) :
    (∃ t, Record.Takes r.alt (some v) t ∧
        ({ r with alt := t } : EntryOptions).Takes none readme screenshot o) ↔
      r.Takes (some v) readme screenshot o := by
  constructor
  · rintro ⟨t, ht, ⟨halt, hreadme, hscreenshot⟩⟩
    obtain rfl : o.alt = t := Record.takes_none_iff.mp halt
    exact ⟨ht, hreadme, hscreenshot⟩
  · rintro ⟨halt, hreadme, hscreenshot⟩
    exact ⟨o.alt, halt, ⟨.absent, hreadme, hscreenshot⟩⟩

theorem takes_readme_iff (v : Json) :
    (∃ t, Record.Takes r.readme (some v) t ∧
        ({ r with readme := t } : EntryOptions).Takes alt none screenshot o) ↔
      r.Takes alt (some v) screenshot o := by
  constructor
  · rintro ⟨t, ht, ⟨halt, hreadme, hscreenshot⟩⟩
    obtain rfl : o.readme = t := Record.takes_none_iff.mp hreadme
    exact ⟨halt, ht, hscreenshot⟩
  · rintro ⟨halt, hreadme, hscreenshot⟩
    exact ⟨o.readme, hreadme, ⟨halt, .absent, hscreenshot⟩⟩

theorem takes_screenshot_iff (v : Json) :
    ({ r with screenshot := Record.any? v } : EntryOptions).Takes alt readme none o ↔
      r.Takes alt readme (some v) o := by
  constructor
  · rintro ⟨halt, hreadme, hscreenshot⟩
    exact ⟨halt, hreadme, hscreenshot⟩
  · rintro ⟨halt, hreadme, hscreenshot⟩
    exact ⟨halt, hreadme, hscreenshot⟩

/-- The members of an object are taken over by their names, in whatever order they stand. -/
theorem ofMembers_eq_ok_iff {members : List (String × Json)}
    (distinct : (members.map Prod.fst).Nodup) :
    Record.ofMembers fields r members = .ok o ↔
      r.Takes (Json.member? members "alt") (Json.member? members "readme")
        (Json.member? members "screenshot") o := by
  induction members generalizing r with
  | nil =>
      rw [Record.ofMembers]
      exact ok_eq_ok_iff
  | cons first rest ih =>
      obtain ⟨key, v⟩ := first
      rw [List.map_cons, List.nodup_cons] at distinct
      obtain ⟨hfresh, distinct⟩ := distinct
      have hnone : Json.member? rest key = none := Json.member?_eq_none hfresh
      simp only [Json.member?_cons]
      by_cases halt : key = "alt"
      · subst halt
        rw [Record.ofMembers_cons_iff rfl, Record.exists_map_text?_iff r.alt]
        simp only [ih distinct, hnone]
        exact takes_alt_iff v
      by_cases hreadme : key = "readme"
      · subst hreadme
        rw [Record.ofMembers_cons_iff rfl, Record.exists_map_text?_iff r.readme]
        simp only [ih distinct, hnone]
        exact takes_readme_iff v
      by_cases hscreenshot : key = "screenshot"
      · subst hscreenshot
        rw [Record.ofMembers_cons_iff rfl]
        simp only [Except.ok.injEq, exists_eq_left', ih distinct, hnone]
        exact takes_screenshot_iff v
      have hother : fields.lookup key = none := by
        rw [List.lookup_eq_none_iff]
        simp [fields, halt, hreadme, hscreenshot]
      rw [Record.ofMembers_cons_of_none hother, ih distinct, if_neg halt, if_neg hreadme,
        if_neg hscreenshot]

theorem ofItems_nil_iff (items : List Json) :
    Record.ofItems [] r items = .ok o ↔ r.Takes none none none o := by
  cases items with
  | nil | cons v rest => exact ok_eq_ok_iff

theorem ofItems_screenshot_iff (items : List Json) :
    Record.ofItems (fields.drop 2) r items = .ok o ↔ r.Takes none none items[0]? o := by
  cases items with
  | nil => exact ok_eq_ok_iff
  | cons v rest =>
      refine (Record.ofItems_cons_iff _ v rest).trans ?_
      simp only [Except.ok.injEq, exists_eq_left']
      exact (ofItems_nil_iff rest).trans (takes_screenshot_iff v)

theorem ofItems_readme_iff (items : List Json) :
    Record.ofItems (fields.drop 1) r items = .ok o ↔ r.Takes none items[0]? items[1]? o := by
  cases items with
  | nil => exact ok_eq_ok_iff
  | cons v rest =>
      refine (Record.ofItems_cons_iff _ v rest).trans ?_
      rw [Record.exists_map_text?_iff r.readme, List.getElem?_cons_zero, ← takes_readme_iff]
      exact exists_congr fun t => and_congr_right fun _ => ofItems_screenshot_iff rest

/-- The items of an array are taken over by their places. -/
theorem ofItems_eq_ok_iff (items : List Json) :
    Record.ofItems fields r items = .ok o ↔ r.Takes items[0]? items[1]? items[2]? o := by
  cases items with
  | nil => exact ok_eq_ok_iff
  | cons v rest =>
      refine (Record.ofItems_cons_iff _ v rest).trans ?_
      rw [Record.exists_map_text?_iff r.alt, List.getElem?_cons_zero, ← takes_alt_iff]
      exact exists_congr fun t => and_congr_right fun _ => ofItems_readme_iff rest

end EntryOptions

/-! ## The value -/

namespace Json

/-- What a static value gives as options, over none. -/
inductive GivesOptions : Json → EntryOptions → Prop
  | object {members : List (String × Json)} {o : EntryOptions}
      (h : EntryOptions.empty.Takes (member? members "alt") (member? members "readme")
        (member? members "screenshot") o) : GivesOptions (.object members) o
  | items {items : List Json} {o : EntryOptions} (few : items.length ≤ 3)
      (h : EntryOptions.empty.Takes items[0]? items[1]? items[2]? o) :
      GivesOptions (.array items) o

end Json

theorem EntryOptions.ofJson_eq_ok_iff {v : Json} {o : EntryOptions}
    (distinct : ∀ members, v = .object members → (members.map Prod.fst).Nodup) :
    EntryOptions.ofJson v = .ok o ↔ v.GivesOptions o := by
  cases v with
  | object members =>
      refine (ofMembers_eq_ok_iff (distinct members rfl)).trans ⟨.object, ?_⟩
      rintro ⟨h⟩
      exact h
  | array items =>
      have hlength : fields.length = 3 := rfl
      rw [ofJson, Record.ofJson, hlength]
      constructor
      · intro h
        split at h
        · cases h
        · rename_i given hgiven
          split at h
          · cases h
          · rename_i hfew
            cases h
            exact .items (by omega) ((ofItems_eq_ok_iff items).mp hgiven)
      · rintro (_ | ⟨few, h⟩)
        rw [(ofItems_eq_ok_iff items).mpr h]
        exact if_neg (by omega)
  | null | bool b | number n | string s => exact iff_of_false nofun nofun

namespace Static

variable {f : String → Option Json}

/-- The members of every object that is read have a name each. -/
theorem pairwise_of_valueWith
    (hf : ∀ name members, f name = some (.object members) →
      (members.map Prod.fst).Pairwise (· < ·))
    (e : Expr) {members : List (String × Json)} (h : valueWith f e = some (.object members)) :
    (members.map Prod.fst).Pairwise (· < ·) := by
  cases e with
  | wrapped span w inner =>
      rw [valueWith] at h
      exact pairwise_of_valueWith hf inner h
  | identifier id => exact hf id.name members h
  | object span ms =>
      cases h
      exact membersWith_pairwise f ms .nil
  | number span b =>
      obtain ⟨n, hn⟩ := eq_number_of_number h
      cases hn
  | negation span operand =>
      rw [valueWith] at h
      split at h
      · obtain ⟨n, hn⟩ := eq_number_of_number h
        cases hn
      · cases h
  | template span pieces => rcases pieces with _ | ⟨_ | cooked, _ | ⟨_, _⟩⟩ <;> cases h
  | _ => cases h

end Static

theorem Script.Expr.pairwise_of_staticValue {scope : Option Scope} {e : Expr}
    {members : List (String × Json)} (h : e.staticValue scope = some (.object members)) :
    (members.map Prod.fst).Pairwise (· < ·) := by
  refine Static.pairwise_of_valueWith ?_ e h
  intro name ms hname
  obtain ⟨initial, -, hvalue⟩ := Option.bind_eq_some_iff.mp hname
  refine Static.pairwise_of_valueWith ?_ initial hvalue
  intro name ms hnone
  cases hnone

theorem Script.Expr.ofJson_eq_ok_iff {scope : Option Scope} {e : Expr} {v : Json}
    (h : e.staticValue scope = some v) (o : EntryOptions) :
    EntryOptions.ofJson v = .ok o ↔ v.GivesOptions o := by
  apply EntryOptions.ofJson_eq_ok_iff
  rintro members rfl
  exact e.pairwise_of_staticValue h |>.imp String.ne_of_lt

/-! ## Loading -/

namespace PropsPosition

variable {scope : Option Scope} {p : PropsPosition} {v : Json}

theorem ofJson_eq_ok_iff (h : p.static? scope = some v) (o : EntryOptions) :
    EntryOptions.ofJson v = .ok o ↔ v.GivesOptions o := by
  obtain ⟨e, -, he⟩ := Option.bind_eq_some_iff.mp h
  exact e.ofJson_eq_ok_iff he o

/-- A position with code whose value gives no options fails, and for this alone. -/
theorem fails_iff_of_not_gives (path : String) (hcode : (p.object? scope).isSome = true)
    (hvalue : p.static? scope = some v) (hnone : ∀ o, ¬ v.GivesOptions o) :
    ∃ fault : ShapeFault, EntryOptions.ofJson v = .error fault ∧
      ∀ told, p.Fails scope path told ↔ told = .invalidOptions .props path fault.message := by
  obtain ⟨object, hobject⟩ := Option.isSome_iff_exists.mp hcode
  cases hshape : EntryOptions.ofJson v with
  | ok o => exact absurd ((ofJson_eq_ok_iff hvalue o).mp hshape) (hnone o)
  | error fault =>
      refine ⟨fault, rfl, fun told => ⟨?_, ?_⟩⟩
      · intro hfails
        cases hfails with
        | code hmissing =>
            rw [hobject] at hmissing
            cases hmissing
        | options _ hother hfault =>
            obtain rfl := Option.some.inj (hvalue.symm.trans hother)
            obtain rfl := Except.error.inj (hshape.symm.trans hfault)
            rfl
      · rintro rfl
        exact .options hobject hvalue hshape

end PropsPosition

namespace Loader

/-- The options of an entry are read from a static value exactly if it is an object whose texts are
texts or `null`, or an array of at most three items that could be the values of such an object. A
loaded folder has these options in its entries.  A value that gives none is told, unless something
stands before it that keeps the folder from being loaded. -/
theorem load_entryOptions (loader : Loader) (disk : Disk) (folder : String) :
    (∀ (scope : Option Scope) (e : Expr) (v : Json), e.staticValue scope = some v →
      ∀ o, EntryOptions.ofJson v = .ok o ↔ v.GivesOptions o) ∧
      ∀ source object scope, loader.Describes disk folder source object scope →
        (object.scan (some scope)).component.isSome →
        ∀ (i : Nat) (p : PropsPosition) (v : Json),
          (object.positions (some scope))[i]? = some p → p.static? (some scope) = some v →
          (∀ loaded, (loader.load disk folder).outcome = .ok loaded →
            ∃ entry : PropsEntry, loaded.props[i]? = some entry ∧ v.GivesOptions entry.options) ∧
          ((p.object? (some scope)).isSome → (∀ o, ¬ v.GivesOptions o) →
            (∀ k < i, ∀ r : PropsPosition, (object.positions (some scope))[k]? = some r →
              ∀ told, ¬ r.Fails (some scope) source.path told) →
            ∃ fault : ShapeFault, EntryOptions.ofJson v = .error fault ∧
              (loader.load disk folder).outcome =
                .error (.invalidOptions .props source.path fault.message)) := by
  refine ⟨fun scope e v he => e.ofJson_eq_ok_iff he, ?_⟩
  intro source object scope hdescribes hcomponent i p v hp hvalue
  obtain ⟨found, hfound⟩ := Option.isSome_iff_exists.mp hcomponent
  have hsnippet := component_extracted source hfound
  rw [hdescribes.outcome_load]
  constructor
  · intro loaded hloaded
    obtain ⟨component, props, metadata, -, hprops, -, rfl⟩ := exists_of_assemble hloaded
    rw [Source.getD_props_extracted] at hprops
    obtain ⟨-, hshows⟩ := entriesFrom_shows _ _ _ hprops
    obtain ⟨entry, hentry, hshown⟩ := hshows i p hp
    have hoptions := hshown.options
    rw [hvalue] at hoptions
    exact ⟨entry, hentry, (p.ofJson_eq_ok_iff hvalue entry.options).mp hoptions⟩
  · intro hcode hnone hbefore
    obtain ⟨fault, hfault, hfails⟩ :=
      p.fails_iff_of_not_gives source.path hcode hvalue hnone
    refine ⟨fault, hfault, ?_⟩
    obtain ⟨j, hj, q, first, hq, hfirst, -, herror⟩ :=
      entriesFrom_fails source.code source.path (some scope) 0 hp ((hfails _).mpr rfl)
    -- No position before `i` fails, so the first that does is the one at `i`.
    have hij : j = i := by
      by_contra hne
      exact hbefore j (by omega) q hq first hfirst
    subst hij
    obtain rfl := Option.some.inj (hq.symm.trans hp)
    rw [(hfails first).mp hfirst] at herror
    apply assemble_of_entriesFrom hsnippet
    rw [Source.getD_props_extracted]
    exact herror

namespace Demonstrations

/-- The first position gives an entry, and the second one only if its options are read. -/
def readsSecond (folder : String) (read : Bool) (source : Source) (object : ObjectLiteral)
    (scope : Scope) : Bool :=
  match object.positions (some scope) with
  | first :: second :: _ =>
    (entry source.path 0 (first.raw source.code (some scope))).isOk &&
      (second.object? (some scope)).isSome &&
      ((second.static? (some scope)).any fun v => (EntryOptions.ofJson v).isOk == read) &&
      (assemble folder source (source.extracted object scope)).isOk == read
  | _ => false

theorem exists_of_readsSecond {folder : String} {read : Bool} {source : Source}
    {object : ObjectLiteral} {scope : Scope}
    (h : readsSecond folder read source object scope = true) :
    ∃ (second : PropsPosition) (v : Json), (object.positions (some scope))[1]? = some second ∧
      (second.object? (some scope)).isSome = true ∧ second.static? (some scope) = some v ∧
      (EntryOptions.ofJson v).isOk = read ∧
      (assemble folder source (source.extracted object scope)).isOk = read ∧
      ∀ k < 1, ∀ r : PropsPosition, (object.positions (some scope))[k]? = some r →
        ∀ told, ¬ r.Fails (some scope) source.path told := by
  unfold readsSecond at h
  split at h
  · rename_i first second rest hpositions
    simp only [Bool.and_eq_true] at h
    obtain ⟨⟨⟨hfirst, hcode⟩, hany⟩, hassemble⟩ := h
    obtain ⟨v, hv, hread⟩ := (Option.any_eq_true _ _).mp hany
    refine ⟨second, v, by rw [hpositions]; rfl, hcode, hv, beq_iff_eq.mp hread,
      beq_iff_eq.mp hassemble, ?_⟩
    intro k hk r hr
    obtain rfl : k = 0 := by omega
    rw [hpositions] at hr
    cases hr
    exact (isOk_entry_iff _ _ _ 0 first).mp hfirst
  · cases h

end Demonstrations

open Demonstrations in
theorem load_entryOptions_second :
    (∃ loaded entry v, (byName.load disk "/card").outcome = .ok loaded ∧
      loaded.props[1]? = some entry ∧ Json.GivesOptions v entry.options) ∧
    ∃ path fault, (byName.load disk "/button").outcome =
      .error (.invalidOptions .props path (ShapeFault.message fault)) := by
  constructor
  · obtain ⟨-, hload⟩ := load_entryOptions byName disk "/card"
    have hpasses : passes "/card" (readsSecond "/card" true) = true := by decide +kernel
    obtain ⟨source, object, scope, hdescribes, hcomponent, hsecond⟩ := exists_of_passes hpasses
    obtain ⟨second, v, hat, -, hv, -, hassemble, -⟩ := exists_of_readsSecond hsecond
    obtain ⟨loaded, hloaded⟩ := exists_eq_ok_of_isOk hassemble
    rw [← hdescribes.outcome_load] at hloaded
    obtain ⟨hentries, -⟩ := hload source object scope hdescribes hcomponent 1 second v hat hv
    obtain ⟨entry, hentry, hgives⟩ := hentries loaded hloaded
    exact ⟨loaded, entry, v, hloaded, hentry, hgives⟩
  · obtain ⟨hread, hload⟩ := load_entryOptions byName disk "/button"
    have hpasses : passes "/button" (readsSecond "/button" false) = true := by decide +kernel
    obtain ⟨source, object, scope, hdescribes, hcomponent, hsecond⟩ := exists_of_passes hpasses
    obtain ⟨second, v, hat, hcode, hv, hrefused, -, hbefore⟩ := exists_of_readsSecond hsecond
    obtain ⟨e, -, he⟩ := Option.bind_eq_some_iff.mp hv
    have hnone : ∀ o, ¬ v.GivesOptions o := by
      intro o hgives
      rw [(hread _ e v he o).mpr hgives] at hrefused
      cases hrefused
    obtain ⟨-, htold⟩ := hload source object scope hdescribes hcomponent 1 second v hat hv
    obtain ⟨fault, -, houtcome⟩ := htold hcode hnone hbefore
    exact ⟨_, fault, houtcome⟩

namespace Demonstrations

/-- The options of the entry are an array of one text. -/
def listed : Source :=
  ⟨"/button/readme.js", .js,
    "module.exports = \x7b component: () => 1, props: [[\x7b a: 1 \x7d, ['B']]] \x7d;"⟩

def isListed : List PropsPosition → Bool
  | [⟨some _, some (.array _ [.item (.string _ _)])⟩] => true
  | _ => false

end Demonstrations

open Demonstrations in
theorem listed_options_read :
    ¬ ∀ (source : Source) (object : ObjectLiteral) (scope : Scope) (p : PropsPosition) (v : Json)
        (o : EntryOptions), source.exported = .ok (object, scope) →
      p ∈ object.positions (some scope) → p.static? (some scope) = some v →
        EntryOptions.ofJson v = .ok o → ∃ members, v = .object members ∧
          EntryOptions.empty.Takes (Json.member? members "alt") (Json.member? members "readme")
            (Json.member? members "screenshot") o := by
  intro hall
  have hlisted : (listed.exported.toOption.map fun found =>
      isListed (found.1.positions (some found.2))) = some true := by decide +kernel
  obtain ⟨⟨object, scope⟩, hfound, hpositions⟩ := Option.map_eq_some_iff.mp hlisted
  dsimp only at hpositions
  unfold isListed at hpositions
  split at hpositions
  · rename_i code span inner text heq
    have hmem : ⟨some code, some (.array span [.item (.string inner text)])⟩ ∈
        object.positions (some scope) := by
      rw [heq]
      exact List.mem_singleton_self _
    obtain ⟨members, hobject, -⟩ := hall listed object scope _ _ _
      (eq_ok_of_toOption hfound) hmem rfl rfl
    cases hobject
  · cases hpositions

end Loader

end Showcase
