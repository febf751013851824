import Mathlib.Algebra.BigOperators.Group.List.Basic
import Mathlib.Data.List.DropRight
import Showcase.Proofs.Json.Numerals

namespace Showcase

open Text

/-!
# What is written of a value is read back

A value is written with blanks between its parts, and strings with escapes.  If its numbers are
read from what is written of them, the value is read from what is written of it, provided that the
members of objects are kept as they stand and that the bound on the nesting is high enough.
-/

namespace Json.Reader

/-! ## Strings -/

theorem hexValue_hexDigit : ∀ n < 16, hexValue (hexDigit n) = some n := by decide

theorem unicode_control {c : Char} (h : c.toNat < 32) (rest : List Char) :
    unicode ('0' :: '0' :: hexDigit (c.toNat / 16) :: hexDigit (c.toNat % 16) :: rest) =
      .ok (c, rest) := by
  have hhigh := hexValue_hexDigit (c.toNat / 16) (by omega)
  have hlow := hexValue_hexDigit (c.toNat % 16) (by omega)
  have hzero : hexValue '0' = some 0 := by decide
  have hlength : ¬ byteLength
      ('0' :: '0' :: hexDigit (c.toNat / 16) :: hexDigit (c.toNat % 16) :: rest) < 4 := by
    have hzeroSize := Char.utf8Size_pos '0'
    have hhighSize := Char.utf8Size_pos (hexDigit (c.toNat / 16))
    have hlowSize := Char.utf8Size_pos (hexDigit (c.toNat % 16))
    simp only [byteLength]
    omega
  have hcode : ((0 * 16 + 0) * 16 + c.toNat / 16) * 16 + c.toNat % 16 = c.toNat := by omega
  have hfour : fourHex
      ('0' :: '0' :: hexDigit (c.toNat / 16) :: hexDigit (c.toNat % 16) :: rest) =
        .ok (c.toNat, rest) := by
    rw [fourHex, if_neg hlength]
    simp only [hzero, hhigh, hlow, hcode]
  rw [unicode, hfour]
  dsimp only
  rw [if_neg (by omega), if_neg (by omega), Char.ofNat_toNat]

/-- A character as it is written in a string is read in one step. -/
theorem stringBody_escapeChar (fuel : Nat) (acc : List Char) (c : Char) (rest : List Char) :
    stringBody (fuel + 1) acc (escapeChar c ++ rest) = stringBody fuel (c :: acc) rest := by
  unfold escapeChar
  split_ifs with hquote hslash hline hreturn htab hback hfeed hcontrol
  · subst hquote
    rfl
  · subst hslash
    rfl
  · subst hline
    rfl
  · subst hreturn
    rfl
  · subst htab
    rfl
  · have hc : c = Char.ofNat 8 := by rw [← hback, Char.ofNat_toNat]
    subst hc
    rfl
  · have hc : c = Char.ofNat 12 := by rw [← hfeed, Char.ofNat_toNat]
    subst hc
    rfl
  · have hunicode := unicode_control hcontrol rest
    simp only [List.cons_append, List.nil_append, stringBody, escaped, hunicode]
  · rw [List.cons_append, List.nil_append, stringBody]
    · exact if_neg hcontrol
    · exact hquote
    · exact hslash

theorem stringBody_escaped (s acc rest : List Char) {fuel : Nat} (h : s.length ≤ fuel) :
    stringBody fuel acc (s.flatMap escapeChar ++ '"' :: rest) =
      .ok (String.ofList (acc.reverse ++ s), rest) := by
  induction s generalizing acc fuel with
  | nil =>
      rw [List.flatMap_nil, List.nil_append, List.append_nil]
      cases fuel <;> rfl
  | cons c s ih =>
      obtain ⟨fuel, rfl⟩ : ∃ less, fuel = less + 1 := ⟨fuel - 1, by simp at h; omega⟩
      have hlength : s.length ≤ fuel := by simpa using h
      have hrest := ih (c :: acc) hlength
      rw [List.flatMap_cons, List.append_assoc, stringBody_escapeChar, hrest]
      simp

theorem length_le_length_flatMap_escapeChar (s : List Char) :
    s.length ≤ (s.flatMap escapeChar).length := by
  have hone : ∀ n ∈ s.map (fun c => (escapeChar c).length), 1 ≤ n := by
    intro n hn
    obtain ⟨c, -, rfl⟩ := List.mem_map.mp hn
    unfold escapeChar
    split_ifs <;> simp
  have h := List.length_le_sum_of_one_le _ hone
  rwa [List.length_map, ← List.length_flatMap] at h

theorem string_escaped (s : String) (rest : List Char) :
    string (s.toList.flatMap escapeChar ++ '"' :: rest) = .ok (s, rest) := by
  have hlength := length_le_length_flatMap_escapeChar s.toList
  have hfuel : s.toList.length ≤ (s.toList.flatMap escapeChar ++ '"' :: rest).length := by
    rw [List.length_append]
    omega
  rw [string, stringBody_escaped s.toList [] rest hfuel, List.reverse_nil, List.nil_append,
    String.ofList_toList]

/-! ## The steps of the reader -/

theorem skipSpace_newline (level : Nat) (rest : List Char) :
    skipSpace ((newline level).toList ++ rest) = skipSpace rest := by
  have hblank : ∀ c ∈ (newline level).toList, isSpace c = true := by
    intro c hc
    have htext : (newline level).toList = '\n' :: List.replicate (2 * level) ' ' := by
      simp [newline]
    rw [htext] at hc
    rcases List.mem_cons.mp hc with rfl | hc
    · rfl
    · rw [List.eq_of_mem_replicate hc]
      rfl
  exact List.dropWhile_append_of_pos hblank

theorem skipSpace_skipSpace (cs : List Char) : skipSpace (skipSpace cs) = skipSpace cs :=
  List.dropWhile_idempotent isSpace cs

theorem skipSpace_cons {c : Char} (h : isSpace c = false) (cs : List Char) :
    skipSpace (c :: cs) = c :: cs :=
  List.dropWhile_cons_of_neg (by simp [h])

theorem value_skipSpace (put : Put) (depth : Nat) {cs cs' : List Char}
    (h : skipSpace cs = skipSpace cs') : value put depth cs = value put depth cs' := by
  cases depth <;> exact valueWith_skipSpace put _ h

/-- A value begins with something, which is not the end of an array. -/
theorem exists_head_of_value {put : Put} {depth : Nat} {cs : List Char} {read : Json × List Char}
    (h : value put depth cs = .ok read) : ∃ c rest, skipSpace cs = c :: rest ∧ c ≠ ']' := by
  have hwith : ∃ inner, valueWith put inner cs = .ok read := by
    cases depth with
    | zero => exact ⟨none, h⟩
    | succ depth => exact ⟨some (value put depth), h⟩
  obtain ⟨inner, hwith⟩ := hwith
  unfold valueWith at hwith
  cases hskip : skipSpace cs with
  | nil =>
      rw [hskip] at hwith
      cases hwith
  | cons c rest =>
      refine ⟨c, rest, rfl, ?_⟩
      rintro rfl
      rw [hskip] at hwith
      cases hwith

section Elements

variable {item : List Char → Step Json} {fuel : Nat} {acc : List Json} {v : Json}
  {cs more rest : List Char} {c : Char}

theorem elements_end (first : Bool) (h : skipSpace cs = ']' :: rest) :
    elements item (fuel + 1) first acc cs = .ok (.array acc.reverse, rest) := by
  rw [elements, h]
  rfl

theorem elements_first (h : skipSpace cs = c :: more) (hc : c ≠ ']')
    (hitem : item (c :: more) = .ok (v, rest)) :
    elements item (fuel + 1) true acc cs = elements item fuel false (v :: acc) rest := by
  rw [elements, h]
  dsimp only
  split
  · rename_i heq
    cases heq
  · rename_i heq
    exact absurd (List.cons.inj heq).1 hc
  · rename_i heq
    obtain ⟨rfl, rfl⟩ := List.cons.inj heq
    rw [if_pos rfl, hitem]

theorem elements_comma {left : List Char} (h : skipSpace cs = ',' :: left) :
    elements item (fuel + 1) false acc cs =
      match skipSpace left with
      | [] => stopAt .endInValue []
      | ']' :: more => stopAt .trailingComma (']' :: more)
      | rest =>
        match item rest with
        | .error stop => .error stop
        | .ok (v, rest) => elements item fuel false (v :: acc) rest := by
  rw [elements, h]
  rfl

theorem elements_next {left : List Char} (h : skipSpace cs = ',' :: left)
    (hleft : skipSpace left = c :: more) (hc : c ≠ ']')
    (hitem : item (c :: more) = .ok (v, rest)) :
    elements item (fuel + 1) false acc cs = elements item fuel false (v :: acc) rest := by
  rw [elements_comma h, hleft]
  split
  · rename_i heq
    cases heq
  · rename_i heq
    exact absurd (List.cons.inj heq).1 hc
  · rw [hitem]

end Elements

section Members

variable {put : Put} {item : List Char → Step Json} {fuel : Nat} {acc : List (String × Json)}
  {key : String} {v : Json} {cs more rest : List Char}

theorem members_end (first : Bool) (h : skipSpace cs = '\x7d' :: rest) :
    members put item (fuel + 1) first acc cs = .ok (.object acc, rest) := by
  rw [members, h]
  rfl

theorem members_open (h : skipSpace cs = '"' :: more) :
    members put item (fuel + 1) true acc cs =
      match member item ('"' :: more) with
      | .error stop => .error stop
      | .ok ((k, v), rest) => members put item fuel false (put k v acc) rest := by
  rw [members, h]
  rfl

theorem members_comma {left : List Char} (h : skipSpace cs = ',' :: left) :
    members put item (fuel + 1) false acc cs =
      match skipSpace left with
      | [] => stopAt .endInValue []
      | '\x7d' :: more => stopAt .trailingComma ('\x7d' :: more)
      | rest =>
        match member item rest with
        | .error stop => .error stop
        | .ok ((k, v), rest) => members put item fuel false (put k v acc) rest := by
  rw [members, h]
  rfl

theorem members_comma_quote {left : List Char} (h : skipSpace cs = ',' :: left)
    (hleft : skipSpace left = '"' :: more) :
    members put item (fuel + 1) false acc cs =
      match member item ('"' :: more) with
      | .error stop => .error stop
      | .ok ((k, v), rest) => members put item fuel false (put k v acc) rest := by
  rw [members_comma h, hleft]
  rfl

theorem members_first (h : skipSpace cs = '"' :: more)
    (hmember : member item ('"' :: more) = .ok ((key, v), rest)) :
    members put item (fuel + 1) true acc cs =
      members put item fuel false (put key v acc) rest := by
  rw [members_open h, hmember]

theorem members_next {left : List Char} (h : skipSpace cs = ',' :: left)
    (hleft : skipSpace left = '"' :: more)
    (hmember : member item ('"' :: more) = .ok ((key, v), rest)) :
    members put item (fuel + 1) false acc cs =
      members put item fuel false (put key v acc) rest := by
  rw [members_comma_quote h hleft, hmember]

theorem member_escaped :
    member item ('"' :: (key.toList.flatMap escapeChar ++ '"' :: ':' :: ' ' :: cs)) =
      match item (' ' :: cs) with
      | .error stop => .error stop
      | .ok (v, rest) => .ok ((key, v), rest) := by
  rw [member, string_escaped]
  rfl

theorem member_quote (hitem : item (' ' :: cs) = .ok (v, rest)) :
    member item ((quote key).toList ++ ':' :: ' ' :: cs) = .ok ((key, v), rest) := by
  have hquote : (quote key).toList ++ ':' :: ' ' :: cs =
      '"' :: (key.toList.flatMap escapeChar ++ '"' :: (':' :: ' ' :: cs)) := by
    simp [quote]
  rw [hquote, member_escaped, hitem]

end Members

end Json.Reader

namespace Json

/-! ## Values -/

mutual

/-- How deep arrays and objects are nested in a value. -/
def nesting : Json → Nat
  | array items => nestingOfItems items + 1
  | object ms => nestingOfMembers ms + 1
  | _ => 0

def nestingOfItems : List Json → Nat
  | [] => 0
  | v :: vs => max (nesting v) (nestingOfItems vs)

def nestingOfMembers : List (String × Json) → Nat
  | [] => 0
  | (_, v) :: ms => max (nesting v) (nestingOfMembers ms)

end

theorem nesting_le_of_mem_items {v : Json} {items : List Json} (h : v ∈ items) :
    v.nesting ≤ nestingOfItems items := by
  induction items with
  | nil => cases h
  | cons w vs ih =>
      rw [nestingOfItems]
      rcases List.mem_cons.mp h with rfl | h
      · exact le_max_left _ _
      · exact (ih h).trans (le_max_right _ _)

theorem nesting_le_of_mem_members {m : String × Json} {ms : List (String × Json)} (h : m ∈ ms) :
    m.2.nesting ≤ nestingOfMembers ms := by
  induction ms with
  | nil => cases h
  | cons other ms ih =>
      obtain ⟨key, w⟩ := other
      rw [nestingOfMembers]
      rcases List.mem_cons.mp h with rfl | h
      · exact le_max_left _ _
      · exact (ih h).trans (le_max_right _ _)

/-- A value whose numbers are read from what is written of them. -/
inductive Legible : Json → Prop
  | null : Legible .null
  | bool (b : Bool) : Legible (.bool b)
  | number {n : JsonNumber} (h : n.Legible) : Legible (.number n)
  | string (s : String) : Legible (.string s)
  | array {items : List Json} (h : ∀ v ∈ items, Legible v) : Legible (.array items)
  | object {ms : List (String × Json)} (h : ∀ m ∈ ms, Legible m.2) : Legible (.object ms)

namespace Reader

/-- A value is read from what is written of it at a level, whatever other text follows. -/
def ReadsBack (depth level : Nat) (v : Json) : Prop :=
  ∀ rest, Ends rest → value append depth ((pretty level v).toList ++ rest) = .ok (v, rest)

section Loops

variable {depth level : Nat} {v : Json} {rest : List Char}

theorem ends_newline (level : Nat) (rest : List Char) : Ends ((newline level).toList ++ rest) := by
  have htext : (newline level).toList ++ rest =
      '\n' :: (List.replicate (2 * level) ' ' ++ rest) := by
    simp [newline]
  rw [htext]
  exact .cons (by decide) (by decide) (by decide) (by decide) _

theorem ends_comma (rest : List Char) : Ends (',' :: rest) :=
  .cons (by decide) (by decide) (by decide) (by decide) rest

theorem toList_prettyItems_cons (level : Nat) (v : Json) (vs : List Json) (rest : List Char) :
    (prettyItems level (v :: vs)).toList ++ rest =
      ',' :: ((newline level).toList ++ ((pretty level v).toList ++
        ((prettyItems level vs).toList ++ rest))) := by
  simp [prettyItems]

theorem toList_prettyMembers_cons (level : Nat) (key : String) (v : Json)
    (ms : List (String × Json)) (rest : List Char) :
    (prettyMembers level ((key, v) :: ms)).toList ++ rest =
      ',' :: ((newline level).toList ++ ((quote key).toList ++ ':' :: ' ' ::
        ((pretty level v).toList ++ ((prettyMembers level ms).toList ++ rest)))) := by
  simp [prettyMembers]

theorem ends_items (level below : Nat) (vs : List Json) (rest : List Char) :
    Ends ((prettyItems level vs).toList ++ ((newline below).toList ++ rest)) := by
  cases vs with
  | nil => exact ends_newline below rest
  | cons v vs =>
      rw [toList_prettyItems_cons]
      exact ends_comma _

theorem ends_members (level below : Nat) (ms : List (String × Json)) (rest : List Char) :
    Ends ((prettyMembers level ms).toList ++ ((newline below).toList ++ rest)) := by
  cases ms with
  | nil => exact ends_newline below rest
  | cons m ms =>
      rw [toList_prettyMembers_cons]
      exact ends_comma _

theorem length_le_prettyItems (level : Nat) (vs : List Json) :
    vs.length ≤ (prettyItems level vs).toList.length := by
  induction vs with
  | nil => exact Nat.zero_le _
  | cons v vs ih =>
      have htext := toList_prettyItems_cons level v vs []
      rw [List.append_nil, List.append_nil] at htext
      rw [htext]
      simp only [List.length_cons, List.length_append]
      omega

theorem length_le_prettyMembers (level : Nat) (ms : List (String × Json)) :
    ms.length ≤ (prettyMembers level ms).toList.length := by
  induction ms with
  | nil => exact Nat.zero_le _
  | cons m ms ih =>
      have htext := toList_prettyMembers_cons level m.1 m.2 ms []
      rw [List.append_nil, List.append_nil] at htext
      rw [htext]
      simp only [List.length_cons, List.length_append]
      omega

theorem ReadsBack.exists_after_newline (h : ReadsBack depth level v) (hrest : Ends rest)
    (above : Nat) :
    ∃ c more, skipSpace ((newline above).toList ++ ((pretty level v).toList ++ rest)) = c :: more ∧
      c ≠ ']' ∧ value append depth (c :: more) = .ok (v, rest) := by
  have hread := h rest hrest
  obtain ⟨c, more, hskip, hc⟩ := exists_head_of_value hread
  refine ⟨c, more, ?_, hc, ?_⟩
  · rw [skipSpace_newline, hskip]
  · have hsame : skipSpace (c :: more) = skipSpace ((pretty level v).toList ++ rest) := by
      rw [← hskip, skipSpace_skipSpace]
    rw [value_skipSpace append depth hsame, hread]

theorem ReadsBack.exists_member_after_newline (h : ReadsBack depth level v) (hrest : Ends rest)
    (above : Nat) (key : String) :
    ∃ more, skipSpace ((newline above).toList ++ ((quote key).toList ++ ':' :: ' ' ::
        ((pretty level v).toList ++ rest))) = '"' :: more ∧
      member (value append depth) ('"' :: more) = .ok ((key, v), rest) := by
  have hblank : value append depth (' ' :: ((pretty level v).toList ++ rest)) = .ok (v, rest) := by
    have hsame : skipSpace (' ' :: ((pretty level v).toList ++ rest)) =
        skipSpace ((pretty level v).toList ++ rest) := rfl
    rw [value_skipSpace append depth hsame, h rest hrest]
  have hmember : member (value append depth)
      ((quote key).toList ++ ':' :: ' ' :: ((pretty level v).toList ++ rest)) =
        .ok ((key, v), rest) := member_quote hblank
  have hquote : (quote key).toList = '"' :: (key.toList.flatMap escapeChar ++ ['"']) := by
    simp [quote]
  rw [skipSpace_newline, hquote, List.cons_append, skipSpace_cons (by decide)]
  rw [hquote, List.cons_append] at hmember
  exact ⟨_, rfl, hmember⟩

theorem elements_items {vs : List Json} (h : ∀ v ∈ vs, ReadsBack depth level v) (acc : List Json)
    {fuel : Nat} (hfuel : vs.length < fuel) (below : Nat) (rest : List Char) :
    elements (value append depth) fuel false acc
        ((prettyItems level vs).toList ++ ((newline below).toList ++ ']' :: rest)) =
      .ok (.array (acc.reverse ++ vs), rest) := by
  -- Every item takes one unit of fuel, and the bracket at the end another.
  induction vs generalizing acc fuel with
  | nil =>
      obtain ⟨fuel, rfl⟩ : ∃ less, fuel = less + 1 := ⟨fuel - 1, by omega⟩
      have hend : skipSpace ((prettyItems level []).toList ++
          ((newline below).toList ++ ']' :: rest)) = ']' :: rest := by
        have hempty : (prettyItems level []).toList = [] := rfl
        rw [hempty, List.nil_append, skipSpace_newline]
        rfl
      rw [elements_end false hend, List.append_nil]
  | cons v vs ih =>
      obtain ⟨fuel, rfl⟩ : ∃ less, fuel = less + 1 := ⟨fuel - 1, by omega⟩
      obtain ⟨hv, hvs⟩ := List.forall_mem_cons.mp h
      have hless : vs.length < fuel := by simpa using hfuel
      obtain ⟨c, more, hskip, hc, hread⟩ :=
        hv.exists_after_newline (ends_items level below vs (']' :: rest)) level
      have hcomma := skipSpace_cons (by decide : isSpace ',' = false)
        ((newline level).toList ++ ((pretty level v).toList ++
          ((prettyItems level vs).toList ++ ((newline below).toList ++ ']' :: rest))))
      rw [toList_prettyItems_cons, elements_next hcomma hskip hc hread, ih hvs (v :: acc) hless]
      simp

theorem members_members {ms : List (String × Json)} (h : ∀ m ∈ ms, ReadsBack depth level m.2)
    (acc : List (String × Json)) {fuel : Nat} (hfuel : ms.length < fuel) (below : Nat)
    (rest : List Char) :
    members append (value append depth) fuel false acc
        ((prettyMembers level ms).toList ++ ((newline below).toList ++ '\x7d' :: rest)) =
      .ok (.object (acc ++ ms), rest) := by
  induction ms generalizing acc fuel with
  | nil =>
      obtain ⟨fuel, rfl⟩ : ∃ less, fuel = less + 1 := ⟨fuel - 1, by omega⟩
      have hend : skipSpace ((prettyMembers level []).toList ++
          ((newline below).toList ++ '\x7d' :: rest)) = '\x7d' :: rest := by
        have hempty : (prettyMembers level []).toList = [] := rfl
        rw [hempty, List.nil_append, skipSpace_newline]
        rfl
      rw [members_end false hend, List.append_nil]
  | cons m ms ih =>
      obtain ⟨fuel, rfl⟩ : ∃ less, fuel = less + 1 := ⟨fuel - 1, by omega⟩
      obtain ⟨key, v⟩ := m
      obtain ⟨hv, hms⟩ := List.forall_mem_cons.mp h
      have hless : ms.length < fuel := by simpa using hfuel
      obtain ⟨more, hskip, hread⟩ := hv.exists_member_after_newline
        (ends_members level below ms ('\x7d' :: rest)) level key
      have hcomma := skipSpace_cons (by decide : isSpace ',' = false)
        ((newline level).toList ++ ((quote key).toList ++ ':' :: ' ' ::
          ((pretty level v).toList ++ ((prettyMembers level ms).toList ++
            ((newline below).toList ++ '\x7d' :: rest)))))
      rw [toList_prettyMembers_cons, members_next hcomma hskip hread,
        ih hms (append key v acc) hless]
      simp [append]

end Loops

/-! ## Values and texts -/

section Values

variable {depth level : Nat}

/-- Scalars are read in the same way at every depth. -/
theorem readsBack_of_valueWith {v : Json} (h : ∀ inner rest, Ends rest →
    valueWith append inner ((pretty level v).toList ++ rest) = .ok (v, rest)) :
    ReadsBack depth level v := by
  intro rest hrest
  cases depth <;> exact h _ rest hrest

theorem readsBack_null : ReadsBack depth level .null := by
  refine readsBack_of_valueWith fun inner rest _ => ?_
  have htext : (pretty level .null).toList ++ rest = 'n' :: 'u' :: 'l' :: 'l' :: rest := by
    simp [pretty]
  rw [htext]
  rfl

theorem readsBack_bool (b : Bool) : ReadsBack depth level (.bool b) := by
  refine readsBack_of_valueWith fun inner rest _ => ?_
  cases b with
  | false =>
      have htext : (pretty level (.bool false)).toList ++ rest =
          'f' :: 'a' :: 'l' :: 's' :: 'e' :: rest := by
        simp [pretty]
      rw [htext]
      rfl
  | true =>
      have htext : (pretty level (.bool true)).toList ++ rest =
          't' :: 'r' :: 'u' :: 'e' :: rest := by
        simp [pretty]
      rw [htext]
      rfl

theorem valueWith_quote (put : Put) (inner : Option (List Char → Step Json)) (cs : List Char) :
    valueWith put inner ('"' :: cs) =
      match string cs with
      | .error stop => .error stop
      | .ok (s, rest) => .ok (.string s, rest) := rfl

theorem readsBack_string (s : String) : ReadsBack depth level (.string s) := by
  refine readsBack_of_valueWith fun inner rest _ => ?_
  have htext : (pretty level (.string s)).toList ++ rest =
      '"' :: (s.toList.flatMap escapeChar ++ '"' :: rest) := by
    simp [pretty, quote]
  rw [htext, valueWith_quote, string_escaped]

theorem readsBack_array {items : List Json} (h : ∀ v ∈ items, ReadsBack depth (level + 1) v) :
    ReadsBack (depth + 1) level (.array items) := by
  intro rest hrest
  have hopen (cs : List Char) : value append (depth + 1) ('[' :: cs) =
      elements (value append depth) (cs.length + 1) true [] cs := rfl
  cases items with
  | nil =>
      have htext : (pretty level (.array [])).toList ++ rest = '[' :: ']' :: rest := by
        simp [pretty]
      rw [htext, hopen, elements_end true (skipSpace_cons (by decide) rest)]
      rfl
  | cons v vs =>
      obtain ⟨hv, hvs⟩ := List.forall_mem_cons.mp h
      have htext : (pretty level (.array (v :: vs))).toList ++ rest =
          '[' :: ((newline (level + 1)).toList ++ ((pretty (level + 1) v).toList ++
            ((prettyItems (level + 1) vs).toList ++ ((newline level).toList ++ ']' :: rest)))) := by
        simp [pretty]
      obtain ⟨c, more, hskip, hc, hread⟩ :=
        hv.exists_after_newline (ends_items (level + 1) level vs (']' :: rest)) (level + 1)
      have hlength := length_le_prettyItems (level + 1) vs
      rw [htext, hopen, elements_first hskip hc hread,
        elements_items hvs [v] (by simp only [List.length_append, List.length_cons]; omega)]
      rfl

theorem readsBack_object {ms : List (String × Json)}
    (h : ∀ m ∈ ms, ReadsBack depth (level + 1) m.2) :
    ReadsBack (depth + 1) level (.object ms) := by
  intro rest hrest
  have hopen (cs : List Char) : value append (depth + 1) ('\x7b' :: cs) =
      members append (value append depth) (cs.length + 1) true [] cs := rfl
  cases ms with
  | nil =>
      have htext : (pretty level (.object [])).toList ++ rest = '\x7b' :: '\x7d' :: rest := by
        simp [pretty]
      rw [htext, hopen, members_end true (skipSpace_cons (by decide) rest)]
  | cons m ms =>
      obtain ⟨key, v⟩ := m
      obtain ⟨hv, hms⟩ := List.forall_mem_cons.mp h
      have htext : (pretty level (.object ((key, v) :: ms))).toList ++ rest =
          '\x7b' :: ((newline (level + 1)).toList ++ ((quote key).toList ++ ':' :: ' ' ::
            ((pretty (level + 1) v).toList ++ ((prettyMembers (level + 1) ms).toList ++
              ((newline level).toList ++ '\x7d' :: rest))))) := by
        simp [pretty]
      obtain ⟨more, hskip, hread⟩ := hv.exists_member_after_newline
        (ends_members (level + 1) level ms ('\x7d' :: rest)) (level + 1) key
      have hlength := length_le_prettyMembers (level + 1) ms
      rw [htext, hopen, members_first hskip hread,
        members_members hms (append key v [])
          (by simp only [List.length_append, List.length_cons]; omega)]
      rfl

end Values

/-- A value is read from what is written of it if the bound on the nesting allows for it. -/
theorem readsBack_of_legible {v : Json} (h : v.Legible) {depth : Nat} (hdepth : v.nesting ≤ depth)
    (level : Nat) : ReadsBack depth level v := by
  -- What stands in an array or an object is written one level deeper, and read with a lower bound.
  induction h generalizing depth level with
  | null => exact readsBack_null
  | bool b => exact readsBack_bool b
  | number hn => exact readsBack_of_valueWith fun inner rest hrest => valueWith_append hn hrest
  | string s => exact readsBack_string s
  | @array items hitems ih =>
      rw [nesting] at hdepth
      obtain ⟨depth, rfl⟩ : ∃ less, depth = less + 1 := ⟨depth - 1, by omega⟩
      refine readsBack_array fun v hv => ?_
      have hle := nesting_le_of_mem_items hv
      exact ih v hv (by omega) (level + 1)
  | @object ms hms ih =>
      rw [nesting] at hdepth
      obtain ⟨depth, rfl⟩ : ∃ less, depth = less + 1 := ⟨depth - 1, by omega⟩
      refine readsBack_object fun m hm => ?_
      have hle := nesting_le_of_mem_members hm
      exact ih m hm (by omega) (level + 1)

/-- With members kept as they stand, a whole text yields the value of which it was written. -/
theorem document_pretty {v : Json} (h : v.Legible) {depth : Nat} (hdepth : v.nesting ≤ depth) :
    document append depth (pretty 0 v).toList = .ok v := by
  have hread := readsBack_of_legible h hdepth 0 [] .nil
  rw [List.append_nil] at hread
  rw [document, hread]
  rfl

end Reader

end Json

end Showcase
