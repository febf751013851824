import Showcase.Disk.Bytes
import Showcase.Proofs.Text.Decoding

namespace Showcase

/-!
# Paths, bytes and texts

The path of some bytes has just these bytes, and it is a text exactly if they are.  A text that is
taken for a path is the text that the path is, and is shown as it is.
-/

namespace Path

/-! ## The parts of a path -/

@[simp] theorem unitsOf_nil : unitsOf [] = [] := rfl

theorem unitsOf_cons {c : Char} (h : c ≠ mark) (rest : List Char) :
    unitsOf (c :: rest) = .char c :: unitsOf rest := by
  cases rest with
  | nil => simp [unitsOf, h]
  | cons d rest => rw [unitsOf, if_pos h]

theorem unitsOf_mark_mark (rest : List Char) :
    unitsOf (mark :: mark :: rest) = .char mark :: unitsOf rest := by
  rw [unitsOf, if_neg (not_not_intro rfl), if_pos rfl]

@[simp] theorem unitsOf_written_append (c : Char) (rest : List Char) :
    unitsOf (written c ++ rest) = .char c :: unitsOf rest := by
  unfold written
  split_ifs with h
  · subst h
    exact unitsOf_mark_mark rest
  · exact unitsOf_cons h rest

theorem unitsOf_flatMap_written (cs : List Char) :
    unitsOf (cs.flatMap written) = cs.map .char := by
  induction cs with
  | nil => rfl
  | cons c cs ih => rw [List.flatMap_cons, unitsOf_written_append, ih, List.map_cons]

theorem units_ofText (text : String) : units (ofText text) = text.toList.map .char := by
  rw [units, ofText, String.toList_ofList, unitsOf_flatMap_written]

/-- A byte that belongs to no character is written as the mark and the character of its number. -/
theorem unitsOf_mark_byte {b : UInt8} (h : 0x80 ≤ b.toNat) (rest : List Char) :
    unitsOf (mark :: Char.ofNat b.toNat :: rest) = .byte b :: unitsOf rest := by
  have hb : b.toNat < 256 := b.toNat_lt
  have hnumber : (Char.ofNat b.toNat).toNat = b.toNat := Text.toNat_ofNat (.inl (by omega))
  have hne : Char.ofNat b.toNat ≠ mark := by
    intro heq
    rw [heq] at hnumber
    rw [← hnumber] at h
    exact absurd h (by decide)
  have hmarked : marked? (Char.ofNat b.toNat) = some b := by
    rw [marked?, hnumber, if_pos ⟨h, by omega⟩, UInt8.ofNat_toNat]
  rw [unitsOf, if_neg (not_not_intro rfl), if_neg hne, hmarked]

theorem unitsOf_cons_ne_nil (c : Char) (rest : List Char) : unitsOf (c :: rest) ≠ [] := by
  cases rest with
  | nil => exact List.cons_ne_nil _ _
  | cons d rest =>
      rw [unitsOf]
      split_ifs
      · exact List.cons_ne_nil _ _
      · exact List.cons_ne_nil _ _
      · split <;> exact List.cons_ne_nil _ _

/-! ## Texts -/

theorem mapM_char?_map (cs : List Char) : (cs.map PathUnit.char).mapM PathUnit.char? = some cs := by
  induction cs with
  | nil => rfl
  | cons c cs ih => simp [PathUnit.char?, ih]

theorem eq_map_char_of_mapM {units : List PathUnit} {cs : List Char}
    (h : units.mapM PathUnit.char? = some cs) : units = cs.map .char := by
  induction units generalizing cs with
  | nil =>
      obtain rfl : cs = [] := by simpa using h.symm
      rfl
  | cons unit rest ih =>
      cases unit with
      | byte b => simp [PathUnit.char?] at h
      | char c =>
          obtain ⟨others, hrest, rfl⟩ : ∃ others, rest.mapM PathUnit.char? = some others ∧
              c :: others = cs := by simpa [PathUnit.char?, Option.bind_eq_some_iff] using h
          rw [ih hrest, List.map_cons]

theorem eq_flatMap_written_of_unitsOf {cs ds : List Char} (h : unitsOf cs = ds.map .char) :
    cs = ds.flatMap written := by
  induction ds generalizing cs with
  | nil =>
      cases cs with
      | nil => rfl
      | cons c rest => exact absurd h (unitsOf_cons_ne_nil c rest)
  | cons d ds ih =>
      rw [List.flatMap_cons]
      cases cs with
      | nil => cases h
      | cons c rest =>
          by_cases hc : c = mark
          · subst hc
            cases rest with
            | nil => cases h
            | cons next rest =>
                rw [unitsOf, if_neg (not_not_intro rfl)] at h
                split_ifs at h with hnext
                · subst hnext
                  obtain ⟨hd, hrest⟩ := List.cons.inj h
                  obtain rfl := PathUnit.char.inj hd
                  rw [written, if_pos rfl, ih hrest]
                  rfl
                · split at h <;> cases h
          · rw [unitsOf_cons hc] at h
            obtain ⟨hd, hrest⟩ := List.cons.inj h
            obtain rfl := PathUnit.char.inj hd
            rw [written, if_neg hc, ih hrest, List.singleton_append]

/-- A path is a text exactly if it is made of this text. -/
theorem text?_eq_some_iff {path text : String} : text? path = some text ↔ path = ofText text := by
  rw [text?]
  constructor
  · intro h
    obtain ⟨cs, hcs, rfl⟩ := Option.map_eq_some_iff.mp h
    have hpath := eq_flatMap_written_of_unitsOf (eq_map_char_of_mapM hcs)
    rw [ofText, String.toList_ofList, ← hpath, String.ofList_toList]
  · rintro rfl
    rw [units_ofText, mapM_char?_map, Option.map_some, String.ofList_toList]

theorem text?_ofText (text : String) : text? (ofText text) = some text := text?_eq_some_iff.mpr rfl

theorem ofText_append (text other : String) :
    ofText (text ++ other) = ofText text ++ ofText other := by
  rw [ofText, String.toList_append, List.flatMap_append, String.ofList_append, ofText, ofText]

theorem ofText_eq_self {text : String} (h : mark ∉ text.toList) : ofText text = text := by
  have hwritten : ∀ cs : List Char, mark ∉ cs → cs.flatMap written = cs := by
    intro cs hcs
    induction cs with
    | nil => rfl
    | cons c cs ih =>
        rw [List.mem_cons, not_or] at hcs
        obtain ⟨hc, hrest⟩ := hcs
        rw [List.flatMap_cons, written, if_neg (Ne.symm hc), ih hrest, List.singleton_append]
  rw [ofText, hwritten _ h, String.ofList_toList]

/-! ## What is shown -/

theorem shownFrom_map_char (skip : Nat) (cs : List Char) : shownFrom skip (cs.map .char) = cs := by
  induction cs generalizing skip with
  | nil => cases skip <;> rfl
  | cons c cs ih => cases skip <;> rw [List.map_cons, shownFrom, ih]

theorem shown_ofText (text : String) : shown (ofText text) = text := by
  rw [shown, units_ofText, shownFrom_map_char, String.ofList_toList]

theorem mem_of_char_mem_unitsOf {c : Char} {cs : List Char} (h : .char c ∈ unitsOf cs) :
    c ∈ cs := by
  induction cs using unitsOf.induct with
  | case1 => cases h
  | case2 d =>
      rw [unitsOf, List.mem_singleton] at h
      split_ifs at h
      rw [PathUnit.char.inj h]
      exact List.mem_singleton_self d
  | case3 d next rest hd ih =>
      rw [unitsOf_cons hd] at h
      rcases List.mem_cons.mp h with heq | hrest
      · rw [PathUnit.char.inj heq]
        exact List.mem_cons_self
      · exact List.mem_cons_of_mem _ (ih hrest)
  | case4 d rest hd ih =>
      obtain rfl := Classical.not_not.mp hd
      rw [unitsOf_mark_mark] at h
      rcases List.mem_cons.mp h with heq | hrest
      · rw [PathUnit.char.inj heq]
        exact List.mem_cons_self
      · exact List.mem_cons_of_mem _ (List.mem_cons_of_mem _ (ih hrest))
  | case5 d next rest hd hnext b hb ih =>
      rw [unitsOf, if_neg hd, if_neg hnext, hb] at h
      have hrest := (List.mem_cons.mp h).resolve_left nofun
      exact List.mem_cons_of_mem _ (List.mem_cons_of_mem _ (ih hrest))
  | case6 d next rest hd hnext hb ih =>
      rw [unitsOf, if_neg hd, if_neg hnext, hb] at h
      have hrest := (List.mem_cons.mp h).resolve_left nofun
      exact List.mem_cons_of_mem _ (ih hrest)

theorem mem_of_mem_shownFrom {c : Char} {skip : Nat} {units : List PathUnit}
    (h : c ∈ shownFrom skip units) : c = replacement ∨ .char c ∈ units := by
  induction units generalizing skip with
  | nil => cases skip <;> cases h
  | cons unit rest ih =>
      cases unit with
      | char d =>
          have hcons : c ∈ d :: shownFrom 0 rest := by cases skip <;> exact h
          rcases List.mem_cons.mp hcons with rfl | hrest
          · exact .inr List.mem_cons_self
          · exact (ih hrest).imp_right (List.mem_cons_of_mem _)
      | byte b =>
          cases skip with
          | zero =>
              rcases List.mem_cons.mp h with rfl | hrest
              · exact .inl rfl
              · exact (ih hrest).imp_right (List.mem_cons_of_mem _)
          | succ skip => exact (ih h).imp_right (List.mem_cons_of_mem _)

/-- What is shown of a path is in it, or stands for bytes that belong to no character. -/
theorem mem_of_mem_shown {c : Char} {path : String} (h : c ∈ (shown path).toList) :
    c = replacement ∨ c ∈ path.toList := by
  rw [shown, String.toList_ofList] at h
  exact (mem_of_mem_shownFrom h).imp_right mem_of_char_mem_unitsOf

/-! ## Bytes -/

theorem bytes_ofText (text : String) : bytes (ofText text) = Text.encode text.toList := by
  rw [bytes, units_ofText, List.flatMap_map]
  rfl

theorem le_of_firstChar_eq_error {b : UInt8} {rest : List UInt8} {length : Option Nat}
    (h : Text.firstChar b rest = .error length) : 0x80 ≤ b.toNat := by
  refine Nat.le_of_not_lt fun hb => ?_
  have hvalid : b.toNat.isValidChar := .inl (by omega)
  have hencoded : String.utf8EncodeChar (Char.ofNat b.toNat) = [b] := by
    rw [String.utf8EncodeChar, Text.toNat_ofNat hvalid, if_pos (by omega), UInt8.ofNat_toNat]
  have hread := Text.firstChar_eq_ok_iff_encoded.mpr ⟨[], rest, rfl, hencoded, rfl⟩
  rw [List.nil_append, h] at hread
  cases hread

theorem flatMap_bytes_unitsOf_ofBytesFrom (skip : Nat) (bytes : List UInt8) :
    (unitsOf (ofBytesFrom skip bytes)).flatMap PathUnit.bytes = bytes.drop skip := by
  induction bytes generalizing skip with
  | nil => cases skip <;> rfl
  | cons b rest ih =>
      cases skip with
      | succ skip => exact ih skip
      | zero =>
          rw [ofBytesFrom]
          split
          · rename_i c count hread
            obtain ⟨more, after, rfl, hencoded, rfl⟩ :=
              Text.firstChar_eq_ok_iff_encoded.mp hread
            rw [unitsOf_written_append, List.flatMap_cons, ih, PathUnit.bytes, hencoded,
              Nat.add_sub_cancel, List.drop_left]
            rfl
          · rename_i length hread
            rw [unitsOf_mark_byte (le_of_firstChar_eq_error hread), List.flatMap_cons, ih]
            rfl

/-- The path of some bytes has just these. -/
theorem bytes_ofBytes (bytes : List UInt8) : Path.bytes (ofBytes bytes) = bytes := by
  rw [Path.bytes, units, ofBytes, String.toList_ofList, flatMap_bytes_unitsOf_ofBytesFrom,
    List.drop_zero]

theorem ofBytesFrom_append (bytes after : List UInt8) :
    ofBytesFrom bytes.length (bytes ++ after) = ofBytesFrom 0 after := by
  induction bytes with
  | nil => rfl
  | cons b bytes ih => rw [List.length_cons, List.cons_append, ofBytesFrom, ih]

theorem ofBytes_encode (text : String) : ofBytes (Text.encode text.toList) = ofText text := by
  rw [ofBytes, ofText]
  induction text.toList with
  | nil => rfl
  | cons c cs ih =>
      obtain ⟨first, more, hencoded⟩ :=
        List.exists_cons_of_ne_nil (Text.utf8EncodeChar_ne_nil c)
      have hread := Text.firstChar_eq_ok_iff_encoded.mpr
        ⟨more, Text.encode cs, rfl, hencoded, rfl⟩
      rw [Text.encode, List.flatMap_cons, ← Text.encode, hencoded, List.cons_append, ofBytesFrom,
        hread]
      dsimp only
      rw [Nat.add_sub_cancel, ofBytesFrom_append, List.flatMap_cons, String.ofList_append, ih,
        String.ofList_append]

/-- The path of some bytes is a text exactly if the bytes are. -/
theorem text?_ofBytes (bytes : List UInt8) :
    text? (ofBytes bytes) = (Text.decode bytes).toOption := by
  refine Option.ext fun text => ?_
  have hdecode : (Text.decode bytes).toOption = some text ↔ bytes = Text.encode text.toList := by
    rw [← Text.decode_eq_ok_iff]
    cases Text.decode bytes <;> simp [Except.toOption]
  rw [hdecode, text?_eq_some_iff]
  constructor
  · intro h
    rw [← bytes_ofBytes bytes, h, bytes_ofText]
  · rintro rfl
    exact ofBytes_encode text

example : text? (ofBytes [0x62, 0xFF]) = none ∧ shown (ofBytes [0x62, 0xFF]) = "b\uFFFD" := by
  decide +kernel

end Path

end Showcase
