import Mathlib.Algebra.Order.Group.Nat
import Mathlib.Tactic.SplitIfs
import Showcase.Text.Decode

namespace Showcase.Text

/-!
# Bytes and characters

Decoding is the inverse of encoding: bytes are read as a character exactly if they are its bytes,
and so the bytes of a text are read as the text.
-/

/-! ## Bytes after the first -/

/-- The last `count` bytes of the character of a number. -/
def lastBytes : Nat → Nat → List UInt8
  | 0, _ => []
  | count + 1, number =>
    .ofNat (number / 64 ^ count % 64 + 0x80) :: lastBytes count number

theorem length_lastBytes (count number : Nat) : (lastBytes count number).length = count := by
  induction count with
  | zero => rfl
  | succ count ih => rw [lastBytes, List.length_cons, ih]

theorem toNat_ofNat_of_lt {n : Nat} (h : n < 256) : (UInt8.ofNat n).toNat = n := by
  rw [UInt8.toNat_ofNat', Nat.mod_eq_of_lt h]

/-- A number of 64s and a byte for the rest of it. -/
theorem eq_add_iff {q code : Nat} {b : UInt8} :
    (0x80 ≤ b.toNat ∧ b.toNat ≤ 0xBF) ∧ q = code * 64 + (b.toNat - 0x80) ↔
      b = .ofNat (q % 64 + 0x80) ∧ q / 64 = code := by
  have hbyte : b = .ofNat (q % 64 + 0x80) ↔ b.toNat = q % 64 + 0x80 := by
    rw [← UInt8.toNat_inj, toNat_ofNat_of_lt (by omega)]
  rw [hbyte]
  omega

theorem continued_zero (low high code done : Nat) (bytes : List UInt8) :
    continued low high code done 0 bytes = .ok code := by
  cases bytes <;> rfl

theorem continued_eq_ok_iff {code done count number : Nat} {bytes : List UInt8} :
    continued 0x80 0xBF code done count bytes = .ok number ↔
      ∃ after, bytes = lastBytes count number ++ after ∧ number / 64 ^ count = code := by
  induction count generalizing code done bytes with
  | zero =>
      rw [continued_zero, Nat.pow_zero, Nat.div_one]
      constructor
      · intro h
        exact ⟨bytes, rfl, (Except.ok.inj h).symm⟩
      · rintro ⟨_, -, rfl⟩
        rfl
  | succ count ih =>
      have hdiv : number / 64 ^ (count + 1) = number / 64 ^ count / 64 := by
        rw [Nat.pow_succ, Nat.div_div_eq_div_mul]
      cases bytes with
      | nil => exact ⟨nofun, fun ⟨_, h, _⟩ => nomatch h⟩
      | cons b rest =>
          rw [continued, hdiv]
          constructor
          · intro h
            split_ifs at h with hb
            obtain ⟨after, rfl, hnumber⟩ := ih.mp h
            obtain ⟨rfl, hcode⟩ := eq_add_iff.mp ⟨hb, hnumber⟩
            exact ⟨after, rfl, hcode⟩
          · rintro ⟨after, heq, hcode⟩
            obtain ⟨hfirst, rfl⟩ := List.cons.inj heq
            obtain ⟨hb, hnumber⟩ := eq_add_iff.mpr ⟨hfirst, hcode⟩
            rw [if_pos hb]
            exact ih.mpr ⟨after, rfl, hnumber⟩

/-- The second byte of a character, if there is one, may be bound to a smaller range. -/
theorem continued_within_iff {low high code count number : Nat} {bytes : List UInt8}
    (hlow : 0x80 ≤ low) (hhigh : high ≤ 0xBF) :
    continued low high code 1 count bytes = .ok number ↔
      ∃ after, bytes = lastBytes count number ++ after ∧ number / 64 ^ count = code ∧
        (count ≠ 0 → low ≤ number / 64 ^ (count - 1) % 64 + 0x80 ∧
          number / 64 ^ (count - 1) % 64 + 0x80 ≤ high) := by
  cases count with
  | zero =>
      have hfull : continued 0x80 0xBF code 1 0 bytes = .ok number ↔ _ := continued_eq_ok_iff
      rw [continued_zero] at hfull ⊢
      simpa using hfull
  | succ count =>
      have hsecond : (UInt8.ofNat (number / 64 ^ count % 64 + 0x80)).toNat =
          number / 64 ^ count % 64 + 0x80 := toNat_ofNat_of_lt (by omega)
      constructor
      · intro h
        cases bytes with
        | nil => cases h
        | cons b rest =>
            rw [continued] at h
            split_ifs at h with hb
            have hfull : continued 0x80 0xBF code 1 (count + 1) (b :: rest) = .ok number := by
              rw [continued, if_pos ⟨Nat.le_trans hlow hb.1, Nat.le_trans hb.2 hhigh⟩, h]
            obtain ⟨after, heq, hcode⟩ := continued_eq_ok_iff.mp hfull
            obtain ⟨rfl, -⟩ := List.cons.inj heq
            rw [hsecond] at hb
            exact ⟨after, heq, hcode, fun _ => hb⟩
      · rintro ⟨after, rfl, hcode, hb⟩
        have hfull : continued 0x80 0xBF code 1 (count + 1)
            (lastBytes (count + 1) number ++ after) = .ok number :=
          continued_eq_ok_iff.mpr ⟨after, rfl, hcode⟩
        obtain ⟨hb₁, hb₂⟩ := hb (Nat.succ_ne_zero count)
        rw [lastBytes, List.cons_append, continued, hsecond] at hfull ⊢
        rw [if_pos ⟨hb₁, hb₂⟩]
        rwa [if_pos ⟨Nat.le_trans hlow hb₁, Nat.le_trans hb₂ hhigh⟩] at hfull

/-! ## Characters -/

theorem toNat_ofNat {number : Nat} (h : number.isValidChar) :
    (Char.ofNat number).val.toNat = number := by
  rw [Char.ofNat, dif_pos h]
  rfl

/-- The number of bytes after the first in the character of a number. -/
def followersOf (number : Nat) : Nat :=
  if number ≤ 0x7F then 0 else if number ≤ 0x7FF then 1 else if number ≤ 0xFFFF then 2 else 3

/-- The first byte of the character of a number. -/
def firstByte (number : Nat) : Nat :=
  if number ≤ 0x7F then number
  else if number ≤ 0x7FF then number / 64 % 32 + 0xC0
  else if number ≤ 0xFFFF then number / 4096 % 16 + 0xE0
  else number / 262144 % 8 + 0xF0

theorem utf8EncodeChar_eq (c : Char) :
    String.utf8EncodeChar c =
      .ofNat (firstByte c.val.toNat) :: lastBytes (followersOf c.val.toNat) c.val.toNat := by
  unfold String.utf8EncodeChar firstByte followersOf
  dsimp only
  split_ifs <;> simp [lastBytes]

theorem firstByte_lt (number : Nat) : firstByte number < 256 := by
  unfold firstByte
  split_ifs <;> omega

/-- What the first of `count + 1` bytes adds to the number of a character. -/
def lead (first count : Nat) : Nat :=
  if count = 0 then first
  else if count = 1 then first - 0xC0
  else if count = 2 then first - 0xE0
  else first - 0xF0

theorem firstChar_eq_ok_iff {first : UInt8} {bytes : List UInt8} {c : Char} {count : Nat} :
    firstChar first bytes = .ok (c, count) ↔
      ∃ more number, followers first.toNat = some more ∧
        continued (secondRange first.toNat).1 (secondRange first.toNat).2
          (lead first.toNat more) 1 more bytes = .ok number ∧
        c = Char.ofNat number ∧ count = more + 1 := by
  unfold firstChar lead
  cases followers first.toNat with
  | none => simp
  | some more =>
      dsimp only
      constructor
      · intro h
        split at h
        · rename_i number hnumber
          obtain ⟨rfl, rfl⟩ := Prod.mk.inj (Except.ok.inj h)
          exact ⟨more, number, rfl, hnumber, rfl, rfl⟩
        · cases h
      · rintro ⟨_, number, ⟨⟩, hnumber, rfl, rfl⟩
        rw [hnumber]

theorem secondRange_bounds (first : Nat) :
    0x80 ≤ (secondRange first).1 ∧ (secondRange first).2 ≤ 0xBF := by
  unfold secondRange
  split_ifs <;> exact ⟨by decide, by decide⟩

/-- The first byte and the range of the second tell which numbers a character may have. -/
theorem isValidChar_iff {first count number : Nat} (hfirst : first < 256) :
    (followers first = some count ∧ number / 64 ^ count = lead first count ∧
      (count ≠ 0 → (secondRange first).1 ≤ number / 64 ^ (count - 1) % 64 + 0x80 ∧
        number / 64 ^ (count - 1) % 64 + 0x80 ≤ (secondRange first).2)) ↔
      number.isValidChar ∧ first = firstByte number ∧ count = followersOf number := by
  unfold Nat.isValidChar
  constructor
  · rintro ⟨hcount, hlead, hsecond⟩
    unfold followers at hcount
    unfold secondRange at hsecond
    unfold lead at hlead
    split_ifs at hcount with h0 h1 h2 h3 <;> obtain rfl := Option.some.inj hcount
    · simp at hlead
      subst hlead
      unfold firstByte followersOf
      split_ifs <;> omega
    · simp at hlead hsecond
      unfold firstByte followersOf
      split_ifs at hsecond ⊢ <;> omega
    · simp at hlead hsecond
      unfold firstByte followersOf
      split_ifs at hsecond ⊢ <;> dsimp only at hsecond <;> omega
    · simp at hlead hsecond
      unfold firstByte followersOf
      split_ifs at hsecond ⊢ <;> dsimp only at hsecond <;> omega
  · rintro ⟨hvalid, rfl, rfl⟩
    unfold followersOf firstByte followers lead secondRange
    refine ⟨?_, ?_, fun hmore => ?_⟩
    · split_ifs <;> first | rfl | omega
    · split_ifs <;> first | contradiction | simp only [Nat.reducePow]; omega
    · split_ifs <;> constructor <;> dsimp only <;> omega

/-- Bytes are read as a character exactly if they begin with its bytes. -/
theorem firstChar_eq_ok_iff_encoded {first : UInt8} {bytes : List UInt8} {c : Char} {count : Nat} :
    firstChar first bytes = .ok (c, count) ↔
      ∃ more after, bytes = more ++ after ∧ String.utf8EncodeChar c = first :: more ∧
        count = more.length + 1 := by
  have hfirst : first.toNat < 256 := first.toNat_lt
  obtain ⟨hlow, hhigh⟩ := secondRange_bounds first.toNat
  rw [firstChar_eq_ok_iff, utf8EncodeChar_eq]
  constructor
  · rintro ⟨more, number, hcount, hread, rfl, rfl⟩
    obtain ⟨after, rfl, hlead, hsecond⟩ := (continued_within_iff hlow hhigh).mp hread
    obtain ⟨hvalid, hbyte, rfl⟩ := (isValidChar_iff hfirst).mp ⟨hcount, hlead, hsecond⟩
    refine ⟨_, after, rfl, ?_, by rw [length_lastBytes]⟩
    rw [toNat_ofNat hvalid, ← hbyte, UInt8.ofNat_toNat]
  · rintro ⟨more, after, rfl, heq, rfl⟩
    obtain ⟨rfl, rfl⟩ := List.cons.inj heq
    have hbyte := toNat_ofNat_of_lt (firstByte_lt c.val.toNat)
    rw [hbyte] at hlow hhigh ⊢
    obtain ⟨hcount, hlead, hsecond⟩ := (isValidChar_iff (firstByte_lt c.val.toNat)).mpr
      ⟨c.valid, rfl, rfl⟩
    refine ⟨_, c.val.toNat, hcount, ?_, (Char.ofNat_toNat c).symm, by rw [length_lastBytes]⟩
    exact (continued_within_iff hlow hhigh).mpr ⟨after, rfl, hlead, hsecond⟩

/-! ## Texts -/

theorem utf8EncodeChar_ne_nil (c : Char) : String.utf8EncodeChar c ≠ [] := by
  rw [utf8EncodeChar_eq]
  exact List.cons_ne_nil _ _

theorem length_le_encode (cs : List Char) : cs.length ≤ (encode cs).length := by
  induction cs with
  | nil => exact Nat.le_refl 0
  | cons c cs ih =>
      have hpos : 0 < (String.utf8EncodeChar c).length :=
        List.length_pos_iff.mpr (utf8EncodeChar_ne_nil c)
      rw [encode, List.flatMap_cons, List.length_append, ← encode, List.length_cons]
      omega

theorem decodeFrom_encode {fuel index : Nat} {acc cs : List Char} (h : cs.length ≤ fuel) :
    decodeFrom fuel index acc (encode cs) = .ok (String.ofList (acc.reverse ++ cs)) := by
  induction cs generalizing fuel index acc with
  | nil =>
      rw [List.append_nil]
      cases fuel <;> rfl
  | cons c cs ih =>
      obtain ⟨fuel, rfl⟩ : ∃ n, fuel = n + 1 := ⟨fuel - 1, by rw [List.length_cons] at h; omega⟩
      obtain ⟨first, more, hbytes⟩ := List.exists_cons_of_ne_nil (utf8EncodeChar_ne_nil c)
      have hread : firstChar first (more ++ encode cs) = .ok (c, more.length + 1) :=
        firstChar_eq_ok_iff_encoded.mpr ⟨more, encode cs, rfl, hbytes, rfl⟩
      rw [encode, List.flatMap_cons, ← encode, hbytes, List.cons_append, decodeFrom, hread]
      dsimp only
      rw [List.drop_succ_cons, List.drop_left, ih (Nat.le_of_succ_le_succ h), List.reverse_cons,
        List.append_assoc, List.singleton_append]

theorem exists_of_decodeFrom_eq_ok {fuel index : Nat} {acc : List Char} {bytes : List UInt8}
    {text : String} (hfuel : bytes.length ≤ fuel)
    (h : decodeFrom fuel index acc bytes = .ok text) :
    ∃ cs, bytes = encode cs ∧ text = String.ofList (acc.reverse ++ cs) := by
  induction fuel generalizing index acc bytes with
  | zero =>
      obtain rfl := List.eq_nil_of_length_eq_zero (Nat.le_zero.mp hfuel)
      refine ⟨[], rfl, ?_⟩
      rw [List.append_nil, Except.ok.inj h]
  | succ fuel ih =>
      cases bytes with
      | nil =>
          refine ⟨[], rfl, ?_⟩
          rw [List.append_nil, Except.ok.inj h]
      | cons b rest =>
          rw [decodeFrom] at h
          split at h
          · rename_i c count hread
            obtain ⟨more, after, rfl, hbytes, rfl⟩ := firstChar_eq_ok_iff_encoded.mp hread
            rw [List.drop_succ_cons, List.drop_left] at h
            have hafter : after.length ≤ fuel := by
              rw [List.length_cons, List.length_append] at hfuel
              omega
            obtain ⟨cs, rfl, rfl⟩ := ih hafter h
            refine ⟨c :: cs, ?_, ?_⟩
            · rw [encode, encode, List.flatMap_cons, hbytes, List.cons_append]
            · rw [List.reverse_cons, List.append_assoc, List.singleton_append]
          · cases h

/-- Bytes are read as a text exactly if they are its bytes. -/
theorem decode_eq_ok_iff {bytes : List UInt8} {text : String} :
    decode bytes = .ok text ↔ bytes = encode text.toList := by
  constructor
  · intro h
    obtain ⟨cs, rfl, rfl⟩ := exists_of_decodeFrom_eq_ok (Nat.le_refl _) h
    rw [List.reverse_nil, List.nil_append, String.toList_ofList]
  · rintro rfl
    rw [decode, decodeFrom_encode (length_le_encode _), List.reverse_nil, List.nil_append,
      String.ofList_toList]

end Showcase.Text
