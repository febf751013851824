import Mathlib.Algebra.BigOperators.Group.List.Basic
import Mathlib.Data.List.TakeWhile
import Mathlib.Tactic.IntervalCases
import Mathlib.Tactic.Ring
import Showcase.Json.Value
import Showcase.Toml.Document

namespace Showcase.Toml

open Json (hexDigit)

/-!
# Strings that a configuration file can hold

Between quotes every character can be written as its code, also a quote, a backslash or a
character that may not stand there itself.  So for every key without quotes and every string there
is a file whose one line gives the key this string.
-/

/-! ## Codes of characters -/

theorem hexCode_hexDigit {d : Nat} (h : d < 16) (count value : Nat) (cs : List Char) :
    hexCode (count + 1) value (hexDigit d :: cs) = hexCode count (value * 16 + d) cs := by
  interval_cases d <;> rfl

/-- The last `count` hexadecimal digits of `n`. -/
def hexDigits : (count n : Nat) → List Char
  | 0, _ => []
  | count + 1, n => hexDigit (n / 16 ^ count % 16) :: hexDigits count n

theorem hexCode_hexDigits (count value n : Nat) (rest : List Char) :
    hexCode count value (hexDigits count n ++ rest) =
      some (value * 16 ^ count + n % 16 ^ count, rest) := by
  induction count generalizing value with
  | zero => simp [hexDigits, hexCode, Nat.mod_one]
  | succ count ih =>
      have hdigit : n / 16 ^ count % 16 < 16 := Nat.mod_lt _ (by decide)
      have hsplit : n % 16 ^ (count + 1) =
          n % 16 ^ count + 16 ^ count * (n / 16 ^ count % 16) := by
        rw [pow_succ, Nat.mod_mul]
      rw [hexDigits, List.cons_append, hexCode_hexDigit hdigit, ih, hsplit]
      ring_nf

theorem charOf_toNat (c : Char) : charOf c.toNat = some c := by
  have hvalid : c.toNat.isValidChar := c.valid
  have hchar := Char.ofNat_toNat c
  rw [Char.ofNat, dif_pos hvalid] at hchar
  rw [charOf, dif_pos hvalid, hchar]

/-- A character as the escape with its code. -/
def escapeCode (c : Char) : List Char := '\\' :: 'U' :: hexDigits 8 c.toNat

theorem escaped_hexDigits (c : Char) (rest : List Char) :
    escaped ('U' :: (hexDigits 8 c.toNat ++ rest)) = some (c, rest) := by
  have hsmall : c.toNat % 16 ^ 8 = c.toNat := by
    apply Nat.mod_eq_of_lt
    have hvalid : c.toNat.isValidChar := c.valid
    rcases hvalid with h | ⟨-, h⟩
    · omega
    · omega
  have hcode : hexCode 8 0 (hexDigits 8 c.toNat ++ rest) = some (c.toNat, rest) := by
    rw [hexCode_hexDigits, hsmall, Nat.zero_mul, Nat.zero_add]
  change escaped.code 8 _ = _
  simp [escaped.code, hcode, charOf_toNat]

/-! ## Strings between quotes -/

theorem basic_escapeCode (fuel : Nat) (acc : List Char) (c : Char) (rest : List Char) :
    basic (fuel + 1) acc (escapeCode c ++ rest) = basic fuel (c :: acc) rest := by
  rw [escapeCode, List.cons_append, List.cons_append, basic, if_neg (by decide), if_pos rfl,
    escaped_hexDigits]

theorem basic_escapes (s acc rest : List Char) {fuel : Nat} (h : s.length < fuel) :
    basic fuel acc (s.flatMap escapeCode ++ '"' :: rest) =
      some (String.ofList (acc.reverse ++ s), rest) := by
  induction s generalizing acc fuel with
  | nil =>
      obtain ⟨fuel, rfl⟩ : ∃ less, fuel = less + 1 := ⟨fuel - 1, by omega⟩
      rw [List.flatMap_nil, List.nil_append, List.append_nil, basic, if_pos rfl]
  | cons c s ih =>
      obtain ⟨fuel, rfl⟩ : ∃ less, fuel = less + 1 := ⟨fuel - 1, by omega⟩
      have hlength : s.length < fuel := by simpa using h
      rw [List.flatMap_cons, List.append_assoc, basic_escapeCode, ih (c :: acc) hlength]
      simp

/-- A string between quotes, with the codes of its characters. -/
def quoted (s : String) : List Char := '"' :: (s.toList.flatMap escapeCode ++ ['"'])

theorem length_le_length_flatMap_escapeCode (s : List Char) :
    s.length ≤ (s.flatMap escapeCode).length := by
  have hone : ∀ n ∈ s.map (fun c => (escapeCode c).length), 1 ≤ n := by simp [escapeCode]
  have h := List.length_le_sum_of_one_le _ hone
  rwa [List.length_map, ← List.length_flatMap] at h

theorem quotedString_quoted (lines : Bool) (s : String) :
    quotedString lines (quoted s) = some (s, []) := by
  have hlength := length_le_length_flatMap_escapeCode s.toList
  have hbasic : basic ((s.toList.flatMap escapeCode ++ ['"']).length + 1) []
      (s.toList.flatMap escapeCode ++ ['"']) = some (s, []) := by
    rw [basic_escapes, List.reverse_nil, List.nil_append, String.ofList_toList]
    rw [List.length_append]
    omega
  -- Two more quotes would open a string over several lines, but the first is followed by a
  -- backslash or by the last one.
  rw [quoted]
  cases hs : s.toList with
  | nil =>
      rw [hs] at hbasic
      exact hbasic
  | cons c cs =>
      rw [hs] at hbasic
      exact hbasic

theorem value_quoted (depth : Nat) (s : String) :
    value depth (quoted s) = some (.string s, []) := by
  have h := quotedString_quoted true s
  rw [quoted] at h ⊢
  cases depth <;> rw [value, h] <;> rfl

/-! ## A file of one line -/

theorem skipBlanks_cons {c : Char} (h : isBlank c = false) (cs : List Char) :
    skipBlanks (c :: cs) = c :: cs :=
  List.dropWhile_cons_of_neg (by simp [h])

/-- The characters of keys begin neither a gap nor a header nor a key between quotes. -/
theorem ne_of_isKeyChar {c : Char} (h : isKeyChar c = true) :
    isBlank c = false ∧ c ≠ '#' ∧ c ≠ '\n' ∧ c ≠ '\r' ∧ c ≠ '[' ∧ c ≠ '"' ∧ c ≠ '\'' ∧
      c ≠ byteOrderMark := by
  have hne : ∀ d, isKeyChar d = false → c ≠ d := by
    rintro d hd rfl
    rw [h] at hd
    cases hd
  refine ⟨?_, hne _ (by decide), hne _ (by decide), hne _ (by decide), hne _ (by decide),
    hne _ (by decide), hne _ (by decide), hne _ (by decide)⟩
  have hspace : c ≠ ' ' := hne ' ' (by decide)
  have htab : c ≠ '\t' := hne '\t' (by decide)
  simp [isBlank, hspace, htab]

theorem skipLines_cons {c : Char} (h : isKeyChar c = true) (cs : List Char) :
    skipLines (c :: cs) = some (c :: cs) := by
  obtain ⟨hblank, hcomment, hline, hreturn, -⟩ := ne_of_isKeyChar h
  have hgap : afterGap (c :: cs) = some (c :: cs) := by
    simp [afterGap, skipBlanks_cons hblank, hcomment]
  have hbreak : afterBreak (c :: cs) = none := by
    simp [afterBreak, hline, hreturn]
  rw [skipLines, afterLines, hgap]
  simp [hbreak]

variable {name : String} (hname : name ≠ "") (hchars : ∀ c ∈ name.toList, isKeyChar c = true)

include hname hchars in
theorem exists_cons_of_name : ∃ c cs, name.toList = c :: cs ∧ isKeyChar c = true := by
  cases h : name.toList with
  | nil => exact absurd (String.toList_eq_nil_iff.mp h) hname
  | cons c cs => exact ⟨c, cs, rfl, hchars c (by simp [h])⟩

include hname hchars in
theorem key_append (fuel : Nat) (rest : List Char) :
    key (fuel + 1) (name.toList ++ ' ' :: '=' :: rest) = some ([name], '=' :: rest) := by
  obtain ⟨c, cs, hcs, hc⟩ := exists_cons_of_name hname hchars
  obtain ⟨hblank, -, -, -, -, hquote, hmark, -⟩ := ne_of_isKeyChar hc
  have htake : (name.toList ++ ' ' :: '=' :: rest).takeWhile isKeyChar = name.toList := by
    rw [List.takeWhile_append_of_pos hchars, List.takeWhile_cons_of_neg (by decide),
      List.append_nil]
  have hpart : keyPart (name.toList ++ ' ' :: '=' :: rest) = some (name, ' ' :: '=' :: rest) := by
    unfold keyPart
    split
    · simp_all
    · simp_all
    · simp only [htake, List.drop_left, String.ofList_toList]
      simp [hcs]
  have hskip : skipBlanks (name.toList ++ ' ' :: '=' :: rest) =
      name.toList ++ ' ' :: '=' :: rest := by
    rw [hcs]
    exact skipBlanks_cons hblank _
  rw [key, hskip, hpart]
  rfl

/-- A line that gives a key a string. -/
def assignment (name s : String) : List Char := name.toList ++ ' ' :: '=' :: ' ' :: quoted s

include hname hchars in
theorem line_assignment (s : String) :
    line ⟨.empty .header, []⟩ (assignment name s) =
      some (⟨⟨.header, [(name, .string s)]⟩, []⟩, []) := by
  obtain ⟨c, cs, hcs, hc⟩ := exists_cons_of_name hname hchars
  obtain ⟨-, -, -, -, hbracket, -⟩ := ne_of_isKeyChar hc
  have hkey := key_append hname hchars (assignment name s).length (' ' :: quoted s)
  have hvalue : value depthLimit (skipBlanks (' ' :: quoted s)) = some (.string s, []) :=
    value_quoted depthLimit s
  have hassign : (Table.empty .header).assign [name] (.string s) =
      some ⟨.header, [(name, .string s)]⟩ := by
    simp [Table.assign, Table.empty, descend, set]
  unfold line
  split
  · rename_i rest heq
    rw [assignment, hcs] at heq
    exact absurd (List.cons.inj heq).1 hbracket
  · rw [assignment] at hkey ⊢
    rw [hkey]
    simp only [hvalue, Table.atHeader, hassign]
    rfl

/-- Some file of one line has a given string under a given key without quotes. -/
theorem exists_parse?_eq (hname : name ≠ "") (hchars : ∀ c ∈ name.toList, isKeyChar c = true)
    (s : String) : ∃ text, parse? text = some [(name, .string s)] := by
  refine ⟨String.ofList (assignment name s), ?_⟩
  obtain ⟨c, cs, hcs, hc⟩ := exists_cons_of_name hname hchars
  obtain ⟨hblank, -, -, -, -, -, -, hmark⟩ := ne_of_isKeyChar hc
  have hline := line_assignment hname hchars s
  obtain ⟨more, hmore⟩ : ∃ more, assignment name s = c :: more :=
    ⟨cs ++ ' ' :: '=' :: ' ' :: quoted s, by rw [assignment, hcs, List.cons_append]⟩
  rw [hmore] at hline ⊢
  have hfirst (fuel : Nat) :
      lines (fuel + 1) ⟨.empty .header, []⟩ (c :: more) =
        lines fuel ⟨⟨.header, [(name, .string s)]⟩, []⟩ [] := by
    rw [lines, skipLines_cons hc]
    simp only [skipBlanks_cons hblank, hline]
  rw [parse?, String.toList_ofList]
  simp only [if_neg hmark, List.length_cons]
  rw [hfirst]
  rfl

end Showcase.Toml
