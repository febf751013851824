import Mathlib.Algebra.GroupWithZero.Nat
import Showcase.Reading.Extraction

namespace Showcase

open Text

/-!
# Offsets and places

A line and a column lead back to the byte offset for which they are told: the lines before, the
line feeds that end them and the characters before the column make it up.  So places come in the
order of their offsets, and the code of a snippet stands where its place says.
-/

namespace Text

theorem takeBytes_byteLength (before after : List Char) :
    takeBytes (byteLength before) (before ++ after) = before := by
  induction before with
  | nil => cases after <;> rfl
  | cons c cs ih =>
      have hpos : 0 < c.utf8Size := c.utf8Size_pos
      have hrest : c.utf8Size + byteLength cs - c.utf8Size = byteLength cs := by omega
      rw [List.cons_append, byteLength, takeBytes, if_neg (by omega), hrest, ih]

theorem dropBytes_byteLength (before after : List Char) :
    dropBytes (byteLength before) (before ++ after) = after := by
  have h := takeBytes_append_dropBytes (byteLength before) (before ++ after)
  rw [takeBytes_byteLength] at h
  exact List.append_cancel_left h

theorem takeBytes_byteLength_takeBytes (n : Nat) (cs : List Char) :
    takeBytes (byteLength (takeBytes n cs)) cs = takeBytes n cs := by
  have h := takeBytes_byteLength (takeBytes n cs) (dropBytes n cs)
  rwa [takeBytes_append_dropBytes] at h

theorem dropBytes_byteLength_takeBytes (n : Nat) (cs : List Char) :
    dropBytes (byteLength (takeBytes n cs)) cs = dropBytes n cs := by
  have h := dropBytes_byteLength (takeBytes n cs) (dropBytes n cs)
  rwa [takeBytes_append_dropBytes] at h

theorem utf8Size_le_takeBytes {n : Nat} (hn : n ≠ 0) (c : Char) (cs : List Char) :
    c.utf8Size ≤ byteLength (takeBytes n (c :: cs)) := by
  rw [takeBytes, if_neg hn, byteLength]
  omega

/-- A text is its last line, or it has a line feed before that. -/
theorem last_feed (cs : List Char) :
    '\n' ∉ cs ∨ ∃ front line, cs = front ++ '\n' :: line ∧ '\n' ∉ line := by
  by_cases h : '\n' ∈ cs
  · obtain ⟨line, front, hcs, hline⟩ :=
      List.eq_append_cons_of_mem (List.mem_reverse.mpr h)
    refine .inr ⟨front.reverse, line.reverse, ?_, by simpa using hline⟩
    rw [← List.reverse_reverse cs, hcs]
    simp
  · exact .inl h

/-! ## Lines -/

theorem splitOn_append_of_notMem {line : List Char} (h : '\n' ∉ line) (after : List Char) :
    (line ++ after).splitOn '\n' = (after.splitOn '\n').modifyHead (line ++ ·) := by
  induction line with
  | nil => exact (congrFun List.modifyHead_id _).symm
  | cons c cs ih =>
      rw [List.mem_cons, not_or] at h
      rw [List.cons_append, List.splitOn_cons_eq_if_modifyHead, if_neg (by simpa using Ne.symm h.1),
        ih h.2, List.modifyHead_modifyHead]
      rfl

theorem length_splitOn (cs : List Char) : (cs.splitOn '\n').length = cs.count '\n' + 1 := by
  induction cs with
  | nil => rfl
  | cons c cs ih =>
      rw [List.splitOn_cons_eq_if_modifyHead, List.count_cons]
      split <;> simp [ih]

/-- The lines of a text and as many line feeds are one line feed more than the text. -/
theorem sum_splitOn (cs : List Char) :
    ((cs.splitOn '\n').map (byteLength · + 1)).sum = byteLength cs + 1 := by
  induction cs with
  | nil => rfl
  | cons c cs ih =>
      obtain ⟨first, rest, hsplit⟩ := List.exists_cons_of_ne_nil (List.splitOn_ne_nil '\n' cs)
      rw [hsplit, List.map_cons, List.sum_cons] at ih
      rw [List.splitOn_cons_eq_if_modifyHead]
      split
      · rename_i hc
        obtain rfl : c = '\n' := by simpa using hc
        have hfeed : '\n'.utf8Size = 1 := rfl
        rw [hsplit, List.map_cons, List.map_cons, List.sum_cons, List.sum_cons, byteLength,
          byteLength]
        omega
      · rw [hsplit, List.modifyHead_cons, List.map_cons, List.sum_cons, byteLength, byteLength]
        omega

end Text

namespace Location

variable {before : List Char}

theorem lastLine_append (front : List Char) {line : List Char} (h : '\n' ∉ line) :
    lastLine (front ++ line) = lastLine front ++ line := by
  have hline : ∀ c ∈ line.reverse, decide (c ≠ '\n') = true := by
    intro c hc
    rw [List.mem_reverse] at hc
    simpa using ne_of_mem_of_not_mem hc h
  rw [lastLine, lastLine, List.reverse_append, List.takeWhile_append_of_pos hline,
    List.reverse_append, List.reverse_reverse]

theorem lastLine_of_notMem (h : '\n' ∉ before) : lastLine before = before :=
  lastLine_append [] h

theorem lastLine_feed (front : List Char) : lastLine (front ++ ['\n']) = [] := by
  simp [lastLine]

/-- The lines before the last one of `before` are lines of the whole text, and the one after them
begins with that last one. -/
theorem lines_append (before after : List Char) : ∃ init first rest,
    (before ++ after).splitOn '\n' = init ++ (lastLine before ++ first) :: rest ∧
      init.length = before.count '\n' ∧
        (init.map (byteLength · + 1)).sum + byteLength (lastLine before) = byteLength before ∧
          first <+: after := by
  obtain ⟨first, rest, hafter⟩ := List.exists_cons_of_ne_nil (List.splitOn_ne_nil '\n' after)
  have hfirst : first <+: after := by
    have hwhole : ['\n'].intercalate (after.splitOn '\n') = after := List.intercalate_splitOn '\n'
    rw [hafter] at hwhole
    cases rest with
    | nil => exact ⟨[], by simpa using hwhole⟩
    | cons second rest => exact ⟨_, by simpa [List.intercalate] using hwhole⟩
  rcases last_feed before with hnone | ⟨front, line, rfl, hline⟩
  · refine ⟨[], first, rest, ?_, ?_, ?_, hfirst⟩
    · rw [splitOn_append_of_notMem hnone, hafter, lastLine_of_notMem hnone]
      rfl
    · rw [List.count_eq_zero_of_not_mem hnone]
      rfl
    · rw [lastLine_of_notMem hnone]
      simp
  · have hlast : lastLine (front ++ '\n' :: line) = line := by
      rw [List.append_cons, lastLine_append _ hline, lastLine_feed, List.nil_append]
    refine ⟨front.splitOn '\n', first, rest, ?_, ?_, ?_, hfirst⟩
    · rw [List.append_assoc, List.cons_append, List.splitOn_append_cons_self,
        splitOn_append_of_notMem hline, hafter, hlast]
      rfl
    · rw [length_splitOn, List.count_append, List.count_cons_self,
        List.count_eq_zero_of_not_mem hline]
    · have hfeed : '\n'.utf8Size = 1 := rfl
      rw [sum_splitOn, hlast, byteLength_append, byteLength]
      omega

/-! ## Offsets of places -/

/-- How many characters at the front of the line with index `i` take no column. -/
def hidden (i : Nat) (line : List Char) : Nat :=
  if i = 0 ∧ line.head? = some byteOrderMark then 1 else 0

/-- The byte offset of a line and a column, if the text has such a line and the line such a
column.  The column behind the last character counts. -/
def offset? (place : Location) (source : String) : Option Nat :=
  match place.line, place.column with
  | i + 1, column + 1 =>
    let lines := source.toList.splitOn '\n'
    lines[i]?.bind fun line =>
      let n := hidden i line + column
      if n ≤ line.length then
        some (((lines.take i).map (byteLength · + 1)).sum + byteLength (line.take n))
      else none
  | _, _ => none

/-- An offset that has a place: a character begins there or the text ends, and it is not in front
of a byte order mark or inside one. -/
def IsOffset (source : String) (o : Nat) : Prop :=
  IsBoundary o source.toList ∧ (source.toList.head? = some byteOrderMark → 3 ≤ o)

/-- Order in a text. -/
def Before (a b : Location) : Prop :=
  a.line < b.line ∨ a.line = b.line ∧ a.column < b.column

section Places

variable {source : String} {o o' : Nat}

theorem IsOffset.exists_append (h : IsOffset source o) : ∃ before after,
    source.toList = before ++ after ∧ byteLength before = o ∧
      (source.toList.head? = some byteOrderMark → before ≠ []) := by
  obtain ⟨⟨before, after, hsource, rfl⟩, hmark⟩ := h
  refine ⟨before, after, hsource, rfl, ?_⟩
  rintro hhead rfl
  exact absurd (hmark hhead) (by decide)

theorem hidden_add_length_visibleLine {first : List Char}
    (hmark : (before ++ first).head? = some byteOrderMark → before ≠ []) :
    hidden (before.count '\n') (lastLine before ++ first) + (visibleLine before).length =
      (lastLine before).length := by
  unfold hidden visibleLine
  by_cases hfeed : '\n' ∈ before
  · have hcount : before.count '\n' ≠ 0 := Nat.ne_of_gt (List.count_pos_iff.mpr hfeed)
    rw [if_neg fun h => hcount h.1, if_pos (List.contains_iff_mem.mpr hfeed), Nat.zero_add]
  · rw [List.count_eq_zero_of_not_mem hfeed, lastLine_of_notMem hfeed,
      if_neg (mt List.contains_iff_mem.mp hfeed)]
    cases before with
    | nil =>
        have hhead : ([] ++ first).head? ≠ some byteOrderMark := fun h => hmark h rfl
        rw [if_neg fun h => hhead h.2]
        rfl
    | cons c cs =>
        by_cases hc : c = byteOrderMark
        · simp [hc, Nat.add_comm]
        · simp [hc]

theorem offset?_ofOffset_eq (path : String) (h : IsOffset source o) :
    (ofOffset source path o).offset? source = some o := by
  obtain ⟨before, after, hsource, rfl, hmark⟩ := h.exists_append
  obtain ⟨init, first, rest, hlines, hinit, hbytes, hfirst⟩ := lines_append before after
  have hfront : (before ++ first).head? = some byteOrderMark → before ≠ [] := by
    obtain ⟨more, rfl⟩ := hfirst
    intro hhead
    apply hmark
    rw [hsource, ← List.append_assoc, List.head?_append, hhead]
    rfl
  have hvisible := hidden_add_length_visibleLine hfront
  have hline : (init ++ (lastLine before ++ first) :: rest)[before.count '\n']? =
      some (lastLine before ++ first) := by
    rw [← hinit]
    simp
  have htake : (init ++ (lastLine before ++ first) :: rest).take (before.count '\n') = init := by
    rw [← hinit]
    exact List.take_left
  have hshort : (lastLine before).length ≤ (lastLine before ++ first).length := by
    rw [List.length_append]
    omega
  simp only [ofOffset, offset?, hsource, takeBytes_byteLength, hlines, hline, htake,
    Option.bind_some, hvisible, if_pos hshort, List.take_left, hbytes]

/-- What stands behind a place in its line adds to the column. -/
theorem visibleLine_append {mid : List Char} (hmid : '\n' ∉ mid)
    (hmark : (before ++ mid).head? = some byteOrderMark → before ≠ []) :
    visibleLine (before ++ mid) = visibleLine before ++ mid := by
  unfold visibleLine
  have hcontains : (before ++ mid).contains '\n' = before.contains '\n' := by simp [hmid]
  rw [hcontains, lastLine_append before hmid]
  split
  · rfl
  · cases before with
    | nil =>
        rw [if_neg fun hhead => hmark hhead rfl]
        rfl
    | cons c cs => by_cases hc : c = byteOrderMark <;> simp [hc]

theorem ofOffset_before (path : String) (h : IsOffset source o) (h' : IsOffset source o')
    (hlt : o < o') : (ofOffset source path o).Before (ofOffset source path o') := by
  obtain ⟨before, after, hsource, rfl, hmark⟩ := h.exists_append
  obtain ⟨before', after', hsource', rfl, -⟩ := h'.exists_append
  obtain ⟨mid, rfl⟩ : before <+: before' := by
    rcases List.prefix_or_prefix_of_prefix (hsource ▸ List.prefix_append before after)
      (hsource' ▸ List.prefix_append before' after') with hprefix | ⟨mid, rfl⟩
    · exact hprefix
    · rw [byteLength_append] at hlt
      omega
  have hmid : mid ≠ [] := by
    rintro rfl
    rw [List.append_nil] at hlt
    exact Nat.lt_irrefl _ hlt
  have hbefore : takeBytes (byteLength before) source.toList = before := by
    rw [hsource, takeBytes_byteLength]
  have hbefore' : takeBytes (byteLength (before ++ mid)) source.toList = before ++ mid := by
    rw [hsource', takeBytes_byteLength]
  simp only [Before, ofOffset, hbefore, hbefore', List.count_append]
  by_cases hfeed : '\n' ∈ mid
  · have hcount := List.count_pos_iff.mpr hfeed
    left
    omega
  · have hcount := List.count_eq_zero_of_not_mem hfeed
    have hlength := List.length_pos_iff.mpr hmid
    right
    rw [visibleLine_append hfeed, List.length_append]
    · omega
    · intro hhead
      apply hmark
      rw [hsource', List.head?_append, hhead]
      rfl

/-- An offset inside a character is told with the place of the next one, and so is cut there. -/
theorem exists_isOffset (path : String)
    (hmark : source.toList.head? = some byteOrderMark → 3 ≤ o) :
    ∃ cut, IsOffset source cut ∧ ofOffset source path o = ofOffset source path cut ∧
      dropBytes o source.toList = dropBytes cut source.toList ∧
      (IsBoundary o source.toList → cut = o) := by
  refine ⟨byteLength (takeBytes o source.toList), ⟨?_, ?_⟩, ?_, ?_, ?_⟩
  · exact ⟨_, _, (takeBytes_append_dropBytes o source.toList).symm, rfl⟩
  · intro hhead
    have ho := hmark hhead
    obtain ⟨rest, hsource⟩ := List.head?_eq_some_iff.mp hhead
    have hsize : byteOrderMark.utf8Size = 3 := by decide
    rw [hsource, ← hsize]
    exact utf8Size_le_takeBytes (by omega) byteOrderMark rest
  · rw [ofOffset, ofOffset, takeBytes_byteLength_takeBytes]
  · rw [dropBytes_byteLength_takeBytes]
  · rintro ⟨before, after, hsource, rfl⟩
    rw [hsource, takeBytes_byteLength]

end Places

theorem not_before_self (a : Location) : ¬ a.Before a := by
  rintro (h | ⟨-, h⟩) <;> exact Nat.lt_irrefl _ h

theorem Before.asymm {a b : Location} (h : a.Before b) : ¬ b.Before a := by
  unfold Before at *
  omega

/-- The place of an offset leads back to it, so places come in the order of their offsets and no
two offsets share one.  A component is told with a place at which the text goes on with its code;
that is where the component begins, if a character begins there. -/
theorem offset?_ofOffset (source : Source) :
    let place := ofOffset source.code source.path
    (∀ o, IsOffset source.code o → (place o).offset? source.code = some o) ∧
      (∀ o o', IsOffset source.code o → IsOffset source.code o' →
        (o < o' ↔ (place o).Before (place o')) ∧ (place o = place o' → o = o')) ∧
      ∀ object scope found, source.exported = .ok (object, scope) →
        (object.scan (some scope)).component = some found →
        (source.code.toList.head? = some byteOrderMark → 3 ≤ found.span.start) →
        ∃ snippet notices o, source.component = .ok (some snippet, notices) ∧
          snippet.location.offset? source.code = some o ∧
          snippet.code.toList <+: dropBytes o source.code.toList ∧
          (IsBoundary found.span.start source.code.toList → o = found.span.start) := by
  intro place
  have hback : ∀ o, IsOffset source.code o → (place o).offset? source.code = some o := by
    intro o h
    exact offset?_ofOffset_eq source.path h
  refine ⟨hback, ?_, ?_⟩
  · intro o o' h h'
    have hinjective : place o = place o' → o = o' := by
      intro heq
      have hsome := hback o h
      rw [heq, hback o' h'] at hsome
      exact (Option.some.inj hsome).symm
    refine ⟨⟨ofOffset_before source.path h h', ?_⟩, hinjective⟩
    intro hbefore
    rcases Nat.lt_trichotomy o o' with hlt | rfl | hgt
    · exact hlt
    · exact absurd hbefore (not_before_self _)
    · exact absurd hbefore (ofOffset_before source.path h' h hgt).asymm
  · intro object scope found hexported hfound hmark
    obtain ⟨o, ho, hplace, hdrop, hbegins⟩ := exists_isOffset source.path hmark
    refine ⟨source.snippet found, source.importNotices (object.scan (some scope)), o, ?_, ?_, ?_,
      hbegins⟩
    · simp only [Source.component, hexported, bind, Except.bind, pure, Except.pure, hfound,
        Option.map_some]
    · rw [Source.snippet, hplace]
      exact hback o ho
    · rw [Source.snippet, Script.Span.text, slice, String.toList_ofList, hdrop]
      exact ⟨_, takeBytes_append_dropBytes _ _⟩

namespace Marked

/-- A description behind a byte order mark, with wider characters before the component. -/
def source : Source :=
  ⟨"readme.js", .js, String.ofList (byteOrderMark ::
    "// é\nconst a = 'ü'; module.exports = \x7b component: () => 1 \x7d;".toList)⟩

end Marked

open Marked in
theorem offset?_ofOffset_marked : ∃ snippet notices,
    IsOffset source.code 3 ∧ IsOffset source.code 55 ∧ 3 < 55 ∧
      (ofOffset source.code source.path 3).Before (ofOffset source.code source.path 55) ∧
      source.component = .ok (some snippet, notices) ∧
      snippet.location.offset? source.code = some 55 ∧
      snippet.code.toList <+: dropBytes 55 source.code.toList := by
  obtain ⟨-, horder, hcomponent⟩ := offset?_ofOffset source
  have hboundary : ∀ n o, byteLength (source.code.toList.take n) = o →
      IsBoundary o source.code.toList := by
    intro n o hlength
    exact ⟨_, source.code.toList.drop n, (List.take_append_drop n _).symm, hlength⟩
  have hfirst : IsOffset source.code 3 :=
    ⟨hboundary 1 3 (by decide +kernel), fun _ => Nat.le_refl 3⟩
  have hstart : IsOffset source.code 55 :=
    ⟨hboundary 51 55 (by decide +kernel), fun _ => by decide⟩
  have hread : (source.exported.toOption.bind fun found =>
      (found.1.scan (some found.2)).component) = some ⟨⟨55, 62⟩, .inline⟩ := by decide +kernel
  obtain ⟨⟨object, scope⟩, hexported, hfound⟩ := Option.bind_eq_some_iff.mp hread
  obtain ⟨snippet, notices, o, hresult, hback, hcode, hbegins⟩ :=
    hcomponent object scope _ (eq_ok_of_toOption hexported) hfound (fun _ => by decide)
  obtain rfl : o = 55 := hbegins hstart.1
  have hbefore := (horder 3 55 hfirst hstart).1.mp (by decide)
  exact ⟨snippet, notices, hfirst, hstart, by decide, hbefore, hresult, hback, hcode⟩

end Location

end Showcase
