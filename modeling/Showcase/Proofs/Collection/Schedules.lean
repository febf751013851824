import Mathlib.Data.List.Perm.Basic
import Mathlib.Data.List.Range
import Showcase.Collection.Schedule
import Showcase.Proofs.Number.Quotients

namespace Showcase

/-!
# Complete schedules

A schedule by which every item finishes is an order of the items, and every order of the items
is one.  What it tells covers the items: each label and each number is told once.
-/

namespace Schedule

variable {items : List α} {schedule : Schedule}

/-- Every item finishes, each once. -/
def Complete (schedule : Schedule) (count : Nat) : Prop := schedule.Perm (List.range count)

instance (schedule : Schedule) (count : Nat) : Decidable (schedule.Complete count) :=
  inferInstanceAs (Decidable (List.Perm _ _))

theorem filterMap_getElem?_range (items : List α) :
    (List.range items.length).filterMap (items[·]?) = items := by
  induction items with
  | nil => rfl
  | cons item rest ih =>
      rw [List.length_cons, List.range_succ_eq_map, List.filterMap_cons, List.filterMap_map]
      exact congrArg (item :: ·) ih

theorem Complete.finished_perm (h : schedule.Complete items.length) :
    (schedule.finished items).Perm items := by
  have hfinished : (schedule.finished items).Perm
      ((List.range items.length).filterMap (items[·]?)) := h.filterMap _
  rwa [filterMap_getElem?_range] at hfinished

theorem getElem?_filterMap_of_isSome {f : α → Option β} {items : List α}
    (h : ∀ item ∈ items, (f item).isSome) (index : Nat) :
    (items.filterMap f)[index]? = items[index]?.bind f := by
  induction items generalizing index with
  | nil => rfl
  | cons item rest ih =>
      obtain ⟨hitem, hrest⟩ := List.forall_mem_cons.mp h
      obtain ⟨image, himage⟩ := Option.isSome_iff_exists.mp hitem
      rw [List.filterMap_cons, himage]
      cases index with
      | zero => simp [himage]
      | succ index => simpa using ih hrest index

theorem Complete.isSome_getElem? (h : schedule.Complete items.length) :
    ∀ index ∈ schedule, (items[index]?).isSome := by
  intro index hindex
  have hlt : index < items.length := List.mem_range.mp (h.subset hindex)
  simp [hlt]

theorem finished_finished {outer inner : Schedule} (h : inner.Complete items.length) :
    finished (outer.finished inner) items = outer.finished (inner.finished items) := by
  unfold finished
  rw [List.filterMap_filterMap]
  refine List.filterMap_congr fun index _ => ?_
  exact (getElem?_filterMap_of_isSome h.isSome_getElem? index).symm

/-- Any order of the items is the order of a complete schedule. -/
theorem exists_complete_of_perm {order : List α} (h : order.Perm items) :
    ∃ schedule : Schedule, schedule.Complete items.length ∧ schedule.finished items = order := by
  induction h with
  | nil => exact ⟨[], List.Perm.refl _, rfl⟩
  | @cons item order items _ ih =>
      obtain ⟨schedule, hcomplete, rfl⟩ := ih
      refine ⟨0 :: schedule.map Nat.succ, ?_, ?_⟩
      · rw [Complete, List.length_cons, List.range_succ_eq_map]
        exact (hcomplete.map _).cons 0
      · simp [finished, List.filterMap_map]
  | swap first second rest =>
      refine ⟨1 :: 0 :: (List.range rest.length).map (· + 2), ?_, ?_⟩
      · rw [Complete, List.length_cons, List.length_cons, List.range_succ_eq_map,
          List.range_succ_eq_map, List.map_cons, List.map_map]
        exact List.Perm.swap 0 1 _
      · have hrest := filterMap_getElem?_range rest
        simpa [finished, List.filterMap_map, Function.comp_def] using hrest
  | @trans order middle items hfirst hsecond ih₁ ih₂ =>
      -- The outer schedule picks from what the inner one has put in an order.
      obtain ⟨outer, houter, rfl⟩ := ih₁
      obtain ⟨inner, hinner, rfl⟩ := ih₂
      have hlength : (inner.finished items).length = inner.length := by
        rw [hinner.finished_perm.length_eq, hinner.length_eq, List.length_range]
      rw [hlength] at houter
      exact ⟨outer.finished inner, houter.finished_perm.trans hinner, finished_finished hinner⟩

/-! ## What is told -/

section Ticks

variable (total done : Nat) (labels : List String)

theorem ticksFrom_append_singleton (label : String) :
    ticksFrom total done (labels ++ [label]) =
      ticksFrom total done labels ++ [⟨done + labels.length + 1, total, label⟩] := by
  induction labels generalizing done with
  | nil => rfl
  | cons first rest ih =>
      have hnumber : done + 1 + rest.length + 1 = done + (rest.length + 1) + 1 := by omega
      rw [List.cons_append, ticksFrom, ticksFrom, ih, hnumber, List.cons_append, List.length_cons]

theorem getLast?_ticksFrom (h : labels ≠ []) :
    ∃ label,
      (ticksFrom total done labels).getLast? = some ⟨done + labels.length, total, label⟩ := by
  obtain rfl | ⟨init, last, rfl⟩ := labels.eq_nil_or_concat'
  · exact absurd rfl h
  · refine ⟨last, ?_⟩
    rw [ticksFrom_append_singleton, List.getLast?_append, List.length_append]
    rfl

theorem map_current_ticksFrom :
    (ticksFrom total done labels).map (·.current) = List.range' (done + 1) labels.length := by
  induction labels generalizing done with
  | nil => rfl
  | cons label rest ih => rw [ticksFrom, List.map_cons, ih, List.length_cons, List.range'_succ]

theorem map_label_ticksFrom : (ticksFrom total done labels).map (·.label) = labels := by
  induction labels generalizing done with
  | nil => rfl
  | cons label rest ih => rw [ticksFrom, List.map_cons, ih]

theorem total_eq_of_mem_ticksFrom {progress : Progress}
    (h : progress ∈ ticksFrom total done labels) : progress.total = total := by
  induction labels generalizing done with
  | nil => cases h
  | cons label rest ih =>
      rcases List.mem_cons.mp h with rfl | hrest
      · rfl
      · exact ih (done + 1) hrest

end Ticks

end Schedule

/-- Each of some labels is told once, and each number up to their count is told once. -/
structure Progress.Covers (updates : List Progress) (labels : List String) : Prop where
  total : ∀ update ∈ updates, update.total = labels.length
  current : (updates.map (·.current)).Perm (List.range' 1 labels.length)
  label : (updates.map (·.label)).Perm labels

theorem Progress.Covers.of_perm {updates others : List Progress} {labels : List String}
    (h : Covers others labels) (hperm : updates.Perm others) : Covers updates labels := by
  constructor
  · intro update hupdate
    exact h.total update (hperm.subset hupdate)
  · exact (hperm.map _).trans h.current
  · exact (hperm.map _).trans h.label

theorem Schedule.Complete.covers_ticks {schedule : Schedule} {items : List α}
    (h : schedule.Complete items.length) (label : α → String) :
    Progress.Covers (schedule.ticks label items) (items.map label) := by
  have hlength : (schedule.finished items).length = items.length := h.finished_perm.length_eq
  constructor
  · intro update hupdate
    rw [List.length_map]
    exact total_eq_of_mem_ticksFrom _ _ _ hupdate
  · rw [ticks, map_current_ticksFrom, List.length_map, List.length_map, hlength]
  · rw [ticks, map_label_ticksFrom]
    exact h.finished_perm.map label

/-- When everything is done, a hundred percent are told. -/
theorem Progress.percentage_self {count : Nat} (hpos : 0 < count) (h : count < 2 ^ 64)
    (label : String) : percentage ⟨count, count, label⟩ = .ofNat 100 := by
  obtain ⟨mantissa, exponent, hcount, hmantissa⟩ := Binary64.exists_ofNat hpos h
  rw [percentage, if_neg hpos.ne', hcount, Binary64.div_self false exponent hmantissa]
  decide +kernel

/-- A complete schedule of any items ends with a hundred percent. -/
theorem Schedule.Complete.percentage_getLast? {schedule : Schedule} {items : List α}
    (h : schedule.Complete items.length) (hitems : items ≠ [])
    (hbound : items.length < 2 ^ 64) (label : α → String) :
    (schedule.ticks label items).getLast?.map Progress.percentage = some (.ofNat 100) := by
  have hlength : ((schedule.finished items).map label).length = items.length := by
    rw [List.length_map, h.finished_perm.length_eq]
  have hpos : 0 < items.length := List.length_pos_iff.mpr hitems
  have hlabels : (schedule.finished items).map label ≠ [] :=
    List.ne_nil_of_length_pos (hlength ▸ hpos)
  obtain ⟨last, hlast⟩ := getLast?_ticksFrom items.length 0 _ hlabels
  rw [ticks, hlast, hlength, Nat.zero_add, Option.map_some, Progress.percentage_self hpos hbound]

end Showcase
