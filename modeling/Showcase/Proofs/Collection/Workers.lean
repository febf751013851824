import Showcase.Proofs.Collection.Schedules

namespace Showcase

/-!
# Workers and their tally

Items are worked on at the same time.  The work on an item ends with a result; the item then
takes the next number of a tally that all items share, and with that number it is told of.  A
turn is one of these three steps of one item, and turns come in any order.  Taking a number is
one step because a lock guards the tally.  Telling is a step of its own because it happens
without the lock, so items may be told of in another order than that of their numbers.

Once every item has been told of, the results stand in the order of the items, and what was told
is what the schedule of the numbers tells, in some order.
-/

/-- How far the work on an item is. -/
inductive Stage (β : Type) where
  | waiting
  | worked (result : β)
  | counted (result : β) (number : Nat)
  | told (result : β)

namespace Stage

def result? : Stage β → Option β
  | waiting => none
  | worked result | counted result _ | told result => some result

/-- Whether a number has been taken. -/
def isCounted : Stage β → Bool
  | counted _ _ | told _ => true
  | waiting | worked _ => false

def isTold : Stage β → Bool
  | told _ => true
  | _ => false

end Stage

/-- Items with how far each of them is, the tally that they share, and what was told so far. -/
structure Workers (α β : Type) where
  tasks : List (α × Stage β)
  tally : Nat
  progress : List Progress

namespace Workers

def start (items : List α) : Workers α β := ⟨items.map fun item => (item, .waiting), 0, []⟩

def results (workers : Workers α β) : List β := workers.tasks.filterMap fun task => task.2.result?

def isDone (workers : Workers α β) : Bool := workers.tasks.all fun task => task.2.isTold

section Turns

variable (label : α → String) (work : α → β)

/-- The next step of the item at an index. -/
def turn (workers : Workers α β) (index : Nat) : Workers α β :=
  let put (stage : α × Stage β) := workers.tasks.set index stage
  match workers.tasks[index]? with
  | none => workers
  | some (item, stage) =>
    match stage with
    | .waiting => { workers with tasks := put (item, .worked (work item)) }
    | .worked result =>
      { workers with
        tasks := put (item, .counted result (workers.tally + 1))
        tally := workers.tally + 1 }
    | .counted result number =>
      { workers with
        tasks := put (item, .told result)
        progress := workers.progress ++ [⟨number, workers.tasks.length, label item⟩] }
    | .told _ => workers

def run (workers : Workers α β) (turns : List Nat) : Workers α β :=
  turns.foldl (turn label work) workers

/-- What a turn can do. -/
inductive Turned : Workers α β → Workers α β → Prop
  | idle (workers : Workers α β) : Turned workers workers
  | work {before after : List (α × Stage β)} {tally : Nat} {progress : List Progress} (item : α) :
      Turned ⟨before ++ (item, .waiting) :: after, tally, progress⟩
        ⟨before ++ (item, .worked (work item)) :: after, tally, progress⟩
  | count {before after : List (α × Stage β)} {tally : Nat} {progress : List Progress} (item : α)
      (result : β) :
      Turned ⟨before ++ (item, .worked result) :: after, tally, progress⟩
        ⟨before ++ (item, .counted result (tally + 1)) :: after, tally + 1, progress⟩
  | tell {before after : List (α × Stage β)} {tally : Nat} {progress : List Progress} (item : α)
      (result : β) (number : Nat) :
      Turned ⟨before ++ (item, .counted result number) :: after, tally, progress⟩
        ⟨before ++ (item, .told result) :: after, tally,
          progress ++ [⟨number, (before ++ (item, .told result) :: after).length, label item⟩]⟩

theorem exists_split_of_getElem? {items : List γ} {index : Nat} {old : γ}
    (h : items[index]? = some old) :
    ∃ before after, items = before ++ old :: after ∧
      ∀ new, items.set index new = before ++ new :: after := by
  induction items generalizing index with
  | nil => simp at h
  | cons item rest ih =>
      cases index with
      | zero =>
          obtain rfl : item = old := by simpa using h
          exact ⟨[], rest, rfl, fun new => rfl⟩
      | succ index =>
          obtain ⟨before, after, rfl, hset⟩ := ih (by simpa using h)
          refine ⟨item :: before, after, rfl, fun new => ?_⟩
          rw [List.set_cons_succ, hset, List.cons_append]

theorem turned_turn (workers : Workers α β) (index : Nat) :
    Turned label work workers (workers.turn label work index) := by
  obtain ⟨tasks, tally, progress⟩ := workers
  unfold turn
  cases htask : tasks[index]? with
  | none => exact .idle _
  | some task =>
      obtain ⟨before, after, rfl, hset⟩ := exists_split_of_getElem? htask
      obtain ⟨item, stage⟩ := task
      cases stage with
      | waiting =>
          simp only [hset]
          exact .work item
      | worked result =>
          simp only [hset]
          exact .count item result
      | counted result number =>
          simp only [hset]
          have hlength : (before ++ (item, Stage.counted result number) :: after).length =
              (before ++ (item, Stage.told result) :: after).length := by simp
          rw [hlength]
          exact .tell item result number
      | told result => exact .idle _

end Turns

/-! ## What workers keep -/

/-- An item that has its number. -/
def counted? (task : α × Stage β) : Option α := if task.2.isCounted then some task.1 else none

def owed? (label : α → String) (total : Nat) (task : α × Stage β) : Option Progress :=
  match task.2 with
  | .counted _ number => some ⟨number, total, label task.1⟩
  | _ => none

/-- The items that have their numbers took them in some order, and what was told of them or is
still to be told is what that order tells. -/
structure Sound (label : α → String) (work : α → β) (items order : List α)
    (workers : Workers α β) : Prop where
  map_fst : workers.tasks.map Prod.fst = items
  result : ∀ task ∈ workers.tasks, ∀ result ∈ task.2.result?, result = work task.1
  tally : workers.tally = order.length
  counted : order.Perm (workers.tasks.filterMap counted?)
  told : (workers.progress ++ workers.tasks.filterMap (owed? label items.length)).Perm
    (Schedule.ticksFrom items.length 0 (order.map label))

theorem filterMap_middle_perm (f : γ → Option δ) (before after : List γ) (middle : γ) :
    ((before ++ middle :: after).filterMap f).Perm
      ((f middle).toList ++ (before ++ after).filterMap f) := by
  rw [List.filterMap_append, List.filterMap_append, List.filterMap_cons]
  cases f middle with
  | none => exact List.Perm.refl _
  | some image => exact List.perm_middle

section Invariant

variable {label : α → String} {work : α → β} {items order : List α} {workers next : Workers α β}

theorem sound_start (label : α → String) (work : α → β) (items : List α) :
    Sound label work items [] (start items) := by
  constructor
  · simp [start, Function.comp_def]
  · intro task htask result hresult
    obtain ⟨item, -, rfl⟩ := List.mem_map.mp htask
    cases hresult
  · rfl
  · simp [start, counted?, Stage.isCounted]
  · simp [start, owed?, Schedule.ticksFrom]

section Step

variable {before after : List (α × Stage β)} {tally : Nat} {progress : List Progress}
  {item : α} {result : β} {number : Nat}

theorem Sound.after_work
    (h : Sound label work items order ⟨before ++ (item, .waiting) :: after, tally, progress⟩) :
    Sound label work items order
      ⟨before ++ (item, .worked (work item)) :: after, tally, progress⟩ := by
  obtain ⟨hitems, hresult, htally, hcounted, htold⟩ := h
  simp only [List.forall_mem_append, List.forall_mem_cons] at hresult
  obtain ⟨hbefore, -, hafter⟩ := hresult
  refine ⟨?_, ?_, htally, ?_, ?_⟩
  · simpa using hitems
  · simp only [List.forall_mem_append, List.forall_mem_cons]
    exact ⟨hbefore, by simp [Stage.result?], hafter⟩
  · simpa [counted?, Stage.isCounted] using hcounted
  · simpa [owed?, List.filterMap_cons] using htold

theorem Sound.after_count
    (h : Sound label work items order
      ⟨before ++ (item, .worked result) :: after, tally, progress⟩) :
    Sound label work items (order ++ [item])
      ⟨before ++ (item, .counted result (tally + 1)) :: after, tally + 1, progress⟩ := by
  obtain ⟨hitems, hresult, htally, hcounted, htold⟩ := h
  simp only [List.forall_mem_append, List.forall_mem_cons] at hresult
  have htally : tally = order.length := htally
  refine ⟨?_, ?_, ?_, ?_, ?_⟩
  · simpa using hitems
  · simp only [List.forall_mem_append, List.forall_mem_cons]
    exact hresult
  · simpa using htally
  · have hold : order.Perm ((before ++ after).filterMap counted?) :=
      hcounted.trans (filterMap_middle_perm counted? before after (item, .worked result))
    calc
      List.Perm _ ([item] ++ order) := List.perm_append_comm
      List.Perm _ ([item] ++ (before ++ after).filterMap counted?) := hold.append_left [item]
      List.Perm _ _ := (filterMap_middle_perm counted? before after
        (item, Stage.counted result (tally + 1))).symm
  · rw [List.map_append, List.map_singleton, Schedule.ticksFrom_append_singleton, List.length_map,
      Nat.zero_add, ← htally]
    let owed := (before ++ after).filterMap (owed? label items.length)
    let update : Progress := ⟨tally + 1, items.length, label item⟩
    let ticks := Schedule.ticksFrom items.length 0 (order.map label)
    -- The new update is owed now, and it is the last of the ticks.
    have hold : (progress ++ owed).Perm ticks :=
      ((filterMap_middle_perm _ before after _).symm.append_left progress).trans htold
    calc
      List.Perm _ (progress ++ ([update] ++ owed)) :=
        (filterMap_middle_perm _ before after _).append_left progress
      List.Perm _ ([update] ++ (progress ++ owed)) := List.perm_append_comm_assoc ..
      List.Perm _ ([update] ++ ticks) := hold.append_left [update]
      List.Perm _ (ticks ++ [update]) := List.perm_append_comm

theorem Sound.after_tell
    (h : Sound label work items order
      ⟨before ++ (item, .counted result number) :: after, tally, progress⟩) :
    Sound label work items order
      ⟨before ++ (item, .told result) :: after, tally,
        progress ++ [⟨number, (before ++ (item, .told result) :: after).length, label item⟩]⟩ := by
  obtain ⟨hitems, hresult, htally, hcounted, htold⟩ := h
  simp only [List.forall_mem_append, List.forall_mem_cons] at hresult
  have hlength : (before ++ (item, Stage.told result) :: after).length = items.length := by
    rw [← hitems]
    simp
  refine ⟨?_, ?_, htally, ?_, ?_⟩
  · simpa using hitems
  · simp only [List.forall_mem_append, List.forall_mem_cons]
    exact hresult
  · simpa [counted?, Stage.isCounted] using hcounted
  · -- The update moves from what is owed to what was told.
    simp only [hlength]
    let owed := (before ++ after).filterMap (owed? label items.length)
    let update : Progress := ⟨number, items.length, label item⟩
    have hold : (progress ++ ([update] ++ owed)).Perm _ :=
      ((filterMap_middle_perm (owed? label items.length) before after
        (item, .counted result number)).symm.append_left progress).trans htold
    rw [← List.append_assoc] at hold
    exact ((filterMap_middle_perm _ before after _).append_left _).trans hold

end Step

theorem Sound.turned (h : Sound label work items order workers)
    (hturn : Turned label work workers next) : ∃ later, Sound label work items later next := by
  cases hturn with
  | idle => exact ⟨order, h⟩
  | work item => exact ⟨order, h.after_work⟩
  | count item result => exact ⟨order ++ [item], h.after_count⟩
  | tell item result number => exact ⟨order, h.after_tell⟩

theorem Sound.run (h : Sound label work items order workers) (turns : List Nat) :
    ∃ later, Sound label work items later (workers.run label work turns) := by
  induction turns generalizing workers order with
  | nil => exact ⟨order, h⟩
  | cons index rest ih =>
      obtain ⟨later, hlater⟩ := h.turned (turned_turn label work workers index)
      exact ih hlater

theorem exists_told_of_isDone (hdone : workers.isDone = true) {task : α × Stage β}
    (htask : task ∈ workers.tasks) : ∃ result, task = (task.1, .told result) := by
  have htold : task.2.isTold = true := List.all_eq_true.mp hdone task htask
  obtain ⟨item, stage⟩ := task
  cases stage with
  | told result => exact ⟨result, rfl⟩
  | waiting | worked result | counted result number => cases htold

theorem Sound.results_of_isDone (h : Sound label work items order workers)
    (hdone : workers.isDone = true) : workers.results = items.map work := by
  have hresult : ∀ task ∈ workers.tasks, task.2.result? = some (work task.1) := by
    intro task htask
    obtain ⟨result, htold⟩ := exists_told_of_isDone hdone htask
    have hwork : result = work task.1 := h.result task htask result (by rw [htold]; rfl)
    rw [htold, ← hwork]
    rfl
  rw [results, List.filterMap_congr hresult, List.filterMap_eq_map', ← h.map_fst, List.map_map]
  rfl

theorem Sound.perm_of_isDone (h : Sound label work items order workers)
    (hdone : workers.isDone = true) : order.Perm items := by
  have hcounted : ∀ task ∈ workers.tasks, counted? task = some task.1 := by
    intro task htask
    obtain ⟨result, htold⟩ := exists_told_of_isDone hdone htask
    rw [htold]
    rfl
  have hperm := h.counted
  rw [List.filterMap_congr hcounted, List.filterMap_eq_map', h.map_fst] at hperm
  exact hperm

theorem Sound.progress_of_isDone (h : Sound label work items order workers)
    (hdone : workers.isDone = true) :
    workers.progress.Perm (Schedule.ticksFrom items.length 0 (order.map label)) := by
  have howed : workers.tasks.filterMap (owed? label items.length) = [] := by
    refine List.filterMap_eq_nil_iff.mpr fun task htask => ?_
    obtain ⟨result, htold⟩ := exists_told_of_isDone hdone htask
    rw [htold]
    rfl
  have hperm := h.told
  rwa [howed, List.append_nil] at hperm

/-- However the turns come, the results of finished work stand in the order of the items, and
what was told is what a complete schedule tells, in some order. -/
theorem exists_schedule_of_isDone (label : α → String) (work : α → β) (items : List α)
    (turns : List Nat) (hdone : ((start items).run label work turns).isDone = true) :
    ∃ schedule : Schedule, schedule.Complete items.length ∧
      ((start items).run label work turns).results = (schedule.run label work items).1 ∧
      ((start items).run label work turns).progress.Perm (schedule.run label work items).2 := by
  obtain ⟨order, hsound⟩ := (sound_start label work items).run turns
  obtain ⟨schedule, hcomplete, hfinished⟩ :=
    Schedule.exists_complete_of_perm (hsound.perm_of_isDone hdone)
  refine ⟨schedule, hcomplete, hsound.results_of_isDone hdone, ?_⟩
  rw [Schedule.run, Schedule.ticks, hfinished]
  exact hsound.progress_of_isDone hdone

end Invariant

/-! ## One item after the other -/

section OneAfterOther

variable {label : α → String} {work : α → β} {items : List α} {index : Nat}

/-- Workers that have finished some items and not begun the others. -/
def finishing (label : α → String) (work : α → β) (items : List α) (done : Schedule) :
    Workers α β :=
  ⟨items.mapIdx fun index item => (item, if index ∈ done then .told (work item) else .waiting),
    (done.finished items).length, done.ticks label items⟩

theorem start_eq_finishing : start items = finishing label work items [] := by
  simp only [start, finishing, List.not_mem_nil, if_false, Schedule.finished, Schedule.ticks,
    List.filterMap_nil, List.map_nil, Schedule.ticksFrom, List.length_nil]
  refine congrArg (Workers.mk · 0 []) (List.ext_getElem (by simp) fun index hleft hright => ?_)
  simp

theorem run_three_turns {workers : Workers α β} {item : α}
    (h : workers.tasks[index]? = some (item, .waiting)) :
    workers.run label work [index, index, index] =
      ⟨workers.tasks.set index (item, .told (work item)), workers.tally + 1,
        workers.progress ++ [⟨workers.tally + 1, workers.tasks.length, label item⟩]⟩ := by
  have hlt : index < workers.tasks.length := (List.getElem?_eq_some_iff.mp h).1
  have hset : ∀ task : α × Stage β, (workers.tasks.set index task)[index]? = some task :=
    fun task => List.getElem?_set_self hlt
  rw [run, List.foldl_cons, List.foldl_cons, List.foldl_cons, List.foldl_nil]
  simp only [turn, h, hset, List.set_set, List.length_set]

theorem run_finishing {done : Schedule} (hlt : index < items.length) (hindex : index ∉ done) :
    run label work (finishing label work items done) [index, index, index] =
      finishing label work items (done ++ [index]) := by
  have hitem : items[index]? = some items[index] := List.getElem?_eq_getElem hlt
  have htask : (finishing label work items done).tasks[index]? =
      some (items[index], .waiting) := by
    simp [finishing, hitem, hindex]
  have hfinished : Schedule.finished (done ++ [index]) items =
      done.finished items ++ [items[index]] := by
    simp [Schedule.finished, List.filterMap_append, hitem]
  rw [run_three_turns htask]
  simp only [finishing]
  rw [hfinished, Schedule.ticks, Schedule.ticks, hfinished, List.map_append,
    List.map_singleton, Schedule.ticksFrom_append_singleton]
  congr 1
  · refine List.ext_getElem? fun other => ?_
    by_cases hother : index = other
    · subst hother
      rw [List.getElem?_set_self (by simpa using hlt), List.getElem?_mapIdx, hitem]
      simp
    · rw [List.getElem?_set_ne hother, List.getElem?_mapIdx, List.getElem?_mapIdx]
      simp [Ne.symm hother]
  · simp
  · simp

theorem exists_turns_finishing (label : α → String) (work : α → β) (done rest : Schedule)
    (hnodup : (done ++ rest).Nodup) (hlt : ∀ index ∈ rest, index < items.length) :
    ∃ turns, run label work (finishing label work items done) turns =
      finishing label work items (done ++ rest) := by
  -- Each index of the schedule gets its three turns before the next one has its first.
  induction rest generalizing done with
  | nil => exact ⟨[], by rw [List.append_nil]; rfl⟩
  | cons index rest ih =>
      obtain ⟨hindex, hrest⟩ := List.forall_mem_cons.mp hlt
      have hnew : index ∉ done := by
        intro hmem
        exact (List.nodup_append.mp hnodup).2.2 index hmem index List.mem_cons_self rfl
      have hsplit : done ++ index :: rest = (done ++ [index]) ++ rest := by simp
      rw [hsplit] at hnodup ⊢
      obtain ⟨turns, hturns⟩ := ih _ hnodup hrest
      refine ⟨[index, index, index] ++ turns, ?_⟩
      rw [← hturns, ← run_finishing hindex hnew]
      exact List.foldl_append ..

/-- Every complete schedule is one that workers can keep. -/
theorem exists_turns_of_complete (label : α → String) (work : α → β) (items : List α)
    {schedule : Schedule} (h : schedule.Complete items.length) :
    ∃ turns, ((start items).run label work turns).isDone = true ∧
      (((start items).run label work turns).results,
        ((start items).run label work turns).progress) = schedule.run label work items := by
  have hnodup : schedule.Nodup := h.nodup_iff.mpr List.nodup_range
  have hlt : ∀ index ∈ schedule, index < items.length :=
    fun index hindex => List.mem_range.mp (h.subset hindex)
  obtain ⟨turns, hturns⟩ := exists_turns_finishing label work [] schedule hnodup hlt
  rw [← start_eq_finishing, List.nil_append] at hturns
  have hall : (finishing label work items schedule).tasks =
      items.map fun item => (item, .told (work item)) := by
    refine List.ext_getElem (by simp [finishing]) fun index hleft hright => ?_
    have hindex : index ∈ schedule := h.mem_iff.mpr (by simpa using hright)
    simp [finishing, hindex]
  refine ⟨turns, ?_, ?_⟩
  · rw [hturns, isDone, hall]
    simp [Stage.isTold]
  · rw [hturns, results, hall]
    simp [Stage.result?, List.filterMap_map, Schedule.run, finishing]

end OneAfterOther

end Workers

end Showcase
