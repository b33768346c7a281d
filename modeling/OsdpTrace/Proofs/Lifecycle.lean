import OsdpTrace.Proofs.Invariant

/-! The lifecycle of reader traces: starting and stopping readers, forgetting them, and clearing
their traces. Read through the trace each reader id looks up and the readers being traced, each
operation changes only what it names. Starting a reader traces it, and gives it an empty trace
under the current limits only when it has none; stopping takes it out of the readers being
traced; forgetting drops its trace as well; clearing empties the chosen traces and their cursors.
Starting a reader twice, or clearing twice, is the same as once. -/
namespace OsdpTrace

def ReaderTrace.fresh (settings : Settings) : ReaderTrace := ⟨Buffer.empty (Limits.ofSettings settings), none⟩

def ReaderTrace.cleared (t : ReaderTrace) : ReaderTrace := { buffer := t.buffer.clear, cursor := none }

@[simp] theorem ReaderTrace.cleared_cleared (t : ReaderTrace) : t.cleared.cleared = t.cleared := rfl

theorem insertId_of_mem {id : ReaderId} {ids : List ReaderId} (ascending : Ascending ids) (member : id ∈ ids) :
    insertId id ids = ids := by
  induction ids with
  | nil => simp at member
  | cons x rest ih =>
    simp only [Ascending, List.pairwise_cons] at ascending
    simp only [insertId]
    split_ifs with before same
    · -- an id below the head is below every later id too, so it is none of them
      exfalso
      rcases List.mem_cons.mp member with rfl | later
      · exact Nat.lt_irrefl _ before
      · exact Nat.lt_irrefl _ (Nat.lt_trans before (ascending.1 id later))
    · rfl
    · have later : id ∈ rest := by
        rcases List.mem_cons.mp member with rfl | later
        · exact absurd rfl same
        · exact later
      rw [ih ascending.2 later]

theorem insertTrace_of_mem {id : ReaderId} {t : ReaderTrace} {l : List (ReaderId × ReaderTrace)}
    (ascending : Ascending (l.map Prod.fst)) (member : id ∈ l.map Prod.fst) : insertTrace id t l = l := by
  rcases insertTrace_eq_or_perm id t l with same | moved
  · exact same
  · -- the keys are unchanged, so the list cannot have grown by one
    have keys := keys_insertTrace id t l
    rw [insertId_of_mem ascending member] at keys
    have lengths := congrArg List.length keys
    rw [List.length_map, List.length_map, moved.length_eq, List.length_cons] at lengths
    omega

theorem insertTrace_perm_of_not_mem {id : ReaderId} (t : ReaderTrace) {l : List (ReaderId × ReaderTrace)}
    (absent : id ∉ l.map Prod.fst) : (insertTrace id t l).Perm ((id, t) :: l) := by
  rcases insertTrace_eq_or_perm id t l with same | moved
  · have keys := keys_insertTrace id t l
    rw [same] at keys
    have present : id ∈ l.map Prod.fst := by
      rw [keys]
      exact mem_insertId.mpr (Or.inl rfl)
    exact absurd present absent
  · exact moved

namespace Service

theorem start_eq (s : Service) (id : ReaderId) :
    s.start id = { s with
      readers := insertTrace id (ReaderTrace.fresh s.settings) s.readers
      active := insertId id s.active } := rfl

theorem start_readers (s : Service) (id : ReaderId) :
    (s.start id).readers = insertTrace id (ReaderTrace.fresh s.settings) s.readers := rfl

@[simp] theorem start_settings (s : Service) (id : ReaderId) : (s.start id).settings = s.settings := rfl

theorem ids_start (s : Service) (id : ReaderId) : (s.start id).ids = insertId id s.ids :=
  keys_insertTrace _ _ _

theorem mem_active_start {s : Service} {id x : ReaderId} : x ∈ (s.start id).active ↔ x = id ∨ x ∈ s.active :=
  mem_insertId

theorem mem_active_filter {s : Service} {id x : ReaderId} :
    x ∈ s.active.filter (· != id) ↔ x ∈ s.active ∧ x ≠ id := by
  simp [List.mem_filter]

theorem trace?_eq_some_iff {s : Service} (nodup : s.ids.Nodup) {id : ReaderId} {t : ReaderTrace} :
    s.trace? id = some t ↔ (id, t) ∈ s.readers :=
  ⟨trace?_eq_some, trace?_of_mem nodup⟩

theorem trace?_congr {s' s : Service} (nodup' : s'.ids.Nodup) (nodup : s.ids.Nodup) {id : ReaderId}
    (same : ∀ t, (id, t) ∈ s'.readers ↔ (id, t) ∈ s.readers) : s'.trace? id = s.trace? id :=
  Option.ext fun t => by rw [trace?_eq_some_iff nodup', trace?_eq_some_iff nodup, same]

theorem trace?_start {s : Service} (ascending : Ascending s.ids) (id x : ReaderId) :
    (s.start id).trace? x =
      if x = id then some ((s.trace? id).getD (ReaderTrace.fresh s.settings)) else s.trace? x := by
  by_cases known : id ∈ s.ids
  · -- a reader with a trace keeps it, and nothing else changes
    have same : (s.start id).readers = s.readers := insertTrace_of_mem ascending known
    have kept : (s.start id).trace? x = s.trace? x := by simp only [trace?, same]
    obtain ⟨t, found⟩ := Option.isSome_iff_exists.mp (trace?_isSome known)
    split_ifs with here
    · subst here
      rw [kept, found]
      rfl
    · exact kept
  · have moved := insertTrace_perm_of_not_mem (ReaderTrace.fresh s.settings) known
    have nodup : (s.start id).ids.Nodup := by
      rw [ids_start]
      exact (insertId_ascending ascending).nodup
    have member : ∀ t, (x, t) ∈ (s.start id).readers ↔ (x, t) = (id, ReaderTrace.fresh s.settings) ∨ (x, t) ∈ s.readers :=
      fun t => by rw [start_readers, moved.mem_iff, List.mem_cons]
    split_ifs with here
    · subst here
      rw [trace?_eq_none.mpr known, Option.getD_none, trace?_eq_some_iff nodup, member]
      exact Or.inl rfl
    · apply trace?_congr nodup ascending.nodup
      intro t
      rw [member]
      simp [here]

theorem ascending_start {s : Service} (ascending : Ascending s.ids) (id : ReaderId) : Ascending (s.start id).ids := by
  rw [ids_start]
  exact insertId_ascending ascending

/-- Starting a reader twice is starting it once: the second start finds its trace and its place
among the readers being traced. -/
theorem start_start {s : Service} (ascending : Ascending s.ids) (ordered : Ascending s.active) (id : ReaderId) :
    (s.start id).start id = s.start id := by
  have known : id ∈ (s.start id).ids := by
    rw [ids_start]
    exact mem_insertId.mpr (Or.inl rfl)
  have readers : insertTrace id (ReaderTrace.fresh s.settings) (s.start id).readers = (s.start id).readers :=
    insertTrace_of_mem (ascending_start ascending id) known
  have active : insertId id (s.start id).active = (s.start id).active :=
    insertId_of_mem (insertId_ascending ordered) (mem_active_start.mpr (Or.inl rfl))
  rw [start_eq (s.start id) id, start_settings, readers, active]
  rfl

@[simp] theorem foldl_start_settings (s : Service) (listed : List ReaderId) :
    (listed.foldl start s).settings = s.settings := by
  induction listed generalizing s with
  | nil => rfl
  | cons id rest ih => exact ih (s.start id)

theorem trace?_foldl_start {s : Service} (ascending : Ascending s.ids) (listed : List ReaderId) (x : ReaderId) :
    (listed.foldl start s).trace? x =
      if x ∈ listed then some ((s.trace? x).getD (ReaderTrace.fresh s.settings)) else s.trace? x := by
  induction listed generalizing s with
  | nil => simp
  | cons id rest ih =>
    rw [List.foldl_cons, ih (ascending_start ascending id), start_settings, trace?_start ascending]
    -- the first start decides the trace of `id`; later starts of it keep that trace
    by_cases here : x = id <;> by_cases later : x ∈ rest <;> simp [here, later]

theorem mem_active_foldl_start {s : Service} {listed : List ReaderId} {x : ReaderId} :
    x ∈ (listed.foldl start s).active ↔ x ∈ listed ∨ x ∈ s.active := by
  induction listed generalizing s with
  | nil => simp
  | cons id rest ih =>
    rw [List.foldl_cons, ih, mem_active_start, List.mem_cons]
    tauto

theorem mem_remove {s : Service} {id : ReaderId} {q : ReaderId × ReaderTrace} :
    q ∈ (s.remove id).readers ↔ q ∈ s.readers ∧ q.1 ≠ id := by
  simp [remove, List.mem_filter]

theorem trace?_remove {s : Service} (nodup : s.ids.Nodup) (id x : ReaderId) :
    (s.remove id).trace? x = if x = id then none else s.trace? x := by
  have sublist : (s.remove id).ids.Sublist s.ids := (List.filter_sublist).map Prod.fst
  split_ifs with here
  · subst here
    apply trace?_eq_none.mpr
    intro member
    obtain ⟨p, present, rfl⟩ := List.mem_map.mp member
    exact (mem_remove.mp present).2 rfl
  · apply trace?_congr (nodup.sublist sublist) nodup
    intro t
    rw [mem_remove]
    simp [here]

theorem clear_some (s : Service) (id : ReaderId) : s.clear (some id) = s.modifyTrace id ReaderTrace.cleared := rfl

theorem clear_none (s : Service) : s.clear none = s.modifyTraces ReaderTrace.cleared := rfl

theorem modifyTraces_modifyTraces (s : Service) (f g : ReaderTrace → ReaderTrace) :
    (s.modifyTraces f).modifyTraces g = s.modifyTraces (g ∘ f) := by
  simp [modifyTraces, Function.comp_def]

theorem trace?_modifyTraces (s : Service) (f : ReaderTrace → ReaderTrace) (x : ReaderId) :
    (s.modifyTraces f).trace? x = (s.trace? x).map f := by
  simp only [trace?, modifyTraces, List.find?_map, Option.map_map]
  rfl

theorem trace?_clear (s : Service) (selected : Option ReaderId) (x : ReaderId) :
    (s.clear selected).trace? x =
      if selected = none ∨ selected = some x then (s.trace? x).map ReaderTrace.cleared else s.trace? x := by
  cases selected with
  | none => simp [clear_none, trace?_modifyTraces]
  | some id =>
    by_cases here : x = id
    · subst here
      simp [clear_some, trace?_modifyTrace_self]
    · simp [clear_some, trace?_modifyTrace_of_ne _ _ here, Ne.symm here]

@[simp] theorem clear_active (s : Service) (selected : Option ReaderId) : (s.clear selected).active = s.active := by
  cases selected <;> rfl

@[simp] theorem clear_settings (s : Service) (selected : Option ReaderId) : (s.clear selected).settings = s.settings := by
  cases selected <;> rfl

theorem clear_clear (s : Service) (selected : Option ReaderId) :
    (s.clear selected).clear selected = s.clear selected := by
  have twice : ReaderTrace.cleared ∘ ReaderTrace.cleared = ReaderTrace.cleared := funext ReaderTrace.cleared_cleared
  cases selected with
  | none => rw [clear_none, clear_none, modifyTraces_modifyTraces, twice]
  | some id => rw [clear_some, clear_some, modifyTrace_modifyTrace, twice]

theorem ascending_active_foldl_start {s : Service} (ordered : Ascending s.active) (listed : List ReaderId) :
    Ascending (listed.foldl start s).active := by
  induction listed generalizing s with
  | nil => exact ordered
  | cons id rest ih => exact ih (insertId_ascending ordered)

theorem capture_active (s : Service) (decode : List UInt8 → Option Frame) (c : Capture) (place : ReaderId → Nat) :
    (s.capture decode c place).1.active = s.active := by
  unfold Service.capture
  split
  · rfl
  · split
    · rfl
    · split
      · rfl
      · exact (trims_enforceGlobalLimit _ _ place).active

theorem updateSettings_active (s : Service) (settings : Settings) (place : ReaderId → Nat) :
    (s.updateSettings settings place).active = s.active :=
  (trims_enforceGlobalLimit _ _ place).active

theorem ascending_active_perform {s : Service} (ordered : Ascending s.active) (decode : List UInt8 → Option Frame)
    (command : Command) : Ascending (s.perform decode command).active := by
  cases command with
  | start id => exact insertId_ascending ordered
  | stop id => exact ordered.sublist List.filter_sublist
  | startAll directory =>
    cases directory with
    | none => exact ordered
    | some listed => exact ascending_active_foldl_start ordered listed
  | stopAll => exact List.Pairwise.nil
  | remove id => exact ordered.sublist List.filter_sublist
  | clear selected =>
    show Ascending (s.clear selected).active
    rw [clear_active]
    exact ordered
  | capture c place =>
    show Ascending (s.capture decode c place).1.active
    rw [capture_active]
    exact ordered
  | updateSettings settings place =>
    show Ascending (s.updateSettings settings place).active
    rw [updateSettings_active]
    exact ordered
  | sweep now => exact ordered

theorem ascending_active_run {s : Service} (ordered : Ascending s.active) (decode : List UInt8 → Option Frame)
    (commands : List Command) : Ascending (s.run decode commands).active := by
  induction commands generalizing s with
  | nil => exact ordered
  | cons command rest ih => exact ih (ascending_active_perform ordered decode command)

/-- In every reachable service, each lifecycle operation changes only what it names, read
through the trace each reader id looks up and the readers being traced. Starting a reader
traces it and gives it an empty trace under the current limits with no cursor only when it has
no trace, and starting it again changes nothing. Stopping a reader, or all, only takes them out
of the readers being traced. Forgetting a reader also drops its trace. Starting the readers a
directory lists is starting each in turn, counting every listing, and a directory that cannot
list them changes nothing. Clearing empties the chosen traces and their cursors and nothing
else, and clearing again changes nothing. -/
theorem lifecycle_frame (decode : List UInt8 → Option Frame) (settings : Settings) (commands : List Command)
    (id : ReaderId) (listed : List ReaderId) (selected : Option ReaderId) :
    let s := (new settings).run decode commands
    ((∀ x, (s.start id).trace? x =
        if x = id then some ((s.trace? id).getD (ReaderTrace.fresh s.settings)) else s.trace? x) ∧
      (∀ x, x ∈ (s.start id).active ↔ x = id ∨ x ∈ s.active) ∧ (s.start id).settings = s.settings ∧
      (s.start id).start id = s.start id) ∧
    ((s.stop id).readers = s.readers ∧ (s.stop id).settings = s.settings ∧
      ∀ x, x ∈ (s.stop id).active ↔ x ∈ s.active ∧ x ≠ id) ∧
    (s.stopAll.readers = s.readers ∧ s.stopAll.settings = s.settings ∧ s.stopAll.active = []) ∧
    ((∀ x, (s.remove id).trace? x = if x = id then none else s.trace? x) ∧ (s.remove id).settings = s.settings ∧
      ∀ x, x ∈ (s.remove id).active ↔ x ∈ s.active ∧ x ≠ id) ∧
    (s.startAll none = (s, 0) ∧ s.startAll (some listed) = (listed.foldl start s, listed.length) ∧
      (∀ x, (listed.foldl start s).trace? x =
        if x ∈ listed then some ((s.trace? x).getD (ReaderTrace.fresh s.settings)) else s.trace? x) ∧
      (∀ x, x ∈ (listed.foldl start s).active ↔ x ∈ listed ∨ x ∈ s.active) ∧
      (listed.foldl start s).settings = s.settings) ∧
    ((∀ x, (s.clear selected).trace? x =
        if selected = none ∨ selected = some x then (s.trace? x).map ReaderTrace.cleared else s.trace? x) ∧
      (s.clear selected).active = s.active ∧ (s.clear selected).settings = s.settings ∧
      (s.clear selected).clear selected = s.clear selected) := by
  intro s
  have invariant : Invariant s := (invariant_new settings).run decode commands
  have ordered : Ascending s.active := @ascending_active_run (new settings) List.Pairwise.nil decode commands
  refine ⟨⟨trace?_start invariant.ascending id, fun _ => mem_active_start, rfl, start_start invariant.ascending ordered id⟩,
    ⟨rfl, rfl, fun _ => mem_active_filter⟩, ⟨rfl, rfl, rfl⟩,
    ⟨trace?_remove invariant.ascending.nodup id, rfl, fun _ => mem_active_filter⟩,
    ⟨rfl, rfl, trace?_foldl_start invariant.ascending listed, fun _ => mem_active_foldl_start,
      foldl_start_settings s listed⟩,
    ⟨trace?_clear s selected, clear_active s selected, clear_settings s selected, clear_clear s selected⟩⟩

end Service

end OsdpTrace
