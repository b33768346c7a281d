import OsdpTrace.Proofs.Interval

/-! Putting new settings in force. Every buffer takes the new limits and is trimmed to their
capacity, then the global limit of the new settings is enforced. A service whose buffers already
fit both limits loses no entry: its buffers only take the new limits. The result always fits,
so putting the same settings in force twice is doing it once; and a change that leaves the
entry and memory limits as they are, such as the filters, the age limit or the sweep interval,
drops nothing. Whatever the settings, each buffer keeps a suffix of its entries and its
cursor. -/
namespace OsdpTrace

theorem Buffer.Exact.recomputeMemory_eq {b : Buffer} (exact : b.Exact) : b.recomputeMemory = b := by
  rw [recomputeMemory]
  exact congrArg (fun memory => { b with memory := memory }) exact.symm

theorem Buffer.applyLimits_of_le {b : Buffer} {l : Limits} (exact : b.Exact) (fits : b.length ≤ l.capacity) :
    (b.applyLimits l).1 = { b with limits := l } := by
  simp only [applyLimits, trimTo, length_eq] at fits ⊢
  rw [Nat.sub_eq_zero_of_le fits, List.drop_zero]
  exact Exact.recomputeMemory_eq exact

def ReaderTrace.relimit (l : Limits) (t : ReaderTrace) : ReaderTrace := { t with buffer := { t.buffer with limits := l } }

namespace Service

def contents (s : Service) : List (ReaderId × List Entry) := s.readers.map fun p => (p.1, p.2.buffer.entries)

theorem total_eq_contents (s : Service) : s.total = (s.contents.map fun q => q.2.length).sum := by
  simp [total_eq_sum, contents, Function.comp_def]

/-- Every buffer fits the capacity of the per-reader limits of `settings`, and all buffers
together fit its global limit. -/
def Fits (s : Service) (settings : Settings) : Prop :=
  (∀ p ∈ s.readers, p.2.buffer.entries.length ≤ (Limits.ofSettings settings).capacity) ∧
    s.total ≤ settings.globalLimit

theorem updateSettings_eq (s : Service) (settings : Settings) (place : ReaderId → Nat) :
    s.updateSettings settings place = (({ s with settings := settings }.modifyTraces fun t =>
      { t with buffer := (t.buffer.applyLimits (Limits.ofSettings settings)).1 }).enforceGlobalLimit
        settings place).1 := rfl

/-- `s` under new settings, every trace under their limits with its entries and cursor. -/
def relimited (s : Service) (settings : Settings) : Service :=
  { s with settings := settings, readers := s.readers.map fun p => (p.1, p.2.relimit (Limits.ofSettings settings)) }

theorem total_relimited (s : Service) (settings : Settings) : (s.relimited settings).total = s.total := by
  simp [relimited, total_eq_sum, ReaderTrace.relimit, Function.comp_def]

theorem updateSettings_of_fits {s : Service} (exact : s.MemoryExact) {settings : Settings} (fits : Fits s settings)
    (place : ReaderId → Nat) : s.updateSettings settings place = s.relimited settings := by
  obtain ⟨each, within⟩ := fits
  have applied : ({ s with settings := settings }.modifyTraces fun t =>
      { t with buffer := (t.buffer.applyLimits (Limits.ofSettings settings)).1 }) = s.relimited settings := by
    simp only [modifyTraces, relimited, Service.mk.injEq, true_and, and_true]
    apply List.map_congr_left
    intro p member
    rw [Buffer.applyLimits_of_le (exact p member) (each p member)]
    rfl
  rw [updateSettings_eq, applied]
  exact enforceGlobalLimit_of_le ((total_relimited s settings).symm ▸ within) place

@[simp] theorem updateSettings_settings (s : Service) (settings : Settings) (place : ReaderId → Nat) :
    (s.updateSettings settings place).settings = settings :=
  (trims_enforceGlobalLimit _ _ place).settings

theorem updateSettings_ids (s : Service) (settings : Settings) (place : ReaderId → Nat) :
    (s.updateSettings settings place).ids = s.ids := by
  rw [updateSettings_eq, (trims_enforceGlobalLimit _ _ place).ids, ids_modifyTraces]
  rfl

theorem Invariant.fits {s : Service} (invariant : Invariant s) : Fits s s.settings := by
  refine ⟨fun p member => ?_, invariant.within_global⟩
  rw [← invariant.limits_current p member]
  exact invariant.within_capacity p member

theorem Invariant.fits_of_same_limits {s : Service} (invariant : Invariant s) {settings : Settings}
    (capacity : (Limits.ofSettings settings).capacity = (Limits.ofSettings s.settings).capacity)
    (global : settings.globalLimit = s.settings.globalLimit) : Fits s settings := by
  obtain ⟨each, within⟩ := invariant.fits
  exact ⟨fun p member => capacity ▸ each p member, global ▸ within⟩

theorem relimit_of_limits {t : ReaderTrace} {l : Limits} (current : t.buffer.limits = l) : t.relimit l = t := by
  rw [← current]
  rfl

theorem with_settings_readers {s : Service} {settings : Settings} (current : s.settings = settings) :
    ({ s with settings := settings, readers := s.readers } : Service) = s := by
  subst current
  rfl

/-- Putting the settings in force again changes nothing, whatever order either visit takes: the
first time leaves a service that fits them, every trace already under their limits. -/
theorem updateSettings_updateSettings {s : Service} (invariant : Invariant s) (settings : Settings)
    (place place' : ReaderId → Nat) :
    (s.updateSettings settings place).updateSettings settings place' = s.updateSettings settings place := by
  have after := invariant.updateSettings settings place
  have fits : Fits (s.updateSettings settings place) settings := by
    simpa using after.fits
  have kept : (s.updateSettings settings place).readers.map
      (fun p => (p.1, p.2.relimit (Limits.ofSettings settings))) = (s.updateSettings settings place).readers := by
    conv_rhs => rw [← List.map_id (s.updateSettings settings place).readers]
    apply List.map_congr_left
    intro p member
    have current : p.2.buffer.limits = Limits.ofSettings settings := by
      simpa using after.limits_current p member
    rw [relimit_of_limits current]
    rfl
  rw [updateSettings_of_fits after.memory_exact fits, relimited, kept]
  exact with_settings_readers (updateSettings_settings s settings place)

theorem contents_of_fits {s : Service} (exact : s.MemoryExact) {settings : Settings} (fits : Fits s settings)
    (place : ReaderId → Nat) : (s.updateSettings settings place).contents = s.contents := by
  rw [updateSettings_of_fits exact fits]
  simp [relimited, contents, ReaderTrace.relimit, Function.comp_def]

theorem fits_of_contents {s : Service} (invariant : Invariant s) {settings : Settings} {place : ReaderId → Nat}
    (same : (s.updateSettings settings place).contents = s.contents) : Fits s settings := by
  have after := invariant.updateSettings settings place
  refine ⟨fun p member => ?_, ?_⟩
  · -- the buffer of `p` is some buffer after the change, which is within the new capacity
    have listed : (p.1, p.2.buffer.entries) ∈ (s.updateSettings settings place).contents := by
      rw [same]
      exact List.mem_map.mpr ⟨p, member, rfl⟩
    obtain ⟨q, present, equal⟩ := List.mem_map.mp listed
    simp only [Prod.mk.injEq] at equal
    have bounded := after.within_capacity q present
    rw [after.limits_current q present, updateSettings_settings] at bounded
    rw [← equal.2]
    exact bounded
  · have totals : (s.updateSettings settings place).total = s.total := by
      rw [total_eq_contents, total_eq_contents, same]
    have within := after.within_global
    rw [updateSettings_settings, totals] at within
    exact within

theorem fits_iff_contents {s : Service} (invariant : Invariant s) (settings : Settings) (place : ReaderId → Nat) :
    Fits s settings ↔ (s.updateSettings settings place).contents = s.contents :=
  ⟨fun fits => contents_of_fits invariant.memory_exact fits place, fits_of_contents invariant⟩

theorem updateSettings_keeps_suffix {s : Service} (nodup : s.ids.Nodup) (settings : Settings)
    (place : ReaderId → Nat) {id : ReaderId} {t' : ReaderTrace}
    (member : (id, t') ∈ (s.updateSettings settings place).readers) :
    ∃ t, (id, t) ∈ s.readers ∧ t'.buffer.entries <:+ t.buffer.entries ∧ t'.cursor = t.cursor ∧
      t'.buffer.limits = Limits.ofSettings settings := by
  have listed : (id, t'.cursor) ∈ s.cursors := by
    rw [← cursors_updateSettings s settings place]
    exact List.mem_map.mpr ⟨_, member, rfl⟩
  obtain ⟨r, found, same⟩ := List.mem_map.mp listed
  simp only [Prod.mk.injEq] at same
  rw [updateSettings_eq] at member
  obtain ⟨q, applied, key, trims⟩ := (trims_enforceGlobalLimit _ settings place).mem member
  obtain ⟨p, present, rfl⟩ := mem_modifyTraces applied
  have owned : (id, p.2) ∈ s.readers := by
    have owner : id = p.1 := key
    rw [owner]
    exact present
  have cursor : r.2 = p.2 := trace_unique nodup owned found same.1
  refine ⟨p.2, owned, trims.2.trans (Buffer.applyLimits_drops _ _).suffix, ?_, trims.1⟩
  rw [← cursor]
  exact same.2.symm

/-- In every reachable service, whatever order the reader map is visited in, putting settings in
force is idempotent: doing it twice leaves the same buffers, cursors and readers being traced as
doing it once. It drops no entry exactly
when every buffer fits the capacity of the new per-reader limits and all buffers together fit
the new global limit; so a change of only whether tracing is on, the poll and acknowledgement
filters, raw capture, payload decoding, the sweep interval or the age limit drops nothing.
Whatever the settings, the readers stay, each buffer keeps a suffix of its entries under the new
limits, and each cursor stays. -/
theorem updateSettings_contract (decode : List UInt8 → Option Frame) (initial : Settings) (commands : List Command)
    (settings : Settings) (place place' : ReaderId → Nat) :
    let s := (new initial).run decode commands
    (s.updateSettings settings place).updateSettings settings place' = s.updateSettings settings place ∧
    (Fits s settings ↔ (s.updateSettings settings place).contents = s.contents) ∧
    (∀ (enabled filterPolls filterAcks captureRaw decodePayloads : Bool) (sweepInterval : Span)
      (maxAge : Option Span),
      (s.updateSettings { s.settings with
        enabled := enabled, filterPollCommands := filterPolls, filterAckReplies := filterAcks,
        captureRawData := captureRaw, decodePayloads := decodePayloads, sweepInterval := sweepInterval,
        maxAge := maxAge } place).contents = s.contents) ∧
    ((s.updateSettings settings place).settings = settings ∧ (s.updateSettings settings place).active = s.active ∧
      (s.updateSettings settings place).ids = s.ids ∧
      ∀ id t', (id, t') ∈ (s.updateSettings settings place).readers → ∃ t, (id, t) ∈ s.readers ∧
        t'.buffer.entries <:+ t.buffer.entries ∧ t'.cursor = t.cursor ∧
        t'.buffer.limits = Limits.ofSettings settings) := by
  intro s
  have invariant : Invariant s := (invariant_new initial).run decode commands
  refine ⟨updateSettings_updateSettings invariant settings place place', fits_iff_contents invariant settings place,
    ?_, updateSettings_settings s settings place, updateSettings_active s settings place,
    updateSettings_ids s settings place,
    fun _ _ member => updateSettings_keeps_suffix invariant.ascending.nodup settings place member⟩
  intro enabled filterPolls filterAcks captureRaw decodePayloads sweepInterval maxAge
  refine contents_of_fits invariant.memory_exact ?_ place
  exact invariant.fits_of_same_limits rfl rfl

end Service

end OsdpTrace
