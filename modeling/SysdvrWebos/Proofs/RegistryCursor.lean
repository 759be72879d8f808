/-
Module: SysdvrWebos.Proofs.RegistryCursor
Layer: Proofs
Purpose: Where `session_manager_prune` leaves the cursor. The identity saved before the compaction is looked
  for afterwards; it finds the selected entry itself as soon as no kept entry before it is the same device,
  which is always so in a registry without duplicates.
Trusted boundary: none (fully proved)
Main exports: Survives, selected_prune, selected_prune_of_first, selected_prune_of_gone, prune_prune,
  session_manager_prune_is_a_stable_filter
Open obligations: none
-/
import SysdvrWebos.Proofs.RegistryUniqueness

namespace SysdvrWebos

open Compaction (rank)

/-- The entry outlives a prune at the given time. -/
def Survives (nowMs : UInt64) (entry : SessionDevice) : Prop :=
  entry.manual = true ∨ nowMs.toNat ≤ entry.lastSeenMs.toNat + 7000

instance (nowMs : UInt64) (entry : SessionDevice) : Decidable (Survives nowMs entry) :=
  inferInstanceAs (Decidable (_ ∨ _))

theorem keepEntry_eq_survives (nowMs : UInt64) :
    keepEntry nowMs = fun entry => decide (Survives nowMs entry) := by
  funext entry
  rw [Bool.eq_iff_iff, decide_eq_true_iff]
  exact keepEntry_iff nowMs entry

/-! ### The cursor -/

variable {m : SessionManager} {entry : SessionDevice} {nowMs : UInt64}

/-- The cursor selects an entry below the count or nothing. -/
theorem sessionManagerSelected_eq (m : SessionManager) :
    sessionManagerSelected m = m.live[m.selected]? := by
  simp only [sessionManagerSelected]
  split
  · next outside =>
      have beyond : m.live.length ≤ m.selected := by
        rw [m.live_length]
        omega
      exact (List.getElem?_eq_none beyond).symm
  · next inside =>
      rw [SessionManager.live, List.getElem?_take_of_lt (by omega)]

theorem sameDevice_self (entry : SessionDevice) : sameDevice entry entry.info = true := by
  simp only [sameDevice]
  split
  · next differ => exact absurd rfl differ
  · split <;> simp

/-- The three ways `session_manager_prune` sets the cursor. -/
theorem selected_prune (m : SessionManager) (nowMs : UInt64) :
    (sessionManagerPrune m nowMs).selected =
      if (m.live.filter (keepEntry nowMs)).length = 0 then 0
      else
        ((sessionManagerSelected m).bind fun entry =>
          (m.live.filter (keepEntry nowMs)).findIdx? fun other => sameDevice other entry.info).getD
          (min m.selected ((m.live.filter (keepEntry nowMs)).length - 1)) := by
  have count : (m.compacted nowMs).count = (m.live.filter (keepEntry nowMs)).length := by
    rw [← SessionManager.live_compacted, SessionManager.live_length]
  have cursor : (m.compacted nowMs).selected = m.selected := rfl
  rw [← SessionManager.live_compacted, ← count] at *
  simp only [sessionManagerPrune, Option.bind_map, Function.comp_def]
  split
  · rfl
  · split
    · next found => rw [found, Option.getD_some]
    · next missing =>
        rw [missing, Option.getD_none]
        split
        · next beyond =>
            change (m.compacted nowMs).count - 1 = _
            omega
        · next within => omega

/-- A kept entry is what the cursor finds again if no kept entry before it is the same device. -/
theorem selected_prune_of_first (here : sessionManagerSelected m = some entry)
    (kept : keepEntry nowMs entry = true)
    (first : ∀ other ∈ (m.live.take m.selected).filter (keepEntry nowMs),
      sameDevice other entry.info = false) :
    (sessionManagerPrune m nowMs).selected = rank (keepEntry nowMs) m.live m.selected ∧
      sessionManagerSelected (sessionManagerPrune m nowMs) = some entry := by
  have stands : m.live[m.selected]? = some entry := by rwa [← sessionManagerSelected_eq]
  have lands := Compaction.getElem?_filter_rank stands kept
  obtain ⟨bound, value⟩ := List.getElem?_eq_some_iff.mp lands
  have found : (m.live.filter (keepEntry nowMs)).findIdx? (fun other => sameDevice other entry.info)
      = some (rank (keepEntry nowMs) m.live m.selected) := by
    rw [List.findIdx?_eq_some_iff_getElem]
    refine ⟨bound, ?_, ?_⟩
    · rw [value]
      exact sameDevice_self entry
    · intro j before
      have inside : j < (m.live.filter (keepEntry nowMs)).length := by omega
      have member : (m.live.filter (keepEntry nowMs))[j]
          ∈ (m.live.filter (keepEntry nowMs)).take (rank (keepEntry nowMs) m.live m.selected) :=
        List.mem_take_iff_getElem.mpr ⟨j, by omega, rfl⟩
      rw [Compaction.take_filter_rank] at member
      simp [first _ member]
  have cursor : (sessionManagerPrune m nowMs).selected = rank (keepEntry nowMs) m.live m.selected := by
    rw [selected_prune, if_neg (by omega), here, Option.bind_some, found, Option.getD_some]
  refine ⟨cursor, ?_⟩
  rw [sessionManagerSelected_eq, live_prune, cursor]
  exact lands

/-- If no kept entry is the same device as the selected one, the cursor is clamped. -/
theorem selected_prune_of_gone (something : (m.live.filter (keepEntry nowMs)).length ≠ 0)
    (gone : ∀ entry, sessionManagerSelected m = some entry →
      ∀ other ∈ m.live.filter (keepEntry nowMs), sameDevice other entry.info = false) :
    (sessionManagerPrune m nowMs).selected
      = min m.selected ((m.live.filter (keepEntry nowMs)).length - 1) := by
  rw [selected_prune, if_neg something]
  cases here : sessionManagerSelected m with
  | none => rfl
  | some entry =>
      have missing := List.findIdx?_eq_none_iff.mpr (gone entry here)
      rw [Option.bind_some, missing, Option.getD_none]

theorem selected_prune_of_empty (nothing : m.live.filter (keepEntry nowMs) = []) :
    (sessionManagerPrune m nowMs).selected = 0 := by
  rw [selected_prune, nothing]
  rfl

/-- A prune leaves the cursor on an entry unless nothing is left. -/
theorem selected_prune_lt (m : SessionManager) (nowMs : UInt64) :
    (sessionManagerPrune m nowMs).selected < (sessionManagerPrune m nowMs).count ∨
      (sessionManagerPrune m nowMs).count = 0 := by
  have count : (sessionManagerPrune m nowMs).count = (m.live.filter (keepEntry nowMs)).length := by
    rw [← live_prune, SessionManager.live_length]
  rw [count, selected_prune]
  split
  · next nothing => exact .inr nothing
  · next something =>
      left
      cases found : ((sessionManagerSelected m).bind fun entry =>
        (m.live.filter (keepEntry nowMs)).findIdx? fun other => sameDevice other entry.info) with
      | none =>
          rw [Option.getD_none]
          omega
      | some i =>
          rcases Option.bind_eq_some_iff.mp found with ⟨entry, _, position⟩
          obtain ⟨bound, _⟩ := List.findIdx?_eq_some_iff_getElem.mp position
          exact bound

/-! ### The second prune -/

/-- Compacting a registry from which nothing is dropped changes nothing. -/
theorem compacted_of_all_kept (all : ∀ entry ∈ m.live, keepEntry nowMs entry = true) :
    m.compacted nowMs = m := by
  have size := m.devices_length
  have bound := m.count_le
  have room : 0 + m.count ≤ m.devices.length := by omega
  have unmoved : Compaction.compact (keepEntry nowMs) m.count m.devices 0 0 = (m.devices, 0 + m.count) :=
    Compaction.compact_of_all_kept room all
  cases m
  simp only [SessionManager.compacted, unmoved, Nat.zero_add]

/-- A prune that drops nothing and finds the cursor on the first entry of its console, or on nothing in an
    empty registry, changes nothing. -/
theorem prune_of_all_kept (all : ∀ entry ∈ m.live, keepEntry nowMs entry = true)
    (cursor : (sessionManagerPrune m nowMs).selected = m.selected) : sessionManagerPrune m nowMs = m := by
  have same := compacted_of_all_kept all
  have rest : sessionManagerPrune m nowMs
      = { m with selected := (sessionManagerPrune m nowMs).selected } := by
    simp only [sessionManagerPrune, same]
    split
    · rfl
    · split
      · rfl
      · split <;> rfl
  rw [rest, cursor]

/-- In a registry without duplicates no entry before the cursor is the selected console. -/
theorem others_before_differ (distinct : NoDuplicates m) (here : sessionManagerSelected m = some entry)
    {other : SessionDevice} (before : other ∈ m.live.take m.selected) :
    sameDevice other entry.info = false := by
  rw [sessionManagerSelected_eq] at here
  obtain ⟨bound, value⟩ := List.getElem?_eq_some_iff.mp here
  obtain ⟨j, earlier, same⟩ := List.mem_take_iff_getElem.mp before
  have apart := List.pairwise_iff_getElem.mp distinct j m.selected (by omega) bound (by omega)
  rw [same, value] at apart
  simpa using apart

/-- In a registry without duplicates an entry other than the selected one is another console. -/
theorem others_differ (distinct : NoDuplicates m) (here : sessionManagerSelected m = some entry)
    (dropped : keepEntry nowMs entry = false) {other : SessionDevice}
    (member : other ∈ m.live.filter (keepEntry nowMs)) : sameDevice other entry.info = false := by
  rw [sessionManagerSelected_eq] at here
  obtain ⟨bound, value⟩ := List.getElem?_eq_some_iff.mp here
  obtain ⟨listed, kept⟩ := List.mem_filter.mp member
  obtain ⟨j, inside, same⟩ := List.getElem_of_mem listed
  rcases Nat.lt_trichotomy j m.selected with before | equal | after
  · have apart := List.pairwise_iff_getElem.mp distinct j m.selected inside bound before
    rw [same, value] at apart
    simpa using apart
  · have identical : other = entry := by
      rw [← same, ← value]
      congr
    rw [identical, dropped] at kept
    cases kept
  · have apart := List.pairwise_iff_getElem.mp distinct m.selected j bound inside after
    rw [same, value, sameDevice_symm] at apart
    simpa using apart

theorem selected_prune_of_noDuplicates (distinct : NoDuplicates m)
    (here : sessionManagerSelected m = some entry) (kept : keepEntry nowMs entry = true) :
    (sessionManagerPrune m nowMs).selected = rank (keepEntry nowMs) m.live m.selected ∧
      sessionManagerSelected (sessionManagerPrune m nowMs) = some entry := by
  apply selected_prune_of_first here kept
  intro other member
  exact others_before_differ distinct here (List.mem_of_mem_filter member)

theorem prune_prune (distinct : NoDuplicates m) (nowMs : UInt64) :
    sessionManagerPrune (sessionManagerPrune m nowMs) nowMs = sessionManagerPrune m nowMs := by
  have all : ∀ entry ∈ (sessionManagerPrune m nowMs).live, keepEntry nowMs entry = true := by
    intro entry member
    rw [live_prune] at member
    exact (List.mem_filter.mp member).2
  apply prune_of_all_kept all
  have unfiltered : (sessionManagerPrune m nowMs).live.filter (keepEntry nowMs)
      = (sessionManagerPrune m nowMs).live := List.filter_eq_self.mpr all
  rcases selected_prune_lt m nowMs with inside | nothing
  · have bound : (sessionManagerPrune m nowMs).selected < (sessionManagerPrune m nowMs).live.length := by
      rwa [SessionManager.live_length]
    have here : sessionManagerSelected (sessionManagerPrune m nowMs)
        = some (sessionManagerPrune m nowMs).live[(sessionManagerPrune m nowMs).selected] := by
      rw [sessionManagerSelected_eq]
      exact List.getElem?_eq_getElem bound
    have cursor := (selected_prune_of_noDuplicates (noDuplicates_prune distinct nowMs) here
      (all _ (List.getElem_mem bound))).1
    rw [cursor, rank, List.filter_eq_self.mpr fun entry member => all entry (List.mem_of_mem_take member),
      List.length_take]
    omega
  · have empty : (sessionManagerPrune m nowMs).live = [] := by
      rw [← List.length_eq_zero_iff, SessionManager.live_length, nothing]
    rw [selected_prune_of_empty (by rw [unfiltered, empty])]
    rw [live_prune] at empty
    rw [selected_prune_of_empty empty]

/-! ### The filter -/

/-- In a registry without duplicates a prune keeps the entries that are manual or at most seven seconds
    old, in their order. The cursor stays on its console; if that is dropped the cursor is clamped, and it
    is `0` over an empty registry. A second prune at the same time changes nothing. -/
theorem session_manager_prune_is_a_stable_filter (m : SessionManager) (nowMs : UInt64)
    (distinct : NoDuplicates m) :
    (sessionManagerPrune m nowMs).live = m.live.filter (fun entry => Survives nowMs entry) ∧
      (∀ entry, sessionManagerSelected m = some entry → Survives nowMs entry →
        (sessionManagerPrune m nowMs).selected
            = rank (fun entry => Survives nowMs entry) m.live m.selected ∧
          sessionManagerSelected (sessionManagerPrune m nowMs) = some entry) ∧
      ((∀ entry, sessionManagerSelected m = some entry → ¬ Survives nowMs entry) →
        (sessionManagerPrune m nowMs).count ≠ 0 →
        (sessionManagerPrune m nowMs).selected
          = min m.selected ((sessionManagerPrune m nowMs).count - 1)) ∧
      ((sessionManagerPrune m nowMs).count = 0 → (sessionManagerPrune m nowMs).selected = 0) ∧
      sessionManagerPrune (sessionManagerPrune m nowMs) nowMs = sessionManagerPrune m nowMs := by
  have count : (sessionManagerPrune m nowMs).count = (m.live.filter (keepEntry nowMs)).length := by
    rw [← live_prune, SessionManager.live_length]
  rw [count, ← keepEntry_eq_survives]
  refine ⟨live_prune m nowMs, ?_, ?_, ?_, prune_prune distinct nowMs⟩
  · intro entry here survives
    exact selected_prune_of_noDuplicates distinct here ((keepEntry_iff nowMs entry).mpr survives)
  · intro gone something
    apply selected_prune_of_gone something
    intro entry here other member
    apply others_differ distinct here _ member
    rw [Bool.eq_false_iff]
    exact fun kept => gone entry here ((keepEntry_iff nowMs entry).mp kept)
  · intro nothing
    exact selected_prune_of_empty (List.length_eq_zero_iff.mp nothing)

/-- A configured host and a console last heard at 1000 ms, the cursor on the console. -/
def hostAndConsole : SessionManager :=
  sessionManagerMove
    (sessionManagerSeen (registryStart (some configuredHost)) (consoleAt otherHost) 1000) 1

/-- Eight seconds later the console is dropped and the cursor moves to the configured host. -/
theorem prune_clamps_the_cursor :
    (sessionManagerPrune hostAndConsole 9000).live = [manualDevice configuredHost] ∧
      (sessionManagerPrune hostAndConsole 9000).selected = 0 := by
  have filtered := session_manager_prune_is_a_stable_filter hostAndConsole 9000 (by decide)
  rcases filtered with ⟨kept, _, clamped, _, _⟩
  constructor
  · rw [kept]
    decide
  · rw [clamped (by decide) (by decide)]
    decide

end SysdvrWebos
