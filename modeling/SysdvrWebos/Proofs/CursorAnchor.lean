/-
Module: SysdvrWebos.Proofs.CursorAnchor
Layer: Proofs
Purpose: The cursor and the console the user selected. `session_manager_remember_selected` copies the
  identity of the selected entry, so from then on the entry under the cursor is the preferred console;
  reports of other consoles leave it there, and so does a prune that keeps it. Whether a report of a
  console finds the cursor on it is decided by the registry before the report.
Trusted boundary: none (fully proved)
Main exports: CursorInside, OnCursor, CursorReady, Anchored, KeepsCursor, onCursor_seen_iff,
  onCursor_seen_again, anchored_rememberSelected, anchored_seen, anchored_prune
Open obligations: none
-/
import SysdvrWebos.Proofs.RegistryCursor

namespace SysdvrWebos

/-- The cursor is below the count, or zero in an empty registry. -/
def CursorInside (m : SessionManager) : Prop := m.selected ≤ m.count - 1

/-- If the console is listed, the cursor is on an entry for it. -/
def OnCursor (m : SessionManager) (device : SysdvrDevice) : Prop :=
  (∃ entry ∈ m.live, sameDevice entry device = true) →
    ∃ entry, sessionManagerSelected m = some entry ∧ sameDevice entry device = true

/-- What a report of the console has to find for the cursor to be on it afterwards: the cursor is there
    already, or nothing is listed, or the console is not listed and there is no room for it. -/
def CursorReady (m : SessionManager) (device : SysdvrDevice) : Prop :=
  (∃ entry, sessionManagerSelected m = some entry ∧ sameDevice entry device = true) ∨
    m.count = 0 ∨
    m.count = sessionMaxDevices ∧ ∀ entry ∈ m.live, sameDevice entry device = false

/-- The cursor is on an entry that stands for the same reports as the preferred console. -/
def Anchored (m : SessionManager) : Prop :=
  ∃ entry, sessionManagerSelected m = some entry ∧
    sameDevice entry = sessionManagerMatchesPreferred m

/-- A prune at the given time keeps the selected entry, and no entry before it that is the same device. -/
def KeepsCursor (m : SessionManager) (nowMs : UInt64) : Prop :=
  ∀ entry, sessionManagerSelected m = some entry →
    Survives nowMs entry ∧
      ∀ other ∈ m.live.take m.selected, Survives nowMs other → sameDevice other entry.info = false

variable {m : SessionManager} {device : SysdvrDevice} {entry : SessionDevice} {nowMs : UInt64}

/-! ### The range of the cursor -/

theorem selected_seen (m : SessionManager) (device : SysdvrDevice) (nowMs : UInt64) :
    (sessionManagerSeen m device nowMs).selected = m.selected := by
  simp only [sessionManagerSeen]
  split
  · rfl
  · split <;> rfl

theorem count_le_count_seen (m : SessionManager) (device : SysdvrDevice) (nowMs : UInt64) :
    m.count ≤ (sessionManagerSeen m device nowMs).count := by
  simp only [sessionManagerSeen]
  split
  · exact Nat.le_refl m.count
  · split
    · exact Nat.le_succ m.count
    · exact Nat.le_refl m.count

theorem cursorInside_start (host : Option CString) : CursorInside (registryStart host) := by
  cases host with
  | none => exact Nat.le_refl 0
  | some host =>
      simp only [registryStart, sessionManagerAddManual]
      split
      · exact Nat.le_refl 0
      · split <;> exact Nat.le_refl 0

theorem cursorInside_seen (inside : CursorInside m) (device : SysdvrDevice) (nowMs : UInt64) :
    CursorInside (sessionManagerSeen m device nowMs) := by
  have more := count_le_count_seen m device nowMs
  rw [CursorInside, selected_seen]
  exact Nat.le_trans inside (Nat.sub_le_sub_right more 1)

theorem cursorInside_prune (m : SessionManager) (nowMs : UInt64) :
    CursorInside (sessionManagerPrune m nowMs) := by
  rcases selected_prune_lt m nowMs with below | empty
  · exact Nat.le_sub_one_of_lt below
  · have nothing : (sessionManagerPrune m nowMs).live = [] := by
      rw [← List.length_eq_zero_iff, SessionManager.live_length, empty]
    rw [live_prune] at nothing
    rw [CursorInside, selected_prune_of_empty nothing]
    exact Nat.zero_le _

theorem cursorInside_move (inside : CursorInside m) (delta : Int) :
    CursorInside (sessionManagerMove m delta) := by
  simp only [sessionManagerMove]
  split
  · exact inside
  · simp only [CursorInside]
    split
    · exact Nat.le_refl _
    · split
      · exact Nat.zero_le _
      · omega

theorem rememberSelected_cursor (m : SessionManager) :
    (sessionManagerRememberSelected m).selected = m.selected ∧
      (sessionManagerRememberSelected m).count = m.count := by
  simp only [sessionManagerRememberSelected]
  split <;> exact ⟨rfl, rfl⟩

theorem cursorInside_rememberSelected (inside : CursorInside m) :
    CursorInside (sessionManagerRememberSelected m) := by
  rcases rememberSelected_cursor m with ⟨cursor, count⟩
  rw [CursorInside, cursor, count]
  exact inside

/-- In a registry that is not empty a cursor inside it selects something. -/
theorem selected_of_cursorInside (inside : CursorInside m) (something : m.count ≠ 0) :
    ∃ entry, sessionManagerSelected m = some entry := by
  have bound : m.selected < m.live.length := by
    rw [m.live_length]
    exact Nat.lt_of_le_pred (Nat.pos_of_ne_zero something) inside
  exact ⟨m.live[m.selected], by rw [sessionManagerSelected_eq, List.getElem?_eq_getElem bound]⟩

/-! ### A report and the cursor -/

/-- Overwriting an entry for the console by its report does not change whether the cursor is on one. -/
theorem selected_set_iff {i : Nat} (bound : i < m.live.length)
    (hit : sameDevice m.live[i] device = true) :
    (∃ entry, (m.live.set i { info := device, lastSeenMs := nowMs, manual := false })[m.selected]?
        = some entry ∧ sameDevice entry device = true)
      ↔ ∃ entry, m.live[m.selected]? = some entry ∧ sameDevice entry device = true := by
  by_cases here : i = m.selected
  · subst here
    rw [List.getElem?_set_self bound, List.getElem?_eq_getElem bound]
    constructor
    · intro _
      exact ⟨_, rfl, hit⟩
    · intro _
      exact ⟨_, rfl, sameDevice_self _⟩
  · rw [List.getElem?_set_ne here]

/-- After a report the console is listed if it was before or there was room for it. -/
theorem listed_seen
    (known : m.live.findIdx? (fun entry => sameDevice entry device) ≠ none ∨
      m.count < sessionMaxDevices) :
    ∃ entry ∈ (sessionManagerSeen m device nowMs).live, sameDevice entry device = true := by
  cases found : m.live.findIdx? (fun entry => sameDevice entry device) with
  | some i =>
      obtain ⟨bound, _⟩ := findIdx?_sameDevice found
      rw [live_seen_of_match found]
      exact ⟨_, List.mem_set bound _, sameDevice_self _⟩
  | none =>
      have room := known.resolve_left (fun listed => listed found)
      rw [live_seen_of_room found room]
      exact ⟨_, List.mem_append_right _ (List.mem_singleton_self _), sameDevice_self _⟩

/-- Otherwise the report is ignored. -/
theorem listed_or_full (m : SessionManager) (device : SysdvrDevice) (nowMs : UInt64) :
    (∃ entry ∈ (sessionManagerSeen m device nowMs).live, sameDevice entry device = true) ∨
      m.count = sessionMaxDevices ∧ (∀ entry ∈ m.live, sameDevice entry device = false) ∧
        sessionManagerSeen m device nowMs = m := by
  by_cases known : m.live.findIdx? (fun entry => sameDevice entry device) ≠ none ∨
      m.count < sessionMaxDevices
  · exact Or.inl (listed_seen known)
  · rw [not_or, not_not] at known
    rcases known with ⟨unknown, full⟩
    have most := m.count_le
    exact Or.inr ⟨by omega, List.findIdx?_eq_none_iff.mp unknown, seen_of_full unknown full⟩

/-- The console is on the cursor after its report exactly if the registry before was ready for it. -/
theorem onCursor_seen_iff (inside : CursorInside m) :
    OnCursor (sessionManagerSeen m device nowMs) device ↔ CursorReady m device := by
  rw [OnCursor, CursorReady, sessionManagerSelected_eq, sessionManagerSelected_eq, selected_seen]
  cases found : m.live.findIdx? (fun entry => sameDevice entry device) with
  | some i =>
      obtain ⟨bound, hit⟩ := findIdx?_sameDevice found
      have listed : ∃ entry ∈ (sessionManagerSeen m device nowMs).live,
          sameDevice entry device = true := listed_seen (Or.inl (by simp [found]))
      have something : m.count ≠ 0 := by
        rw [← m.live_length]
        omega
      have known : ¬ ∀ entry ∈ m.live, sameDevice entry device = false := by
        intro unknown
        rw [unknown _ (List.getElem_mem bound)] at hit
        cases hit
      rw [imp_iff_right listed, live_seen_of_match found, selected_set_iff bound hit]
      simp [something, known]
  | none =>
      have unknown := List.findIdx?_eq_none_iff.mp found
      have elsewhere : ¬ ∃ entry, m.live[m.selected]? = some entry ∧ sameDevice entry device = true := by
        rintro ⟨entry, here, same⟩
        rw [unknown entry (List.mem_of_getElem? here)] at same
        cases same
      by_cases room : m.count < sessionMaxDevices
      · have listed : ∃ entry ∈ (sessionManagerSeen m device nowMs).live,
            sameDevice entry device = true := listed_seen (Or.inr room)
        have notFull : m.count ≠ sessionMaxDevices := Nat.ne_of_lt room
        rw [imp_iff_right listed, live_seen_of_room found room]
        simp only [elsewhere, notFull, false_and, or_false, false_or]
        constructor
        · intro ⟨entry, here, same⟩
          by_contra something
          have below : m.selected < m.live.length := by
            rw [m.live_length]
            exact Nat.lt_of_le_pred (Nat.pos_of_ne_zero something) inside
          rw [List.getElem?_append_left below] at here
          exact elsewhere ⟨entry, here, same⟩
        · intro empty
          have nothing : m.live = [] := by
            rw [← List.length_eq_zero_iff, m.live_length, empty]
          have start : m.selected = 0 := by
            rw [CursorInside, empty] at inside
            exact Nat.le_zero.mp inside
          rw [nothing, start]
          exact ⟨_, rfl, sameDevice_self _⟩
      · have most := m.count_le
        have full : m.count = sessionMaxDevices := by omega
        rw [seen_of_full found room]
        constructor
        · intro _
          exact Or.inr (Or.inr ⟨full, unknown⟩)
        · rintro _ ⟨entry, member, same⟩
          rw [unknown entry member] at same
          cases same

/-- A second report of the console leaves the cursor where the first one has found it. -/
theorem onCursor_seen_again (inside : CursorInside m) (againMs : UInt64) :
    OnCursor (sessionManagerSeen (sessionManagerSeen m device nowMs) device againMs) device
      ↔ CursorReady m device := by
  rw [onCursor_seen_iff (cursorInside_seen inside device nowMs), ← onCursor_seen_iff inside]
  constructor
  · rintro (here | empty | ⟨_, unknown⟩) listed
    · exact here
    · rcases listed with ⟨entry, member, _⟩
      have something := List.length_pos_of_mem member
      rw [SessionManager.live_length, empty] at something
      exact absurd something (Nat.lt_irrefl 0)
    · rcases listed with ⟨entry, member, same⟩
      rw [unknown entry member] at same
      cases same
  · intro on
    rcases listed_or_full m device nowMs with listed | ⟨full, unknown, same⟩
    · exact Or.inl (on listed)
    · rw [same]
      exact Or.inr (Or.inr ⟨full, unknown⟩)

/-! ### The anchor -/

/-- The preferred console is the one under the cursor when it is remembered. -/
theorem anchored_rememberSelected (here : sessionManagerSelected m = some entry) :
    Anchored (sessionManagerRememberSelected m) := by
  refine ⟨entry, ?_, (matchesPreferred_rememberSelected here).symm⟩
  rw [sessionManagerRememberSelected, here]
  exact here

/-- While the anchor holds, a report of the preferred console finds the cursor on it. -/
theorem ready_of_anchored (anchored : Anchored m)
    (wanted : sessionManagerMatchesPreferred m device = true) : CursorReady m device := by
  rcases anchored with ⟨entry, here, same⟩
  rw [← same] at wanted
  exact Or.inl ⟨entry, here, wanted⟩

/-- A report of another console overwrites another entry. -/
theorem anchored_seen (anchored : Anchored m)
    (unwanted : sessionManagerMatchesPreferred m device = false) (nowMs : UInt64) :
    Anchored (sessionManagerSeen m device nowMs) := by
  rcases anchored with ⟨entry, here, same⟩
  refine ⟨entry, ?_, by rw [matchesPreferred_seen, same]⟩
  rw [← same] at unwanted
  rw [sessionManagerSelected_eq] at here ⊢
  rw [selected_seen]
  obtain ⟨bound, value⟩ := List.getElem?_eq_some_iff.mp here
  cases found : m.live.findIdx? (fun entry => sameDevice entry device) with
  | some i =>
      obtain ⟨_, hit⟩ := findIdx?_sameDevice found
      have apart : i ≠ m.selected := by
        rintro rfl
        rw [value, unwanted] at hit
        cases hit
      rw [live_seen_of_match found, List.getElem?_set_ne apart]
      exact here
  | none =>
      by_cases room : m.count < sessionMaxDevices
      · rw [live_seen_of_room found room, List.getElem?_append_left bound]
        exact here
      · rwa [seen_of_full found room]

/-- A prune that keeps the selected entry keeps the cursor on it. -/
theorem anchored_prune (anchored : Anchored m) (keeps : KeepsCursor m nowMs) :
    Anchored (sessionManagerPrune m nowMs) := by
  rcases anchored with ⟨entry, here, same⟩
  rcases keeps entry here with ⟨survives, first⟩
  refine ⟨entry, ?_, by rw [matchesPreferred_prune, same]⟩
  have kept := (keepEntry_iff nowMs entry).mpr survives
  apply (selected_prune_of_first here kept _).2
  intro other member
  obtain ⟨before, survives'⟩ := List.mem_filter.mp member
  exact first other before ((keepEntry_iff nowMs other).mp survives')

end SysdvrWebos
