/-
Module: SysdvrWebos.Proofs.BrowserCursor
Layer: Proofs
Purpose: What the user of the selector sees and gets (`app_ui_render_browser`, `browse_for_device`). Every page
  shows a window of consecutive consoles with the cursor in it, one card highlighted, none cut off; and the
  console that OK connects to is the one whose card was highlighted, or the last report of it that has come
  in since, as long as no other key was handled and no prune took the cursor from its entry.
Trusted boundary: none (fully proved)
Main exports: browserCards_eq, highlights_browser, cardRect_browser, PageShows, pageShows_of_inside, Reported,
  RegistryOp.renewal, FollowsCursor, follows_call, SteadyStep, App.renewals, target_step, connects_step,
  browser_page_shows_cursor, ok_connects_the_shown_console
Open obligations: none
-/
import Mathlib.Data.List.Chain
import SysdvrWebos.Core.BrowserPage
import SysdvrWebos.Proofs.PreferredConsole
import SysdvrWebos.Proofs.ReconnectCursor
import SysdvrWebos.Proofs.TargetOrigin

namespace SysdvrWebos

open Runs

variable {m : SessionManager}

/-! ### The window -/

theorem takeWhile_lt_range' (start n k : Nat) :
    (List.range' start n).takeWhile (fun i => decide (i < k)) = List.range' start (min n (k - start)) := by
  induction n generalizing start with
  | zero => rw [Nat.zero_min]; rfl
  | succ n ih =>
      rw [List.range'_succ]
      by_cases below : start < k
      · have more : min (n + 1) (k - start) = min n (k - (start + 1)) + 1 := by omega
        rw [List.takeWhile_cons_of_pos (by simpa using below), ih, more, List.range'_succ]
      · have none : min (n + 1) (k - start) = 0 := by omega
        rw [List.takeWhile_cons_of_neg (by simpa using below), none]
        rfl

/-- The card of a row. -/
def rowCard (m : SessionManager) (row : Nat) : DeviceCard where
  device := m.devices.getD (firstVisible m + row) .zero
  rect := ⟨330, 205 + (row : Int) * 172, 1260, 145⟩
  selected := firstVisible m + row = m.selected

/-- The rows that are filled. -/
def filledRows (m : SessionManager) : Nat := min visibleCards (m.count - firstVisible m)

theorem browserCards_eq (m : SessionManager) :
    browserCards m = (List.range (filledRows m)).map (rowCard m) := by
  have rows : (List.range visibleCards).takeWhile (fun row => decide (firstVisible m + row < m.count))
      = List.range (filledRows m) := by
    have same : (fun row => decide (firstVisible m + row < m.count))
        = fun row => decide (row < m.count - firstVisible m) := by
      funext row
      apply decide_eq_decide.mpr
      omega
    rw [same, List.range_eq_range', takeWhile_lt_range', ← List.range_eq_range']
    rfl
  rw [browserCards, rows]
  rfl

/-- An entry below the count, as a row reads it. -/
theorem devices_getD {i : Nat} (below : i < m.count) : m.devices.getD i .zero = m.live.getD i .zero := by
  rw [List.getD_eq_getElem?_getD, List.getD_eq_getElem?_getD, SessionManager.live,
    List.getElem?_take_of_lt below]

/-- The cards show consecutive consoles of the registry. -/
theorem browserCards_devices (m : SessionManager) :
    (browserCards m).map DeviceCard.device = (m.live.drop (firstVisible m)).take visibleCards := by
  have length := m.live_length
  apply List.ext_getElem
  · rw [browserCards_eq, filledRows]
    simp [length]
  · intro row first second
    rw [List.length_map, browserCards_eq, List.length_map, List.length_range, filledRows] at first
    have below : firstVisible m + row < m.count := by omega
    simp only [browserCards_eq, List.map_map, List.getElem_map, List.getElem_range, Function.comp_apply,
      rowCard, List.getElem_take, List.getElem_drop]
    rw [devices_getD below, List.getD_eq_getElem _ _ (by omega)]

/-- With a cursor inside the registry the window holds it. -/
theorem cursor_in_window (inside : CursorInside m) (something : m.count ≠ 0) :
    firstVisible m ≤ m.selected ∧ m.selected - firstVisible m < filledRows m := by
  rw [CursorInside] at inside
  unfold filledRows firstVisible visibleCards
  split <;> omega

/-! ### The texts -/

theorem secondaryText_length_lt (device : SessionDevice) : (secondaryText device).bytes.length < 320 := by
  have host := device.info.host.fits
  have version := device.info.clientVersion.fits
  have protocol := device.info.protocol.fits
  have serial := device.info.serial.fits
  have manual : (CString.literal "  |  Manual SysDVR address").bytes.length = 26 := by decide
  have frametap : (CString.literal "  |  Switch Frame Tap  |  SFTR v2").bytes.length = 33 := by decide
  have sysdvr : (CString.literal "  |  SysDVR ").bytes.length = 12 := by decide
  have spoken : (CString.literal "  |  Protocol ").bytes.length = 14 := by decide
  have bar : (CString.literal "  |  ").bytes.length = 5 := by decide
  unfold secondaryText
  dsimp only
  split
  · simp only [CString.join_bytes, List.flatMap_cons, List.flatMap_nil, List.length_append, List.length_nil,
      CText.toCString_bytes, manual]
    omega
  · split
    · simp only [CString.join_bytes, List.flatMap_cons, List.flatMap_nil, List.length_append, List.length_nil,
        CText.toCString_bytes, frametap]
      omega
    · split
      all_goals simp only [CString.join_bytes, List.flatMap_cons, List.flatMap_nil, List.length_append,
        List.length_nil, CText.toCString_bytes, sysdvr, spoken, bar]
      all_goals omega

/-- The second line of a card is never cut off. -/
theorem deviceSecondary_whole (device : SessionDevice) :
    (deviceSecondary device).bytes = (secondaryText device).bytes := by
  have short := secondaryText_length_lt device
  rw [deviceSecondary, CText.print_bytes]
  exact List.take_of_length_le (by omega)

/-! ### The highlight -/

/-- The frame of the selected card. -/
def UiMark.highlights : UiMark → Bool
  | .stroke _ color _ => color = colorFocus
  | _ => false

/-- The place of a card, which its frame shows; nothing else on the page has a frame. -/
def UiMark.cardRect : UiMark → Option SdlRect
  | .stroke rect _ _ => some rect
  | _ => none

/-- The offer to connect. -/
def UiMark.offersConnect : UiMark → Bool
  | .okIcon _ => true
  | _ => false

/-- The frame of the selected card among the rows. -/
theorem flatMap_hit {α : Type} (n r : Nat) (f : Nat → List α) (hit : r < n)
    (others : ∀ i, i ≠ r → f i = []) : (List.range n).flatMap f = f r := by
  induction n with
  | zero => exact absurd hit (Nat.not_lt_zero r)
  | succ n ih =>
      rw [List.range_succ, List.flatMap_append, List.flatMap_singleton]
      by_cases last : r = n
      · have before : (List.range n).flatMap f = [] := by
          rw [List.flatMap_eq_nil_iff]
          intro i member
          apply others
          have below := List.mem_range.mp member
          omega
        rw [before, last, List.nil_append]
      · rw [ih (by omega), others n (Ne.symm last), List.append_nil]

theorem highlights_draw (card : DeviceCard) :
    card.draw.filter UiMark.highlights = if card.selected then [.stroke card.rect colorFocus 4] else [] := by
  have plain : colorMuted ≠ colorFocus := by decide
  rw [DeviceCard.draw, drawDeviceCard]
  cases card.selected with
  | true => simp [UiMark.highlights]
  | false => simp [UiMark.highlights, plain]

theorem highlights_footer (label : CString) (canConnect : Bool) :
    (drawFooter label canConnect).filter UiMark.highlights = [] := by
  cases canConnect <;> rfl

/-- The page has one highlighted card, in the row of the cursor. -/
theorem highlights_browser (inside : CursorInside m) (something : m.count ≠ 0) (scannerActive : Bool) :
    (appUiRenderBrowser m scannerActive).filter UiMark.highlights
      = [.stroke (rowCard m (m.selected - firstVisible m)).rect colorFocus 4] := by
  obtain ⟨before, hit⟩ := cursor_in_window inside something
  have here : (rowCard m (m.selected - firstVisible m)).selected = true := by
    simp only [rowCard, decide_eq_true_eq]
    omega
  have cards : ((browserCards m).flatMap DeviceCard.draw).filter UiMark.highlights
      = [.stroke (rowCard m (m.selected - firstVisible m)).rect colorFocus 4] := by
    rw [browserCards_eq, List.filter_flatMap, List.flatMap_map]
    simp only [highlights_draw]
    rw [flatMap_hit _ _ _ hit, here, if_pos rfl]
    intro row other
    have off : (rowCard m row).selected = false := by
      simp only [rowCard, decide_eq_false_iff_not]
      omega
    rw [off]
    rfl
  rw [appUiRenderBrowser, if_neg something]
  simp only [List.filter_append, cards, highlights_footer]
  rfl

/-- The page draws the cards of the rows and no other. -/
theorem cardRect_browser (m : SessionManager) (scannerActive : Bool) :
    (appUiRenderBrowser m scannerActive).filterMap UiMark.cardRect = (browserCards m).map DeviceCard.rect := by
  have footer : ∀ label canConnect, (drawFooter label canConnect).filterMap UiMark.cardRect = [] := by
    intro label canConnect
    cases canConnect <;> rfl
  have rows : ∀ cards : List DeviceCard,
      (cards.flatMap DeviceCard.draw).filterMap UiMark.cardRect = cards.map DeviceCard.rect := by
    intro cards
    induction cards with
    | nil => rfl
    | cons card cards ih =>
        rw [List.flatMap_cons, List.filterMap_append, ih]
        rfl
  have begins : (beginPage ++ drawHeader).filterMap UiMark.cardRect = [] := rfl
  rw [appUiRenderBrowser, List.filterMap_append, footer, List.append_nil, List.filterMap_append, begins,
    List.nil_append]
  split
  · next nothing =>
      rw [browserCards_eq, filledRows, nothing, Nat.zero_sub, Nat.min_zero]
      rfl
  · rw [List.filterMap_append, List.filterMap_append, rows]
    exact List.append_nil _

/-! ### What a page shows -/

/-- What the page of a registry is worth: cards of consecutive consoles and no other, drawn whole, apart from
    each other and between the lines of the header and the count; the selected console is among them, and it
    alone is highlighted; without consoles there is no card and nothing is offered. -/
structure PageShows (m : SessionManager) (page : List UiMark) : Prop where
  cursor : m.count ≠ 0 → ∃ card ∈ browserCards m, sessionManagerSelected m = some card.device ∧
    card.selected = true ∧ page.filter UiMark.highlights = [.stroke card.rect colorFocus 4]
  alone : ∀ card ∈ browserCards m, card.selected = true → sessionManagerSelected m = some card.device
  only : page.filterMap UiMark.cardRect = (browserCards m).map DeviceCard.rect
  empty : m.count = 0 → ∀ mark ∈ page,
    mark.cardRect = none ∧ mark.highlights = false ∧ mark.offersConnect = false
  window : (browserCards m).map DeviceCard.device = (m.live.drop (firstVisible m)).take visibleCards
  drawn : ∀ card ∈ browserCards m, card.draw <:+: page
  whole : ∀ card ∈ browserCards m, (deviceSecondary card.device).bytes = (secondaryText card.device).bytes
  apart : (browserCards m).Pairwise fun above below => above.rect.y + above.rect.h + 3 < below.rect.y - 3
  within : ∀ card ∈ browserCards m, 46 ≤ card.rect.x - 3 ∧ card.rect.x + card.rect.w + 3 ≤ 1874 ∧
    112 < card.rect.y - 3 ∧ card.rect.y + card.rect.h + 3 < 908

theorem selected_of_row {row : Nat} (member : row < filledRows m) (here : (rowCard m row).selected = true) :
    sessionManagerSelected m = some (rowCard m row).device := by
  have cursor : firstVisible m + row = m.selected := by simpa [rowCard] using here
  have below : firstVisible m + row < m.live.length := by
    rw [m.live_length]
    rw [filledRows] at member
    omega
  rw [sessionManagerSelected_eq, ← cursor, List.getElem?_eq_getElem below, rowCard,
    devices_getD (by rwa [m.live_length] at below), List.getD_eq_getElem _ _ below]

theorem infix_flatMap {α β : Type} {f : α → List β} {a : α} {l : List α} (member : a ∈ l) :
    f a <:+: l.flatMap f := by
  obtain ⟨before, after, rfl⟩ := List.append_of_mem member
  rw [List.flatMap_append, List.flatMap_cons, ← List.append_assoc]
  exact ⟨before.flatMap f, after.flatMap f, rfl⟩

theorem pageShows_of_inside (inside : CursorInside m) (scannerActive : Bool) :
    PageShows m (appUiRenderBrowser m scannerActive) where
  cursor := by
    intro something
    obtain ⟨before, hit⟩ := cursor_in_window inside something
    have here : (rowCard m (m.selected - firstVisible m)).selected = true := by
      simp only [rowCard, decide_eq_true_eq]
      omega
    refine ⟨rowCard m (m.selected - firstVisible m), ?_, selected_of_row hit here, here,
      highlights_browser inside something scannerActive⟩
    rw [browserCards_eq]
    exact List.mem_map_of_mem (List.mem_range.mpr hit)
  alone := by
    intro card member here
    rw [browserCards_eq] at member
    obtain ⟨row, filled, rfl⟩ := List.mem_map.mp member
    exact selected_of_row (List.mem_range.mp filled) here
  only := cardRect_browser m scannerActive
  empty := by
    intro nothing mark member
    rw [appUiRenderBrowser, if_pos nothing, nothing] at member
    simp only [beginPage, drawHeader, drawFooter, drawFooterAction, List.mem_append, List.mem_cons,
      List.not_mem_nil, or_false, Bool.false_eq_true, if_false, Nat.lt_irrefl, gt_iff_lt, decide_false,
      List.append_nil] at member
    rcases member with (((rfl | rfl | rfl) | rfl | rfl | rfl) | rfl | rfl | rfl) <;> exact ⟨rfl, rfl, rfl⟩
  window := browserCards_devices m
  drawn := by
    intro card member
    have something : m.count ≠ 0 := by
      intro nothing
      rw [browserCards_eq, filledRows, nothing, Nat.zero_sub, Nat.min_zero] at member
      cases member
    rw [appUiRenderBrowser, if_neg something]
    apply (infix_flatMap member).trans
    refine ⟨beginPage ++ drawHeader ++ [.text .small (.literal "Select a console to connect.") 330 154 colorMuted],
      [.text .small (countText m).toCString 330 908 colorMuted] ++ drawFooter (.literal "Close") (m.count > 0), ?_⟩
    simp only [List.append_assoc]
  whole := fun card _ => deviceSecondary_whole card.device
  apart := by
    rw [browserCards_eq, List.pairwise_map]
    apply List.Pairwise.imp _ List.pairwise_lt_range
    intro above below order
    simp only [rowCard]
    omega
  within := by
    intro card member
    rw [browserCards_eq] at member
    obtain ⟨row, filled, rfl⟩ := List.mem_map.mp member
    have few : row < 4 := Nat.lt_of_lt_of_le (List.mem_range.mp filled) (Nat.min_le_left ..)
    simp only [rowCard]
    omega

/-! ### The cursor between two pages -/

/-- The second entry holds a report of the console of the first. -/
def Reported (older newer : SessionDevice) : Prop := sameDevice older newer.info = true

/-- What a call puts in the place of the entry under the cursor: a report that the registry files there. -/
def RegistryOp.renewal (m : SessionManager) : RegistryOp → List SessionDevice
  | .seen device nowMs =>
      if m.live.findIdx? (fun entry => sameDevice entry device) = some m.selected then
        [{ info := device, lastSeenMs := nowMs, manual := false }]
      else
        []
  | .addManual _ => []
  | .prune _ => []
  | .move _ => []
  | .rememberSelected => []

/-- The cursor is on the last of the entry shown and the reports that took its place since, each a report of
    the console of the one before. -/
structure FollowsCursor (shown : SessionDevice) (renewals : List SessionDevice) (m : SessionManager) : Prop where
  here : sessionManagerSelected m = (shown :: renewals).getLast?
  chain : (shown :: renewals).IsChain Reported

/-- A call that does not take the cursor from its entry. -/
def SteadyCall (m : SessionManager) : RegistryOp → Prop
  | .seen _ _ => True
  | .prune nowMs => KeepsCursor m nowMs
  | .rememberSelected => True
  | .addManual _ => False
  | .move _ => False

section follows

variable {shown entry : SessionDevice} {renewals : List SessionDevice} {nowMs : UInt64}

theorem FollowsCursor.of_selected {next : SessionManager} (follows : FollowsCursor shown renewals m)
    (same : sessionManagerSelected next = sessionManagerSelected m) :
    FollowsCursor shown (renewals ++ []) next := by
  rw [List.append_nil]
  exact ⟨same.trans follows.here, follows.chain⟩

/-- There is an entry under the cursor. -/
theorem FollowsCursor.onEntry (follows : FollowsCursor shown renewals m) :
    ∃ entry, sessionManagerSelected m = some entry ∧ (shown :: renewals).getLast? = some entry := by
  have last := List.getLast?_eq_getLast_of_ne_nil (List.cons_ne_nil shown renewals)
  exact ⟨_, follows.here.trans last, last⟩

/-- A report of the console under the cursor goes on with the chain. -/
theorem FollowsCursor.renew {next : SessionManager} {newer : SessionDevice}
    (follows : FollowsCursor shown renewals m) (on : sessionManagerSelected m = some entry)
    (reported : Reported entry newer) (now : sessionManagerSelected next = some newer) :
    FollowsCursor shown (renewals ++ [newer]) next where
  here := by rw [now, ← List.cons_append, List.getLast?_concat]
  chain := by
    rw [← List.cons_append]
    refine follows.chain.append (.singleton newer) ?_
    intro last isLast first isFirst
    rw [← follows.here, on] at isLast
    cases isLast
    cases isFirst
    exact reported

theorem follows_seen (follows : FollowsCursor shown renewals m) (device : SysdvrDevice) :
    FollowsCursor shown (renewals ++ (RegistryOp.seen device nowMs).renewal m)
      (sessionManagerSeen m device nowMs) := by
  obtain ⟨entry, here, _⟩ := follows.onEntry
  have on := here
  rw [sessionManagerSelected_eq] at on
  obtain ⟨bound, value⟩ := List.getElem?_eq_some_iff.mp on
  have stays : (sessionManagerSeen m device nowMs).live[m.selected]? = m.live[m.selected]? →
      sessionManagerSelected (sessionManagerSeen m device nowMs) = sessionManagerSelected m := by
    intro same
    rw [sessionManagerSelected_eq, sessionManagerSelected_eq, selected_seen, same]
  rw [RegistryOp.renewal]
  cases found : m.live.findIdx? (fun entry => sameDevice entry device) with
  | some i =>
      obtain ⟨_, hit⟩ := findIdx?_sameDevice found
      by_cases same : i = m.selected
      · subst same
        rw [value] at hit
        have reported : Reported entry { info := device, lastSeenMs := nowMs, manual := false } := hit
        rw [if_pos rfl]
        apply follows.renew here reported
        rw [sessionManagerSelected_eq, selected_seen, live_seen_of_match found, List.getElem?_set_self bound]
      · rw [if_neg fun other => same (Option.some.inj other)]
        apply follows.of_selected (stays _)
        rw [live_seen_of_match found, List.getElem?_set_ne same]
  | none =>
      rw [if_neg (by simp)]
      apply follows.of_selected (stays _)
      by_cases room : m.count < sessionMaxDevices
      · rw [live_seen_of_room found room, List.getElem?_append_left bound]
      · rw [seen_of_full found room]

theorem selected_prune_of_keeps (on : sessionManagerSelected m = some entry) (keeps : KeepsCursor m nowMs) :
    sessionManagerSelected (sessionManagerPrune m nowMs) = some entry := by
  obtain ⟨survives, first⟩ := keeps entry on
  apply (selected_prune_of_first on ((keepEntry_iff nowMs entry).mpr survives) _).2
  intro other member
  obtain ⟨before, kept⟩ := List.mem_filter.mp member
  exact first other before ((keepEntry_iff nowMs other).mp kept)

theorem selected_rememberSelected (m : SessionManager) :
    sessionManagerSelected (sessionManagerRememberSelected m) = sessionManagerSelected m := by
  unfold sessionManagerRememberSelected
  split <;> rfl

/-- A steady call leaves the cursor with the console shown. -/
theorem follows_call {op : RegistryOp} {next : SessionManager} (follows : FollowsCursor shown renewals m)
    (steady : SteadyCall m op) (stepped : registryStep m op = some next) :
    FollowsCursor shown (renewals ++ op.renewal m) next := by
  cases op with
  | seen device nowMs =>
      cases stepped
      exact follows_seen follows device
  | prune nowMs =>
      cases stepped
      obtain ⟨entry, here, _⟩ := follows.onEntry
      exact follows.of_selected ((selected_prune_of_keeps here steady).trans here.symm)
  | rememberSelected =>
      cases stepped
      exact follows.of_selected (selected_rememberSelected m)
  | addManual host => exact steady.elim
  | move delta => exact steady.elim

end follows

/-- main is in `browse_for_device`, or has just left it with a selection. -/
def AppPhase.browses : AppPhase → Bool
  | .browseTop => true
  | .browsePoll _ _ => true
  | .browsePrune _ => true
  | .selected => true
  | _ => false

/-- The console of a session. -/
def AppPhase.target : AppPhase → Option SysdvrDevice
  | .streaming target _ => some target
  | _ => none

/-- The action that is handled behind the prune. -/
def AppPhase.pruneAction : AppPhase → Option SdlShellAction
  | .browsePrune action => some action
  | _ => none

/-- The time of a step of main. -/
def AppEvent.proceedMs : AppEvent → Option UInt64
  | .proceed nowMs => some nowMs
  | _ => none

/-- The prune finds the cursor again, and the action behind it does not move it. -/
def SteadyPrune (m : SessionManager) : Option SdlShellAction → Option UInt64 → Prop
  | some action, some nowMs => action ≠ .up ∧ action ≠ .down ∧ KeepsCursor m nowMs
  | _, _ => True

/-- In `browse_for_device` no key moves the cursor and no prune takes it from its entry. -/
def SteadyStep (s : App) (event : AppEvent) : Prop :=
  s.phase.browses = true ∧ SteadyPrune s.manager s.phase.pruneAction event.proceedMs

instance decidableSurvives (nowMs : UInt64) (entry : SessionDevice) : Decidable (Survives nowMs entry) :=
  decidable_of_iff _ (keepEntry_iff nowMs entry)

instance decidableKeepsCursor (m : SessionManager) (nowMs : UInt64) : Decidable (KeepsCursor m nowMs) :=
  inferInstanceAs (Decidable (∀ entry ∈ sessionManagerSelected m, Survives nowMs entry ∧
    ∀ other ∈ m.live.take m.selected, Survives nowMs other → sameDevice other entry.info = false))

instance decidableSteadyPrune (m : SessionManager) :
    ∀ action nowMs, Decidable (SteadyPrune m action nowMs)
  | some action, some nowMs =>
      inferInstanceAs (Decidable (action ≠ .up ∧ action ≠ .down ∧ KeepsCursor m nowMs))
  | none, _ => .isTrue trivial
  | some _, none => .isTrue trivial

instance decidableSteadyStep (s : App) (event : AppEvent) : Decidable (SteadyStep s event) :=
  inferInstanceAs (Decidable (_ ∧ _))

/-- The reports that a step of main puts in the place of the entry under the cursor. -/
def App.renewals (s : App) (event : AppEvent) : List SessionDevice :=
  yields registryStep RegistryOp.renewal s.manager (registryCalls s event)

variable {s t : App} {event : AppEvent}

/-- The calls of `browse_for_device` leave the cursor where it is. -/
theorem steadyCalls (steady : SteadyStep s event) :
    AllSteps registryStep SteadyCall s.manager (registryCalls s event) := by
  obtain ⟨browsing, keeps⟩ := steady
  unfold registryCalls
  split
  -- the listeners report
  · have polled : ∀ source socket nowMs, AllSteps registryStep SteadyCall s.manager
        ((polledConsole s source socket).map (RegistryOp.seen · nowMs)).toList := by
      intro source socket nowMs
      cases polledConsole s source socket with
      | none => exact trivial
      | some device => exact ⟨trivial, fun _ _ => trivial⟩
    split
    · exact polled _ _ _
    · exact polled _ _ _
    · exact trivial
  -- the selector prunes and answers the action
  · split
    · next nowMs _ action here =>
        rw [here] at keeps
        obtain ⟨up, down, keeps⟩ := keeps
        refine ⟨keeps, fun _ _ => ?_⟩
        cases action with
        | up => exact absurd rfl up
        | down => exact absurd rfl down
        | ok => exact ⟨trivial, fun _ _ => trivial⟩
        | none => exact trivial
        | left => exact trivial
        | right => exact trivial
        | back => exact trivial
    · next here =>
        rw [here] at browsing
        cases browsing
    · next here =>
        rw [here] at browsing
        cases browsing
    · exact trivial
  all_goals exact trivial

theorem destination_of_target {target : SysdvrDevice} (goes : s.phase.target = some target) :
    s.phase.destination = some target := by
  cases phase : s.phase <;> rw [phase] at goes <;> cases goes
  rfl

theorem destination_of_browses (browsing : s.phase.browses = true) : s.phase.destination = none := by
  cases phase : s.phase <;> first | rfl | (rw [phase] at browsing; cases browsing)

/-- A step of the selector starts a session from the selection alone, on the console under the cursor. -/
theorem target_step {target : SysdvrDevice} (browsing : s.phase.browses = true)
    (stepped : appStep s event = some t) (goes : t.phase.target = some target) :
    s.renewals event = [] ∧ ∃ entry, sessionManagerSelected s.manager = some entry ∧ entry.info = target := by
  cases destination_step stepped (destination_of_target goes) with
  | before was =>
      rw [destination_of_browses browsing] at was
      cases was
  | selected here on is =>
      refine ⟨?_, _, on, is⟩
      rw [App.renewals, registryCalls, here]
      rfl
  | polled here =>
      rw [here] at browsing
      cases browsing

/-- The cursor follows the console shown, and a session goes to it. -/
structure Connects (shown : SessionDevice) (renewals : List SessionDevice) (s : App) : Prop where
  follows : FollowsCursor shown renewals s.manager
  target : ∀ target, s.phase.target = some target →
    ∃ entry, (shown :: renewals).getLast? = some entry ∧ entry.info = target

theorem connects_step {shown : SessionDevice} {renewals : List SessionDevice}
    (connects : Connects shown renewals s) (steady : SteadyStep s event) (stepped : appStep s event = some t) :
    Connects shown (renewals ++ s.renewals event) t where
  follows := by
    have keeps : ∀ sofar m op next, FollowsCursor shown sofar m → SteadyCall m op →
        registryStep m op = some next → FollowsCursor shown (sofar ++ op.renewal m) next :=
      fun _ _ _ _ follows steady stepped => follows_call follows steady stepped
    exact exec_yields keeps (steadyCalls steady) connects.follows (appStep_calls stepped).run
  target := by
    intro target goes
    obtain ⟨none, entry, here, same⟩ := target_step steady.1 stepped goes
    rw [none, List.append_nil, ← connects.follows.here]
    exact ⟨entry, here, same⟩

/-! ### Runs of the display -/

theorem displayStep_app {d next : Display} {event : AppEvent × UInt32}
    (stepped : displayStep d event = some next) : appStep d.app event.1 = some next.app := by
  obtain ⟨app, moved, rfl⟩ := Option.map_eq_some_iff.mp stepped
  rw [moved]
  congr 1
  split
  · unfold Display.endIteration
    split <;> rfl
  · rfl
  · rfl
  · rfl

/-- A step draws the registry as it then is, keeps the page, or begins without one. -/
theorem displayStep_shown {d next : Display} {event : AppEvent × UInt32}
    (stepped : displayStep d event = some next) :
    next.shown = some next.app.manager ∨ next.shown = d.shown ∨ next.shown = none := by
  obtain ⟨app, moved, rfl⟩ := Option.map_eq_some_iff.mp stepped
  split
  · unfold Display.endIteration
    split
    · exact Or.inl rfl
    · exact Or.inr (Or.inl rfl)
  · exact Or.inr (Or.inl rfl)
  · exact Or.inr (Or.inr rfl)
  · exact Or.inr (Or.inl rfl)

/-- The cursor is inside the registry and inside the one on the screen. -/
structure DisplayInside (d : Display) : Prop where
  now : CursorInside d.app.manager
  shown : ∀ m, d.shown = some m → CursorInside m

theorem displayInside_step {d next : Display} {event : AppEvent × UInt32} (inside : DisplayInside d)
    (stepped : displayStep d event = some next) : DisplayInside next := by
  have now := cursorInside_step inside.now (appStep_cursor (displayStep_app stepped))
  refine ⟨now, fun m onScreen => ?_⟩
  obtain drawn | kept | fresh := displayStep_shown stepped
  · rw [drawn] at onScreen
    cases onScreen
    exact now
  · exact inside.shown m (kept ▸ onScreen)
  · rw [fresh] at onScreen
    cases onScreen

theorem displayInside_run {host : Option CString} {scannerOpens sftScannerOpens : Bool}
    {events : List (AppEvent × UInt32)} {d : Display}
    (run : exec displayStep (displayStart host scannerOpens sftScannerOpens) events = some d) :
    DisplayInside d := by
  have keeps : ∀ (u : Display) event next, DisplayInside u → displayStep u event = some next →
      DisplayInside next := fun _ _ _ inside stepped => displayInside_step inside stepped
  refine exec_invariant keeps ⟨?_, fun m onScreen => by cases onScreen⟩ run
  exact (following_start host scannerOpens sftScannerOpens).inside

/-- In every run of the app, the page on the screen of the selector shows a window of consecutive consoles of
    the registry it was drawn from, whole and apart, the selected one among them and alone highlighted. -/
theorem browser_page_shows_cursor {host : Option CString} {scannerOpens sftScannerOpens scannerActive : Bool}
    {events : List (AppEvent × UInt32)} {d : Display} {m : SessionManager}
    (run : exec displayStep (displayStart host scannerOpens sftScannerOpens) events = some d)
    (onScreen : d.shown = some m) : PageShows m (appUiRenderBrowser m scannerActive) :=
  pageShows_of_inside ((displayInside_run run).shown m onScreen) scannerActive

/-- Two consoles are listed, down goes to the second, and the page is drawn. -/
def secondIsShown : List (AppEvent × UInt32) :=
  [.arrive .sysdvr announcement, .arrive .sysdvr otherAnnouncement, .shellPoll (.action .down),
    .discoveryPoll .receive 1000, .discoveryPoll .receive 1000, .discoveryPoll .nothing 1000,
    .proceed 1000, .proceed 1000].map fun event => (event, 1000)

theorem second_page_shows_cursor :
    ∃ drawn m, exec displayStep (displayStart none true false) secondIsShown = some drawn ∧
      drawn.shown = some m ∧ PageShows m (appUiRenderBrowser m true) := by
  have first : (exec displayStep (displayStart none true false) secondIsShown).isSome = true := by decide
  have page : (exec displayStep (displayStart none true false) secondIsShown).bind Display.shown
      = (exec displayStep (displayStart none true false) secondIsShown).map (·.app.manager) := rfl
  obtain ⟨drawn, run⟩ := Option.isSome_iff_exists.mp first
  rw [run, Option.bind_some, Option.map_some] at page
  exact ⟨drawn, _, run, page, browser_page_shows_cursor run page⟩

/-- The reports that a run puts in the place of the entry under the cursor, in their order. -/
def renewalsOfRun (d : Display) (events : List (AppEvent × UInt32)) : List SessionDevice :=
  yields displayStep (fun d event => d.app.renewals event.1) d events

/-- Whatever the two listeners bring, the console that OK connects to is the one whose card was highlighted
    on the page, as the last of the reports that the run has put in its place, each of the same console as
    the one before; if since that page neither an up nor a down was handled and each prune found the cursor
    again. -/
theorem ok_connects_the_shown_console {host : Option CString} {scannerOpens sftScannerOpens scannerActive : Bool}
    {before since : List (AppEvent × UInt32)} {drawn last : Display} {m : SessionManager}
    {target : SysdvrDevice}
    (run : exec displayStep (displayStart host scannerOpens sftScannerOpens) before = some drawn)
    (onScreen : drawn.shown = some m) (current : drawn.app.manager = m) (something : m.count ≠ 0)
    (browsing : drawn.app.phase.browses = true) (goesOn : exec displayStep drawn since = some last)
    (steady : AllSteps displayStep (fun d event => SteadyStep d.app event.1) drawn since)
    (connects : last.app.phase.target = some target) :
    ∃ card ∈ browserCards m,
      (appUiRenderBrowser m scannerActive).filter UiMark.highlights = [.stroke card.rect colorFocus 4] ∧
      (card.device :: renewalsOfRun drawn since).IsChain Reported ∧
      ∃ entry, (card.device :: renewalsOfRun drawn since).getLast? = some entry ∧ entry.info = target := by
  have shows := pageShows_of_inside ((displayInside_run run).shown m onScreen) scannerActive
  obtain ⟨card, member, cursor, _, highlighted⟩ := shows.cursor something
  have start : Connects card.device [] drawn.app := by
    refine ⟨⟨current ▸ cursor, .singleton _⟩, fun target goes => ?_⟩
    have none := (destination_of_browses browsing).symm.trans (destination_of_target goes)
    cases none
  have keeps : ∀ sofar (u : Display) event next, Connects card.device sofar u.app → SteadyStep u.app event.1 →
      displayStep u event = some next → Connects card.device (sofar ++ u.app.renewals event.1) next.app :=
    fun _ _ _ _ connects steady stepped => connects_step connects steady (displayStep_app stepped)
  have final : Connects card.device ([] ++ renewalsOfRun drawn since) last.app :=
    exec_yields keeps steady start goesOn
  rw [List.nil_append] at final
  exact ⟨card, member, highlighted, final.follows.chain, final.target target connects⟩

/-- The second console is reported again, and OK is pressed before the next page. -/
def okIsPressed : List (AppEvent × UInt32) :=
  [.arrive .sysdvr otherAnnouncement, .shellPoll (.action .ok), .discoveryPoll .receive 1030,
    .discoveryPoll .nothing 1030, .proceed 1030, .proceed 1030, .proceed 1030].map fun event => (event, 1030)

theorem second_console_is_connected :
    ∃ drawn last m target, ∃ card ∈ browserCards m,
      exec displayStep (displayStart none true false) secondIsShown = some drawn ∧ drawn.shown = some m ∧
      exec displayStep drawn okIsPressed = some last ∧ last.app.phase.target = some target ∧
      (appUiRenderBrowser m true).filter UiMark.highlights = [.stroke card.rect colorFocus 4] ∧
      (card.device :: renewalsOfRun drawn okIsPressed).IsChain Reported ∧
      ∃ entry, (card.device :: renewalsOfRun drawn okIsPressed).getLast? = some entry ∧ entry.info = target ∧
        (renewalsOfRun drawn okIsPressed).map SessionDevice.lastSeenMs = [1030] := by
  have first : (exec displayStep (displayStart none true false) secondIsShown).isSome = true := by decide
  obtain ⟨drawn, run⟩ := Option.isSome_iff_exists.mp first
  have second : ((exec displayStep (displayStart none true false) secondIsShown).bind fun d =>
      (exec displayStep d okIsPressed).bind fun u => u.app.phase.target).isSome = true := by decide
  have reads : (exec displayStep (displayStart none true false) secondIsShown).map (fun d =>
      (decide (d.app.manager.count ≠ 0), d.app.phase.browses,
        decide (AllSteps displayStep (fun d event => SteadyStep d.app event.1) d okIsPressed),
        (renewalsOfRun d okIsPressed).map SessionDevice.lastSeenMs))
      = some (true, true, true, [1030]) := by decide
  have page : (exec displayStep (displayStart none true false) secondIsShown).bind Display.shown
      = (exec displayStep (displayStart none true false) secondIsShown).map (·.app.manager) := rfl
  rw [run, Option.bind_some] at second
  rw [run, Option.map_some, Option.some.injEq] at reads
  rw [run, Option.bind_some, Option.map_some] at page
  simp only [Prod.mk.injEq, decide_eq_true_eq] at reads
  obtain ⟨something, browsing, steady, renewed⟩ := reads
  obtain ⟨target, goes⟩ := Option.isSome_iff_exists.mp second
  obtain ⟨last, goesOn, connects⟩ := Option.bind_eq_some_iff.mp goes
  obtain ⟨card, member, highlighted, chain, entry, final, same⟩ :=
    ok_connects_the_shown_console run page rfl something browsing goesOn steady connects
  exact ⟨drawn, last, _, target, card, member, run, page, goesOn, connects, highlighted, chain, entry, final, same,
    renewed⟩

end SysdvrWebos
