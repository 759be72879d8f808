/-
Module: SysdvrWebos.Core.BrowserPage
Layer: Core
Purpose: The page of the selector (`app_ui_render_browser`, src/ui.c) as the list of what it draws, in order,
  on the plane of 1920 by 1080; and when `browse_for_device` draws it. A page is drawn at the end of an
  iteration, 80 ms after the last one at the earliest. `shown` is a ghost: the registry behind the page that
  the current call of `browse_for_device` has drawn last.
Trusted boundary: the renderer puts a mark where it is told to; the width of a text is left to the font
Main exports: UiMark, deviceSecondary, drawDeviceCard, DeviceCard, browserCards, appUiRenderBrowser, Display,
  displayStart, displayStep
Open obligations: none
-/
import SysdvrWebos.Core.MainLoop

namespace SysdvrWebos

/-! ### Marks -/

/-- `SDL_Color`. -/
structure SdlColor where
  r : UInt8
  g : UInt8
  b : UInt8
  a : UInt8
deriving Repr, DecidableEq

def colorBg : SdlColor := ⟨46, 46, 46, 255⟩

def colorPanel : SdlColor := ⟨34, 37, 42, 255⟩

def colorText : SdlColor := ⟨245, 245, 245, 255⟩

def colorMuted : SdlColor := ⟨190, 190, 190, 255⟩

def colorLine : SdlColor := ⟨125, 125, 125, 255⟩

def colorFocus : SdlColor := ⟨92, 224, 230, 255⟩

/-- `SDL_Rect`. -/
structure SdlRect where
  x : Int
  y : Int
  w : Int
  h : Int
deriving Repr, DecidableEq

/-- The fonts of `app_ui` that the page uses. -/
inductive UiFont where
  | title
  | body
  | small
deriving Repr, DecidableEq

/-- A call that draws. The icons fall back on vector drawings at the same place. -/
inductive UiMark where
  | fill (rect : SdlRect) (color : SdlColor)
  | stroke (rect : SdlRect) (color : SdlColor) (thickness : Nat)
  | line (x1 y1 x2 y2 : Int) (color : SdlColor)
  | text (font : UiFont) (text : CString) (x y : Int) (color : SdlColor)
  | centered (font : UiFont) (text : CString) (centerX y : Int) (color : SdlColor)
  | spinner (centerX centerY : Int)
  | gamepad (rect : SdlRect)
  | leftIcon (rect : SdlRect)
  | okIcon (rect : SdlRect)
deriving DecidableEq

/-! ### The page -/

/-- `begin_page`. -/
def beginPage : List UiMark := [.fill ⟨0, 0, 1920, 1080⟩ colorBg]

/-- `draw_header`. -/
def drawHeader : List UiMark :=
  [.text .title (.literal "Choose a Nintendo Switch") 76 42 colorText, .line 46 112 1874 112 colorLine]

/-- `draw_footer_action`. -/
def drawFooterAction (x y : Int) (ok : Bool) (label : CString) : List UiMark :=
  if ok then
    [.okIcon ⟨x, y + 2, 58, 32⟩, .text .small label (x + 74) y colorText]
  else
    [.leftIcon ⟨x, y + 3, 58, 29⟩, .text .small label (x + 70) y colorText]

/-- `draw_footer`. -/
def drawFooter (leftLabel : CString) (canConnect : Bool) : List UiMark :=
  [.line 46 966 1874 966 colorLine] ++
    drawFooterAction (if canConnect then 1470 else 1630) 999 false leftLabel ++
    if canConnect then drawFooterAction 1688 999 true (.literal "Connect") else []

/-- The text that `device_secondary` prints. -/
def secondaryText (device : SessionDevice) : CString :=
  let host := device.info.host.toCString
  if device.manual then
    .join [host, .literal "  |  Manual SysDVR address"]
  else if device.info.source = .frametap then
    .join [host, .literal "  |  Switch Frame Tap  |  SFTR v2"]
  else if device.info.serial.bytes ≠ [] then
    .join [host, .literal "  |  SysDVR ", device.info.clientVersion.toCString, .literal "  |  Protocol ",
      device.info.protocol.toCString, .literal "  |  ", device.info.serial.toCString]
  else
    .join [host, .literal "  |  SysDVR ", device.info.clientVersion.toCString, .literal "  |  Protocol ",
      device.info.protocol.toCString]

/-- `device_secondary` into the `detail[320]` of `draw_device_card`. -/
def deviceSecondary (device : SessionDevice) : CText 320 := .print 320 (secondaryText device)

/-- `draw_device_card`. -/
def drawDeviceCard (device : SessionDevice) (rect : SdlRect) (selected : Bool) : List UiMark :=
  [.fill rect (if selected then colorPanel else colorBg),
    .stroke rect (if selected then colorFocus else colorMuted) (if selected then 4 else 2),
    .gamepad ⟨rect.x + 58, rect.y + 31, 126, 94⟩,
    .text .body (.literal "Nintendo Switch") (rect.x + 245) (rect.y + 38) colorText,
    .text .small (deviceSecondary device).toCString (rect.x + 245) (rect.y + 91) colorMuted]

/-- A call of `draw_device_card`. -/
structure DeviceCard where
  device : SessionDevice
  rect : SdlRect
  selected : Bool
deriving DecidableEq

def DeviceCard.draw (card : DeviceCard) : List UiMark := drawDeviceCard card.device card.rect card.selected

/-- The constant `visible`. -/
def visibleCards : Nat := 4

/-- `start`, the first row of the window. -/
def firstVisible (m : SessionManager) : Nat :=
  if m.selected ≥ visibleCards then m.selected - visibleCards + 1 else 0

/-- The loop over the rows. -/
def browserCards (m : SessionManager) : List DeviceCard :=
  ((List.range visibleCards).takeWhile fun row => firstVisible m + row < m.count).map fun row =>
    { device := m.devices.getD (firstVisible m + row) .zero
      rect := ⟨330, 205 + (row : Int) * 172, 1260, 145⟩
      selected := firstVisible m + row = m.selected }

/-- `count_text`. -/
def countText (m : SessionManager) : CText 96 :=
  .print 96 (.join [.literal (toString m.count), .literal " console", .literal (if m.count = 1 then "" else "s"),
    .literal " found"])

/-- `app_ui_render_browser`. -/
def appUiRenderBrowser (m : SessionManager) (scannerActive : Bool) : List UiMark :=
  beginPage ++ drawHeader ++
    (if m.count = 0 then
      [.spinner 960 435,
        .centered .body (.literal "Searching for Nintendo Switches...") 960 520 colorText,
        .centered .small
          (.literal (if scannerActive then "Run SysDVR TCP Bridge or Switch Frame Tap Network mode."
            else "Discovery is unavailable.")) 960 573 colorMuted]
    else
      [.text .small (.literal "Select a console to connect.") 330 154 colorMuted] ++
        (browserCards m).flatMap DeviceCard.draw ++
        [.text .small (countText m).toCString 330 908 colorMuted]) ++
    drawFooter (.literal "Close") (m.count > 0)

/-! ### When it is drawn -/

/-- The app, and of its current call of `browse_for_device` the local `last_render` and the registry that
    the page on the screen was drawn from. -/
structure Display where
  app : App
  lastRender : UInt32
  shown : Option SessionManager

/-- main in front of its loop. -/
def displayStart (host : Option CString) (scannerOpens sftScannerOpens : Bool) : Display where
  app := appStart host scannerOpens sftScannerOpens
  lastRender := 0
  shown := none

/-- `browse_for_device` is called. -/
def Display.enterBrowser (app : App) : Display where
  app := app
  lastRender := 0
  shown := none

/-- The end of an iteration of `browse_for_device` at the time `ticks`. -/
def Display.endIteration (s : Display) (app : App) (ticks : UInt32) : Display :=
  if ticks - s.lastRender ≥ 80 then
    { app := app, lastRender := ticks, shown := some app.manager }
  else
    { s with app := app }

/-- A step of the app, with the answer of `SDL_GetTicks` where it is asked for. -/
def displayStep (s : Display) (event : AppEvent × UInt32) : Option Display :=
  (appStep s.app event.1).map fun app =>
    match s.app.phase, app.phase with
    | .browsePrune _, .browseTop => s.endIteration app event.2
    | .browseTop, .browseTop => { s with app := app }
    | _, .browseTop => .enterBrowser app
    | _, _ => { s with app := app }

end SysdvrWebos
