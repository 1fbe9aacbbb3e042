import TouchBridge.Handler.Event
/-!
# `TouchHandler::process_event`

The handler's members, the constructor, `map_coordinates`, and
`process_event` arm by arm (touch_handler.cpp). `processEvent_eq` is the
equation every later proof rewrites with: it names the arm an event takes
through `InputEvent.branch`, so no proof unfolds the nested `switch`.

C++ `int` arithmetic is read as `Int` arithmetic: the two agree wherever
the C++ is defined, and whether it overflows is a question asked of the
`Int` values. `abs` is `cAbs`, `/` is `cDiv`: truncating, and `none` on a
zero divisor, where C leaves it undefined.
-/

namespace TouchBridge

open InputCode

/-- C's `abs` on `int`. -/
def cAbs (x : Int) : Int := x.natAbs

theorem cAbs_def (x : Int) : cAbs x = x.natAbs := rfl

/-- C's `/` on `int`: truncating toward zero, undefined (`none`) on a zero
divisor. -/
def cDiv (a b : Int) : Option Int :=
  if b = 0 then none else some (a.tdiv b)

/-- **The members of `TouchHandler`** (touch_handler.h) that its methods
read or write. `last_touch_time_` is written by the key-down arm and read
by nothing, and the callback only decides whether an emitted event is
delivered, so neither is kept. -/
structure TouchHandler where
  inputFd : Int
  initialized : Bool
  running : Bool
  /-- `event_thread_.joinable()`. -/
  eventThreadJoinable : Bool
  screenWidth : Int
  screenHeight : Int
  targetWidth : Int
  targetHeight : Int
  touchActive : Bool
  /-- Source position of the last `TOUCH_DOWN` or `TOUCH_MOVE`. -/
  lastX : Int
  lastY : Int
  /-- Latest `ABS_X`/`ABS_Y` values. -/
  currentX : Int
  currentY : Int
  scrollStartY : Int
  scrollMode : Bool
deriving DecidableEq, Repr

namespace TouchHandler

/-- `TouchHandler::SCROLL_THRESHOLD`. -/
def scrollThreshold : Int := 50

/-- **`TouchHandler::TouchHandler()`**: closed, stopped, an 800×480 screen
mapped to 390×844, no contact. -/
def new : TouchHandler where
  inputFd := -1
  initialized := false
  running := false
  eventThreadJoinable := false
  screenWidth := 800
  screenHeight := 480
  targetWidth := 390
  targetHeight := 844
  touchActive := false
  lastX := 0
  lastY := 0
  currentX := 0
  currentY := 0
  scrollStartY := 0
  scrollMode := false

variable (h : TouchHandler)

/-- **`map_coordinates`**: scale by target over screen, truncating, then
clamp into `[0, target - 1]`; `none` when a screen dimension is zero. -/
def mapCoordinates (rpiX rpiY : Int) : Option (Int × Int) := do
  let targetX ← cDiv (rpiX * h.targetWidth) h.screenWidth
  let targetY ← cDiv (rpiY * h.targetHeight) h.screenHeight
  some (max 0 (min targetX (h.targetWidth - 1)), max 0 (min targetY (h.targetHeight - 1)))

/-- With both screen dimensions nonzero, `map_coordinates` is defined. -/
theorem mapCoordinates_of_ne_zero (hw : h.screenWidth ≠ 0) (hh : h.screenHeight ≠ 0) (rpiX rpiY : Int) :
    h.mapCoordinates rpiX rpiY =
      some (max 0 (min ((rpiX * h.targetWidth).tdiv h.screenWidth) (h.targetWidth - 1)),
        max 0 (min ((rpiY * h.targetHeight).tdiv h.screenHeight) (h.targetHeight - 1))) := by
  simp [mapCoordinates, cDiv, hw, hh]

/-- With a zero screen dimension it is not. -/
theorem mapCoordinates_eq_none (h0 : h.screenWidth = 0 ∨ h.screenHeight = 0) (rpiX rpiY : Int) :
    h.mapCoordinates rpiX rpiY = none := by
  rcases h0 with h0 | h0 <;> simp [mapCoordinates, cDiv, h0]

/-- The `TouchEvent` of kind `t` at the mapped current position: every
call site of the callback maps `current_x_, current_y_`, and none of the
arms changes them or the dimensions before it does. Where the mapping is
undefined the model emits at `(0, 0)`; no result rests on that point, as
those about positions assume positive dimensions. -/
def emit (t : TouchEventType) : TouchEvent :=
  ⟨t, ((h.mapCoordinates h.currentX h.currentY).getD (0, 0)).1,
    ((h.mapCoordinates h.currentX h.currentY).getD (0, 0)).2⟩

/-- The `EV_ABS` arm: `ABS_X` and `ABS_Y` set the current position;
`ABS_PRESSURE`, `ABS_MT_PRESSURE` and other axes change nothing. -/
def readAxis (e : InputEvent) : TouchHandler :=
  if e.code = absX then { h with currentX := e.value }
  else if e.code = absY then { h with currentY := e.value }
  else h

/-- **Touch down**: open a contact at the current position and emit
`TOUCH_DOWN` there. -/
def touchDown : TouchHandler × List TouchEvent :=
  ({ h with
      touchActive := true
      lastX := h.currentX
      lastY := h.currentY
      scrollMode := false
      scrollStartY := h.currentY },
    [h.emit .touchDown])

/-- **Touch up**: close the contact. A scroll gesture ends silently; any
other contact emits `TOUCH_UP` when it ends within 20 units of the last
reported position on both axes. -/
def touchUp : TouchHandler × List TouchEvent :=
  if h.scrollMode then ({ h with touchActive := false, scrollMode := false }, [])
  else if cAbs (h.currentX - h.lastX) < 20 ∧ cAbs (h.currentY - h.lastY) < 20 then
    ({ h with touchActive := false }, [h.emit .touchUp])
  else ({ h with touchActive := false }, [])

/-- **The `SYN_REPORT` arm** ("Process movement if touch is active").
Scroll mode is entered when the frame moved more than `SCROLL_THRESHOLD`
vertically and less than half of it horizontally since the last report;
in scroll mode a step is emitted, and its anchor moved, each time `y` has
left the anchor by more than the threshold; otherwise a move of more than
5 units is reported and becomes the last reported position. -/
def processMovement : TouchHandler × List TouchEvent :=
  if h.touchActive then
    if h.scrollMode ∨ (cAbs (h.currentY - h.lastY) > scrollThreshold ∧
        cAbs (h.currentX - h.lastX) < scrollThreshold / 2) then
      if cAbs (h.currentY - h.scrollStartY) > scrollThreshold then
        ({ h with scrollMode := true, scrollStartY := h.currentY },
          [h.emit (if h.currentY - h.scrollStartY > 0 then .scrollDown else .scrollUp)])
      else ({ h with scrollMode := true }, [])
    else if cAbs (h.currentX - h.lastX) > 5 ∨ cAbs (h.currentY - h.lastY) > 5 then
      ({ h with lastX := h.currentX, lastY := h.currentY }, [h.emit .touchMove])
    else (h, [])
  else (h, [])

/-- **`TouchHandler::process_event`**: the new handler state and the
events passed to the callback, in order. -/
def processEvent (event : InputEvent) : TouchHandler × List TouchEvent :=
  if event.type = evAbs then (h.readAxis event, [])
  else if event.type = evKey then
    if event.code = btnTouch ∨ event.code = btnLeft then
      if event.value = 1 then h.touchDown
      else if event.value = 0 then h.touchUp
      else (h, [])
    else (h, [])
  else if event.type = evSyn then
    if event.code = synReport then h.processMovement else (h, [])
  else (h, [])

/-- **What one event does**, by the arm it takes. -/
theorem processEvent_eq (e : InputEvent) :
    h.processEvent e = match e.branch with
      | .axis => (h.readAxis e, [])
      | .keyDown => h.touchDown
      | .keyUp => h.touchUp
      | .report => h.processMovement
      | .ignored => (h, []) := by
  obtain ⟨t, c, v⟩ := e
  simp only [processEvent, InputEvent.branch, InputEvent.IsButton]
  by_cases ha : t = evAbs
  · subst ha; simp
  by_cases hk : t = evKey
  · -- a key event: first its code, then its value
    subst hk
    by_cases hb : c = btnTouch ∨ c = btnLeft
    · by_cases h1 : v = 1
      · simp [hb, h1]
      · by_cases h0 : v = 0 <;> simp [hb, h1, h0]
    · simp [hb]
  by_cases hs : t = evSyn
  · subst hs; by_cases hr : c = synReport <;> simp [hr]
  · simp [ha, hk, hs]

end TouchHandler

end TouchBridge
