import Mathlib
/-!
# Input events, and the touch events the handler emits

`struct input_event` as `TouchHandler::process_event` reads it, the Linux
event codes it compares against (`linux/input-event-codes.h`, which
`touch_handler.h` reaches through `linux/input.h`), and the `TouchEvent`
record it hands to the callback. `InputEvent.branch` names the arm of
`process_event` an event takes; every later statement sorts events by it.
-/

namespace TouchBridge

/-! ## Event codes -/

namespace InputCode

/-- `EV_SYN`. -/
def evSyn : Nat := 0x00
/-- `EV_KEY`. -/
def evKey : Nat := 0x01
/-- `EV_ABS`. -/
def evAbs : Nat := 0x03
/-- `SYN_REPORT`. -/
def synReport : Nat := 0
/-- `ABS_X`. -/
def absX : Nat := 0x00
/-- `ABS_Y`. -/
def absY : Nat := 0x01
/-- `ABS_PRESSURE`. -/
def absPressure : Nat := 0x18
/-- `ABS_MT_PRESSURE`. -/
def absMtPressure : Nat := 0x3a
/-- `BTN_LEFT`. -/
def btnLeft : Nat := 0x110
/-- `BTN_TOUCH`. -/
def btnTouch : Nat := 0x14a

@[simp] theorem evKey_ne_evAbs : evKey ≠ evAbs := by decide
@[simp] theorem evSyn_ne_evAbs : evSyn ≠ evAbs := by decide
@[simp] theorem evSyn_ne_evKey : evSyn ≠ evKey := by decide
@[simp] theorem evAbs_ne_evKey : evAbs ≠ evKey := by decide
@[simp] theorem evAbs_ne_evSyn : evAbs ≠ evSyn := by decide
@[simp] theorem evKey_ne_evSyn : evKey ≠ evSyn := by decide
@[simp] theorem synReport_ne_btnTouch : synReport ≠ btnTouch := by decide
@[simp] theorem synReport_ne_btnLeft : synReport ≠ btnLeft := by decide
@[simp] theorem absY_ne_absX : absY ≠ absX := by decide

end InputCode

open InputCode

/-- **`struct input_event`**, without the timestamp `process_event` never
reads. `type` and `code` are `__u16`, `value` is `__s32`. -/
structure InputEvent where
  type : Nat
  code : Nat
  value : Int
deriving DecidableEq, Repr

/-- The arms of `process_event`: an axis report, a key-down or key-up of
`BTN_TOUCH`/`BTN_LEFT`, a `SYN_REPORT`, and everything it ignores. -/
inductive Branch
  | axis
  | keyDown
  | keyUp
  | report
  | ignored
deriving DecidableEq, Repr

namespace InputEvent

/-- An `EV_ABS` report on axis `code`. -/
def abs (code : Nat) (v : Int) : InputEvent := ⟨evAbs, code, v⟩

/-- An `EV_KEY` event. -/
def key (code : Nat) (v : Int) : InputEvent := ⟨evKey, code, v⟩

/-- `EV_SYN`/`SYN_REPORT`, the marker that closes a frame. -/
def syn : InputEvent := ⟨evSyn, synReport, 0⟩

/-- A key event on one of the two codes `process_event` treats as the touch. -/
def IsButton (e : InputEvent) : Prop :=
  e.type = evKey ∧ (e.code = btnTouch ∨ e.code = btnLeft)

instance (e : InputEvent) : Decidable e.IsButton := inferInstanceAs (Decidable (_ ∧ _))

/-- The arm of `process_event` that `e` takes. -/
def branch (e : InputEvent) : Branch :=
  if e.type = evAbs then .axis
  else if e.IsButton ∧ e.value = 1 then .keyDown
  else if e.IsButton ∧ e.value = 0 then .keyUp
  else if e.type = evSyn ∧ e.code = synReport then .report
  else .ignored

/-- A key-down or key-up: an event that opens or closes a contact. -/
def IsTransition (e : InputEvent) : Prop := e.branch = .keyDown ∨ e.branch = .keyUp

instance (e : InputEvent) : Decidable e.IsTransition := inferInstanceAs (Decidable (_ ∨ _))

@[simp] theorem branch_abs (code : Nat) (v : Int) : (abs code v).branch = .axis := rfl

@[simp] theorem branch_syn : syn.branch = .report := rfl

theorem branch_key_down {code : Nat} (hc : code = btnTouch ∨ code = btnLeft) :
    (key code 1).branch = .keyDown := by
  simp [branch, key, IsButton, hc, evAbs, evKey]

theorem branch_key_up {code : Nat} (hc : code = btnTouch ∨ code = btnLeft) :
    (key code 0).branch = .keyUp := by
  simp [branch, key, IsButton, hc, evAbs, evKey]

/-- Only a key event on `BTN_TOUCH`/`BTN_LEFT` opens or closes a contact. -/
theorem isButton_of_isTransition {e : InputEvent} (h : e.IsTransition) : e.IsButton := by
  unfold IsTransition branch at h
  split_ifs at h with h₁ h₂ h₃ <;> first | exact h₂.1 | exact h₃.1 | simp at h

end InputEvent

/-- The kinds of `TouchEvent::Type`. -/
inductive TouchEventType
  | touchDown
  | touchUp
  | touchMove
  | scrollUp
  | scrollDown
deriving DecidableEq, Repr

/-- **`TouchEvent`**, in target coordinates. Its `pressure` is left out:
every call site takes the constructor's default `0`. -/
structure TouchEvent where
  type : TouchEventType
  x : Int
  y : Int
deriving DecidableEq, Repr

instance : Inhabited TouchEvent := ⟨⟨.touchDown, 0, 0⟩⟩

/-- A scroll step, either way. -/
def TouchEventType.IsScroll (t : TouchEventType) : Prop := t = .scrollUp ∨ t = .scrollDown

instance (t : TouchEventType) : Decidable t.IsScroll := inferInstanceAs (Decidable (_ ∨ _))

end TouchBridge
