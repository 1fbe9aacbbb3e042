import TouchBridge.Serial.Framing
import TouchBridge.Firmware.SimpleDevice
/-!
# A host session, as the phone sees it

The host's calls travel as lines over the serial link. The MOVE-dialect
firmware reads them back (`runLoop_wire_filter`) and performs each one
(`Globals.perform`), and its reports move the phone's pointer (`Pointer`).
This module follows a whole session through all three stages and compares
it with what the calls ask of the phone (`Send.onPhone`). A move puts the
pointer at its point, clamped to the screen. A click does that and taps
there. A scroll turns the wheel where the pointer is. `RESET`, `STATUS`
and `SCREEN` change nothing the phone sees.

The two agree over every session whose writes are all or nothing
(`session_on_phone`). Two provisos apply. Each call's action must be
defined in C and reach the phone as sent (`Send.Defined`): a scroll whose
`abs(direction * amount)` fits an `int` and whose direction fits the
`signed char` the wheel takes, and a screen size whose `float` fits an
`int`. The homing must also
keep covering the phone's screen (`Globals.Homes`). The firmware's initial
size covers it, and so does every `SCREEN` size at least as large as the
phone's, despite the `float` on the way (`homes_setScreenResolution`).
The step is `perform_intended`: each call's action, performed from globals
that home, moves and taps as the call asks.
-/

namespace TouchBridge

namespace Firmware

namespace Globals

/-- **The homing covers the phone's screen**: the homing moves add up to
at least its width and its height. -/
def Homes (S : Screen) (g : Globals) : Prop :=
  max S.width S.height ≤ 50 * homeSteps g.actualScreenWidth g.actualScreenHeight

instance (S : Screen) (g : Globals) : Decidable (g.Homes S) := inferInstanceAs (Decidable (_ ≤ _))

/-- `setScreenResolution` with sizes whose `float`s are `int`s. -/
theorem setScreenResolution_of_inInt {width height : Int} (hw : InInt (floatOfInt width))
    (hh : InInt (floatOfInt height)) :
    setScreenResolution width height = some ⟨width, height, floatOfInt width, floatOfInt height⟩ := by
  simp [setScreenResolution, CInt.checked_of_inInt hw, CInt.checked_of_inInt hh]

/-- **A screen size at least the phone's keeps the homing covering it**,
although the size passes through a `float`: the `float` is within 128 of
it, and the homing overshoots by 200. -/
theorem homes_setScreenResolution (S : Screen) {width height : Int} (hw : InInt width) (hh : InInt height)
    (hcov : max S.width S.height ≤ max width height) :
    Homes S ⟨width, height, floatOfInt width, floatOfInt height⟩ := by
  have := homeSteps_spec (floatOfInt width) (floatOfInt height)
  have := floatOfInt_near hw
  have := floatOfInt_near hh
  unfold Homes
  simp only
  omega

end Globals

end Firmware

namespace ESP32Comm

open Firmware

instance (s : Send) (bytesWritten : Int) : Decidable (WholeWrite s bytesWritten) :=
  inferInstanceAs (Decidable (_ ∨ _ ∨ _))

/-- **What a call asks of the phone** (not in the source: the intent of
each call, as the firmware's command list describes it): where it leaves
the pointer, and what the phone registers. -/
def Send.onPhone (S : Screen) (p : Int × Int) : Send → (Int × Int) × List Seen
  | .goto x y => ((constrain x.val 0 S.width, constrain y.val 0 S.height), [])
  | .click x y =>
    ((constrain x.val 0 S.width, constrain y.val 0 S.height),
      [.tap (constrain x.val 0 S.width) (constrain y.val 0 S.height)])
  | .scroll _ _ direction amount => (p, List.replicate amount.val.toNat (.scroll direction.val p.1 p.2))
  | .scrollUp _ _ amount => (p, List.replicate amount.val.toNat (.scroll 1 p.1 p.2))
  | .scrollDown _ _ amount => (p, List.replicate amount.val.toNat (.scroll (-1) p.1 p.2))
  | .home => (p, [])
  | .status => (p, [])
  | .calibrate _ _ => (p, [])
  | .screenResolution _ _ => (p, [])

/-- What a run of calls asks of the phone. -/
def onPhoneAll (S : Screen) : Int × Int → List Send → (Int × Int) × List Seen
  | p, [] => (p, [])
  | p, s :: ss => ((onPhoneAll S (s.onPhone S p).1 ss).1, (s.onPhone S p).2 ++ (onPhoneAll S (s.onPhone S p).1 ss).2)

/-- **A call whose firmware action is defined in C and reaches the phone
as sent**: a scroll whose `abs(direction * amount)` fits an `int` and whose
direction fits the `signed char` the wheel takes, and a screen size whose
`float`s fit an `int`. -/
def Send.Defined : Send → Prop
  | .scroll _ _ direction amount =>
    -128 ≤ direction.val ∧ direction.val ≤ 127 ∧ (direction.val * amount.val).natAbs ≤ 2147483647
  | .scrollUp _ _ amount => amount.val.natAbs ≤ 2147483647
  | .scrollDown _ _ amount => amount.val.natAbs ≤ 2147483647
  | .screenResolution width height => InInt (floatOfInt width.val) ∧ InInt (floatOfInt height.val)
  | _ => True

/-- **A call that keeps the homing covering the phone's screen**: a screen
size at least as large as the phone's. -/
def Send.Covers (S : Screen) : Send → Prop
  | .screenResolution width height => max S.width S.height ≤ max width.val height.val
  | _ => True

/-- The pointer stays on the screen. -/
theorem onPhone_onScreen (S : Screen) {p : Int × Int} (hp : S.OnScreen p) (s : Send) :
    S.OnScreen (s.onPhone S p).1 := by
  have hx := constrain_mem S.width_nonneg
  have hy := constrain_mem S.height_nonneg
  cases s with
  | goto x y => exact ⟨(hx _).1, (hx _).2, (hy _).1, (hy _).2⟩
  | click x y => exact ⟨(hx _).1, (hx _).2, (hy _).1, (hy _).2⟩
  | _ => exact hp

/-- **One call, from globals that home, does on the phone what it asks.** -/
theorem perform_intended (S : Screen) {g : Globals} (hg : g.Homes S) {p : Int × Int} (hp : S.OnScreen p)
    {s : Send} (hd : s.Defined) (hc : s.Covers S) :
    ∃ g' sent, g.perform s.intended = some (g', sent) ∧ g'.Homes S ∧
      S.pointer p sent = (s.onPhone S p).1 ∧ S.seen p sent = (s.onPhone S p).2 := by
  cases s with
  | goto x y => exact ⟨g, _, rfl, hg, pointer_moveToAbsolute S hp hg _ _, S.seen_moves _ _⟩
  | click x y =>
    refine ⟨g, _, rfl, hg, ?_, ?_⟩
    · rw [S.pointer_append, pointer_moveToAbsolute S hp hg, S.pointer_click]
      rfl
    · rw [S.seen_append, pointer_moveToAbsolute S hp hg, S.seen_moves, S.seen_click]
      rfl
  | scroll x y direction amount =>
    exact ⟨g, _, by simp [Send.intended, Globals.perform, scroll, wheelTurns_of_natAbs_le _ hd.2.2,
      signedChar_of_mem hd.1 hd.2.1], hg,
      S.pointer_replicate_scroll _ _ _, S.seen_replicate_scroll _ _ _⟩
  | scrollUp x y amount =>
    exact ⟨g, _, by simp [Send.intended, Globals.perform, scroll,
      @wheelTurns_of_natAbs_le _ 1 amount.val (by simpa [Send.Defined] using hd), signedChar], hg,
      S.pointer_replicate_scroll _ _ _, S.seen_replicate_scroll _ _ _⟩
  | scrollDown x y amount =>
    exact ⟨g, _, by simp [Send.intended, Globals.perform, scroll,
      @wheelTurns_of_natAbs_le _ (-1) amount.val (by simpa [Send.Defined] using hd), signedChar],
      hg,
      S.pointer_replicate_scroll _ _ _, S.seen_replicate_scroll _ _ _⟩
  | home => exact ⟨g, [], rfl, hg, rfl, rfl⟩
  | status => exact ⟨g, [], rfl, hg, rfl, rfl⟩
  | calibrate x y => exact ⟨g, [], rfl, hg, rfl, rfl⟩
  | screenResolution width height =>
    refine ⟨_, [], ?_, Globals.homes_setScreenResolution S ⟨width.min_le, width.le_max⟩
      ⟨height.min_le, height.le_max⟩ hc, rfl, rfl⟩
    simp [Send.intended, Globals.perform, Globals.setScreenResolution_of_inInt hd.1 hd.2]

/-- **A run of calls, from globals that home, does on the phone what the
calls ask**, one after the other. -/
theorem performAll_intended (S : Screen) :
    ∀ (ss : List Send) {g : Globals}, g.Homes S → ∀ {p : Int × Int}, S.OnScreen p →
      (∀ s ∈ ss, s.Defined ∧ s.Covers S) →
      ∃ g' sent, g.performAll (ss.map Send.intended) = some (g', sent) ∧
        S.pointer p sent = (onPhoneAll S p ss).1 ∧ S.seen p sent = (onPhoneAll S p ss).2
  | [], g, _, _, _, _ => ⟨g, [], rfl, rfl, rfl⟩
  | s :: ss, g, hg, p, hp, h => by
    obtain ⟨⟨hd, hc⟩, hrest⟩ := List.forall_mem_cons.1 h
    obtain ⟨g₁, sent, h₁, hg₁, hpt, hsn⟩ := perform_intended S hg hp hd hc
    obtain ⟨g₂, rest, h₂, hpt₂, hsn₂⟩ :=
      performAll_intended S ss hg₁ (onPhone_onScreen S hp s) hrest
    refine ⟨g₂, sent ++ rest, ?_, ?_, ?_⟩
    · simp only [List.map_cons, Globals.performAll, h₁, h₂, Option.bind_eq_bind, Option.some_bind]
    · rw [S.pointer_append, hpt, hpt₂, onPhoneAll]
    · rw [S.seen_append, hsn, hpt, hsn₂, onPhoneAll]

end ESP32Comm

end TouchBridge
