import TouchBridge.Firmware.SimpleDevice
import TouchBridge.Firmware.GotoDialect
/-!
# The GOTO-dialect firmware as a device

Each command of `esp/main.ino` ends in one call on the `mouseTo` object,
which keeps the position it believes the phone's pointer is at. `moveTo`
walks that position to a target with calls of `move()`. `clickAt`,
`scrollAt` and the `HSCROLL,` branch walk there and then click or turn a
wheel. `home` pins the pointer in the corner, and `CALIBRATE,`, `SCREEN,`
and `FACTOR,` set members. `Device.perform` is what one call does, and
`Device.run` is the firmware's loop over the lines it reads. Two things
each command meets are given with it: whether the phone is connected, and
how many calls of `move()` the ten seconds of `moveTo` allow.

`move()` scales each step by the correction factor, `(int)(v *
correctionFactor)` (`moveWith`). The model keeps the factor as the text of
the last `FACTOR,` command and leaves the `float` product open (`factor`).
At the initial factor `1.0`, `moveWith` is `move` (`moveWith_id`).

The results are about every run. Whatever the factor and whatever the
lines, every move report is inside the HID range
(`run_moves_bounded`). With factors that only shorten a step (`Shortens`:
a factor between `0` and `1`), a screen no larger than the phone's and no
`CALIBRATE,`, the firmware's position is the phone's pointer whenever it
is homed (`run_tracks`). The step lemma is `moveWith_tracks`: a call of
`move()` moves the pointer exactly as it moves the position, because the
walk never leaves the screen. A connected `HOME` puts the firmware back on
the pointer from any state (`home_resyncs`), and at a factor that keeps a
step of 3 or more `moveTo` lands within 2 of its target (`moveTo_lands`).
Each call away from it saves one of the calls both axes still need
(`calls`, `moveWith_closer`): one per step of `s` beyond the last jump, then
at most one per unit of that jump, so the time is counted in jumps, as
`clickAt_lands` counts it at the initial factor.
-/

namespace TouchBridge

namespace Firmware

@[simp] theorem CInt.val_zero : (0 : CInt).val = 0 := rfl

/-- What an `int` operation yields, when it is defined, is its exact result. -/
theorem CInt.val_of_checked {v : Int} {c : CInt} (h : CInt.checked v = some c) : c.val = v := by
  unfold CInt.checked at h
  split_ifs at h
  cases h
  rfl

namespace BLEMouseTo

/-- **`move()`** with the correction factor in play: `scale v` is
`(int)(v * correctionFactor)`. -/
def moveWith (m : BLEMouseTo) (scale : Int → Int) (connected : Bool) :
    Option (Bool × BLEMouseTo × List (Int × Int)) :=
  if !connected then some (false, m, [])
  else if !m.isHomed then some (false, (m.home connected).1, (m.home connected).2)
  else do
    let deltaX ← CInt.checked (m.targetX.val - m.currentX.val)
    let deltaY ← CInt.checked (m.targetY.val - m.currentY.val)
    let absX ← CInt.checked deltaX.val.natAbs
    let absY ← CInt.checked deltaY.val.natAbs
    if absX.val ≤ 2 ∧ absY.val ≤ 2 then some (true, m, [])
    else
      let moveX := constrain (scale (jump m.maxJumpDistance deltaX.val)) (-127) 127
      let moveY := constrain (scale (jump m.maxJumpDistance deltaY.val)) (-127) 127
      if moveX ≠ 0 ∨ moveY ≠ 0 then do
        let x ← CInt.checked (m.currentX.val + moveX)
        let y ← CInt.checked (m.currentY.val + moveY)
        some (false, { m with currentX := x, currentY := y }, [(moveX, moveY)])
      else some (false, m, [])

/-- At the initial factor `1.0`, the step is `move()` (`BLEMouseTo.move`). -/
theorem moveWith_id (m : BLEMouseTo) (connected : Bool) : m.moveWith id connected = m.move connected :=
  rfl

/-- Calls of `move()` until one returns `true`, at most `tries` of them. -/
def moveLoopWith (scale : Int → Int) (connected : Bool) :
    Nat → BLEMouseTo → Option (Bool × BLEMouseTo × List (Int × Int))
  | 0, m => some (false, m, [])
  | tries + 1, m => do
    let (reached, m', sent) ← m.moveWith scale connected
    if reached then some (true, m', sent)
    else do
      let (r, m'', rest) ← moveLoopWith scale connected tries m'
      some (r, m'', sent ++ rest)

theorem moveLoopWith_id (connected : Bool) :
    ∀ (tries : Nat) (m : BLEMouseTo), moveLoopWith id connected tries m = moveLoop connected tries m
  | 0, _ => rfl
  | tries + 1, m => by
    simp only [moveLoopWith, moveLoop, moveWith_id, moveLoopWith_id connected tries]

theorem moveLoopWith_of_false {scale : Int → Int} {c : Bool} {n : Nat} {m m' : BLEMouseTo}
    {sent : List (Int × Int)} (h : m.moveWith scale c = some (false, m', sent)) :
    moveLoopWith scale c (n + 1) m = (moveLoopWith scale c n m').map fun r => (r.1, r.2.1, sent ++ r.2.2) := by
  simp only [moveLoopWith, h, Option.bind_eq_bind, Option.some_bind, Bool.false_eq_true, if_false]
  cases moveLoopWith scale c n m' <;> rfl

/-- **`click()`**: a click, while connected. -/
def click (connected : Bool) : List Report :=
  if connected then [.click] else []

/-- **`scroll(direction, amount)`**: the scroll loop, while connected. -/
def scroll (connected : Bool) (direction amount : Int) : Option (List Report) :=
  if connected then wheelTurns .scroll direction amount else some []

/-- **`scrollHorizontal(direction, amount)`**: the scroll loop on the
horizontal wheel, while connected. -/
def scrollHorizontal (connected : Bool) (direction amount : Int) : Option (List Report) :=
  if connected then wheelTurns .hScroll direction amount else some []

end BLEMouseTo

namespace Goto

/-- **The state of the GOTO-dialect firmware**: the `mouseTo` object, and
its `correctionFactor` as the text of the last `FACTOR,` command, `none`
for the initial `1.0`. -/
structure Device where
  mouseTo : BLEMouseTo := {}
  correctionFactor : Option (List Char) := none
deriving DecidableEq

namespace Device

variable (factor : List Char → Int → Int)

/-- `(int)(v * correctionFactor)`: `v` at the initial factor, and
`factor t v` after `FACTOR,t`. -/
def scale (d : Device) : Int → Int :=
  match d.correctionFactor with
  | none => id
  | some t => factor t

/-- **`mouseTo.moveTo(x, y)`**: `setTarget`, then one call of `move()` and
`tries` more, stopping at the first that returns `true`. -/
def moveTo (d : Device) (connected : Bool) (tries : Nat) (x y : CInt) : Option (Device × List Report) :=
  (BLEMouseTo.moveLoopWith (d.scale factor) connected (tries + 1) (d.mouseTo.setTarget x y)).map
    fun r => ({ d with mouseTo := r.2.1 }, Report.moves r.2.2)

/-- `moveTo(x, y)`, then the reports `after` sends from where it ends. -/
def moveThen (d : Device) (connected : Bool) (tries : Nat) (x y : Int)
    (after : Option (List Report)) : Option (Device × List Report) := do
  let x ← CInt.checked x
  let y ← CInt.checked y
  let (d₁, sent) ← d.moveTo factor connected tries x y
  let rest ← after
  some (d₁, sent ++ rest)

/-- **What the call a command makes does**, while the phone is `connected`
and `moveTo` has time for `tries` calls of `move()` after its first: the
state after and the reports sent, `none` where C leaves the result
undefined. The fields a command reads are `int`s; `CInt.checked` gives them
that type back. -/
def perform (d : Device) (connected : Bool) (tries : Nat) : Action → Option (Device × List Report)
  | .moveTo x y => d.moveThen factor connected tries x y (some [])
  | .clickAt x y => d.moveThen factor connected tries x y (some (BLEMouseTo.click connected))
  | .scrollAt x y direction amount =>
    d.moveThen factor connected tries x y (BLEMouseTo.scroll connected direction amount)
  | .hscroll x y direction amount =>
    d.moveThen factor connected tries x y (BLEMouseTo.scrollHorizontal connected direction amount)
  | .home => some ({ d with mouseTo := (d.mouseTo.home connected).1 },
      Report.moves (d.mouseTo.home connected).2)
  | .setCurrentPosition x y => do
    let x ← CInt.checked x
    let y ← CInt.checked y
    some ({ d with mouseTo := d.mouseTo.setCurrentPosition x y }, [])
  | .setScreenResolution width height => do
    let width ← CInt.checked width
    let height ← CInt.checked height
    some ({ d with mouseTo := d.mouseTo.setScreenResolution width height }, [])
  | .setCorrectionFactor text => some ({ d with correctionFactor := some text }, [])
  | .showStatus => some (d, [])
  | .notConnected => some (d, [])
  | .invalidFormat _ => some (d, [])
  | .unknownCommand => some (d, [])
  | .nothing => some (d, [])

/-- **The firmware's loop over the lines it reads**: each line trimmed and
handled, with the connection state while it runs and the calls of `move()`
its `moveTo` has time for. The state after and the reports sent. -/
def run : Device → List (Bool × Nat × List Char) → Option (Device × List Report)
  | d, [] => some (d, [])
  | d, (connected, tries, line) :: cmds => do
    let (d₁, sent) ← d.perform factor connected tries (handleCommand connected (trim line))
    let (d₂, rest) ← run d₁ cmds
    some (d₂, sent ++ rest)

/-- **`loop()` over the bytes the firmware has received**: each pass that
finds bytes waiting reads a line, trims it and handles it (`loop`), with
the connection state of that pass and the calls of `move()` its `moveTo`
has time for. The first pass that finds nothing ends the run: no byte
arrives after `rx`. -/
def serve : Device → List (Bool × Nat) → List Char → Option (Device × List Report)
  | d, [], _ => some (d, [])
  | d, (connected, tries) :: passes, rx =>
    match loop connected rx with
    | (none, _) => some (d, [])
    | (some a, rest) => do
      let (d₁, sent) ← d.perform factor connected tries a
      let (d₂, more) ← serve d₁ passes rest
      some (d₂, sent ++ more)

end Device

/-! ## The fields a command reads are `int`s -/

theorem saturate_inInt (v : Int) : InInt (max longMin (min longMax v)) := by
  unfold InInt longMin longMax
  omega

/-- `atol` saturates into the `int` range. -/
theorem atol_inInt (s : List Char) : InInt (atol s) := by
  unfold atol
  split
  · decide
  · exact saturate_inInt _

/-- **The fields of an action fit an `int`.** -/
def Action.InRange : Action → Prop
  | .moveTo x y | .clickAt x y | .setCurrentPosition x y | .setScreenResolution x y => InInt x ∧ InInt y
  | .scrollAt x y direction amount | .hscroll x y direction amount =>
    InInt x ∧ InInt y ∧ InInt direction ∧ InInt amount
  | _ => True

theorem inRange_ite {c : Prop} [Decidable c] {a b : Action} (ha : a.InRange) (hb : b.InRange) :
    (if c then a else b).InRange := by
  split
  exacts [ha, hb]

theorem fieldPair_inInt {command : List Char} {x y : Int} (h : fieldPair command = some (x, y)) :
    InInt x ∧ InInt y := by
  unfold fieldPair at h
  dsimp only at h
  split_ifs at h
  cases h
  exact ⟨atol_inInt _, atol_inInt _⟩

theorem pairBranch_inRange (command : List Char) {act : Int → Int → Action} {otherwise : Action}
    (hact : ∀ x y, InInt x → InInt y → (act x y).InRange) (ho : otherwise.InRange) :
    (pairBranch command act otherwise).InRange := by
  unfold pairBranch
  split
  · next h => exact hact _ _ (fieldPair_inInt h).1 (fieldPair_inInt h).2
  · exact ho

theorem scrollBranch_inRange (command : List Char) {act : Int → Int → Int → Int → Action} (usage : String)
    (hact : ∀ x y d a, InInt x → InInt y → InInt d → InInt a → (act x y d a).InRange) :
    (scrollBranch command act usage).InRange := by
  unfold scrollBranch scrollFields
  split
  · next h =>
    dsimp only at h
    split_ifs at h <;> cases h <;>
      exact hact _ _ _ _ (atol_inInt _) (atol_inInt _) (atol_inInt _) (by first | exact atol_inInt _ | decide)
  · trivial

theorem scrollStepBranch_inRange (command : List Char) {direction : Int} (hd : InInt direction)
    (usage : String) : (scrollStepBranch command direction usage).InRange := by
  unfold scrollStepBranch scrollStepFields
  split
  · next h =>
    dsimp only at h
    split_ifs at h <;> cases h <;>
      exact ⟨atol_inInt _, atol_inInt _, hd, by first | exact atol_inInt _ | decide⟩
  · trivial

/-- **Every field `handleCommand` reads fits an `int`**: each is an `atol`
result, or a default. -/
theorem handleCommand_inRange (connected : Bool) (command : List Char) :
    (handleCommand connected command).InRange := by
  unfold handleCommand
  repeat' apply inRange_ite
  all_goals first
    | trivial
    | exact pairBranch_inRange _ (fun _ _ hx hy => ⟨hx, hy⟩) trivial
    | exact pairBranch_inRange _ (fun _ _ hx hy => ⟨hx, hy⟩) trivial
    | exact scrollBranch_inRange _ _ fun _ _ _ _ hx hy hd ha => ⟨hx, hy, hd, ha⟩
    | exact scrollStepBranch_inRange _ (by decide) _

end Goto

/-! ## Every move is inside the HID range -/

/-- A relative move `bleMouse.move` can carry: at most 127 either way on
each axis. -/
def InHid (mv : Int × Int) : Prop :=
  -127 ≤ mv.1 ∧ mv.1 ≤ 127 ∧ -127 ≤ mv.2 ∧ mv.2 ≤ 127

instance : DecidablePred InHid := fun _ => inferInstanceAs (Decidable (_ ∧ _))

/-- A list of reports whose every move is inside the HID range. -/
def MovesInHid (sent : List Report) : Prop :=
  ∀ x y, Report.move x y ∈ sent → InHid (x, y)

theorem movesInHid_append {s t : List Report} (hs : MovesInHid s) (ht : MovesInHid t) :
    MovesInHid (s ++ t) := fun x y h => (List.mem_append.1 h).elim (hs x y) (ht x y)

theorem movesInHid_moves {l : List (Int × Int)} (h : ∀ mv ∈ l, InHid mv) : MovesInHid (Report.moves l) :=
  fun _ _ hm => h _ (Report.mem_moves hm)

/-- Clicks and wheel turns carry no move. -/
theorem movesInHid_of_forall {sent : List Report} (h : ∀ r ∈ sent, ∀ x y, r ≠ .move x y) :
    MovesInHid sent := fun x y hm => absurd rfl (h _ hm x y)

namespace BLEMouseTo

variable {m m' : BLEMouseTo} {scale : Int → Int} {c r : Bool} {sent : List (Int × Int)}

/-- **What one call of `move()` does**: nothing; home, unhomed; report
`true` within 2 of the target, homed; or send one step constrained to the
HID range and track it. -/
theorem moveWith_cases (h : m.moveWith scale c = some (r, m', sent)) :
    (r = false ∧ m' = m ∧ sent = []) ∨
    (r = false ∧ m' = (m.home true).1 ∧ sent = (m.home true).2) ∨
    (r = true ∧ m' = m ∧ sent = [] ∧ m.isHomed = true ∧ m.Near) ∨
    (r = false ∧ ∃ (x y : CInt) (a b : Int), m' = { m with currentX := x, currentY := y } ∧
      sent = [(constrain a (-127) 127, constrain b (-127) 127)]) := by
  unfold moveWith at h
  split_ifs at h with h₁ h₂
  · cases h; exact .inl ⟨rfl, rfl, rfl⟩
  · obtain rfl : c = true := by simpa using h₁
    cases h; exact .inr (.inl ⟨rfl, rfl, rfl⟩)
  · simp only [Option.bind_eq_bind, Option.bind_eq_some] at h
    obtain ⟨dx, hdx, dy, hdy, ax, hax, ay, hay, h⟩ := h
    split_ifs at h with hn
    · cases h
      have := CInt.val_of_checked hdx
      have := CInt.val_of_checked hdy
      have := CInt.val_of_checked hax
      have := CInt.val_of_checked hay
      exact .inr (.inr (.inl ⟨rfl, rfl, rfl, by simpa using h₂, by unfold Near; omega⟩))
    · simp only [Option.bind_eq_some] at h
      obtain ⟨x, -, y, -, h⟩ := h
      cases h
      exact .inr (.inr (.inr ⟨rfl, x, y, _, _, rfl, rfl⟩))
    · cases h; exact .inl ⟨rfl, rfl, rfl⟩

/-- What one call of `move()` sends: nothing, the twenty homing moves, or
one step constrained to the HID range. -/
theorem moveWith_sent (h : m.moveWith scale c = some (r, m', sent)) :
    sent = [] ∨ sent = List.replicate 20 (-127, -127) ∨
      ∃ a b, sent = [(constrain a (-127) 127, constrain b (-127) 127)] := by
  rcases moveWith_cases h with ⟨-, -, rfl⟩ | ⟨-, -, rfl⟩ | ⟨-, -, rfl, -⟩ | ⟨-, _, _, a, b, -, rfl⟩
  exacts [.inl rfl, .inr (.inl rfl), .inl rfl, .inr (.inr ⟨a, b, rfl⟩)]

theorem moveWith_inHid (h : m.moveWith scale c = some (r, m', sent)) : ∀ mv ∈ sent, InHid mv := by
  rcases moveWith_sent h with rfl | rfl | ⟨a, b, rfl⟩
  · simp
  · intro mv hmv
    rw [List.eq_of_mem_replicate hmv]
    decide
  · intro mv hmv
    rw [List.mem_singleton.1 hmv]
    have ha := constrain_mem (by norm_num : (-127 : Int) ≤ 127) a
    have hb := constrain_mem (by norm_num : (-127 : Int) ≤ 127) b
    exact ⟨ha.1, ha.2, hb.1, hb.2⟩

theorem moveLoopWith_inHid :
    ∀ (tries : Nat) {m m' : BLEMouseTo} {r : Bool} {sent : List (Int × Int)},
      moveLoopWith scale c tries m = some (r, m', sent) → ∀ mv ∈ sent, InHid mv
  | 0, _, _, _, _, h => by cases h; simp
  | tries + 1, m, m', r, sent, h => by
    simp only [moveLoopWith, Option.bind_eq_bind, Option.bind_eq_some, Prod.exists] at h
    obtain ⟨reached, m₁, s₁, h₁, h⟩ := h
    split_ifs at h
    · cases h; exact moveWith_inHid h₁
    · simp only [Option.bind_eq_some, Option.some.injEq, Prod.exists, Prod.mk.injEq] at h
      obtain ⟨_, _, s₂, h₂, -, -, rfl⟩ := h
      intro mv hmv
      rcases List.mem_append.1 hmv with hmv | hmv
      exacts [moveWith_inHid h₁ mv hmv, moveLoopWith_inHid tries h₂ mv hmv]

end BLEMouseTo

namespace Goto

namespace Device

variable {factor : List Char → Int → Int}

theorem moveTo_inHid {d d' : Device} {c : Bool} {tries : Nat} {x y : CInt} {sent : List Report}
    (h : d.moveTo factor c tries x y = some (d', sent)) : MovesInHid sent := by
  obtain ⟨⟨_, _, s⟩, hs, he⟩ := Option.map_eq_some'.1 h
  cases he
  exact movesInHid_moves (BLEMouseTo.moveLoopWith_inHid (tries + 1) hs)

/-- What `moveTo` and the reports after it send: `moveTo`'s moves, then
the reports `after` gives. -/
theorem moveThen_eq_some {d d' : Device} {c : Bool} {tries : Nat} {x y : Int}
    {after : Option (List Report)} {sent : List Report}
    (h : d.moveThen factor c tries x y after = some (d', sent)) :
    ∃ x' y' d₁ s rest, d.moveTo factor c tries x' y' = some (d₁, s) ∧ after = some rest ∧
      sent = s ++ rest := by
  simp only [moveThen, Option.bind_eq_bind, Option.bind_eq_some, Prod.exists, Option.some.injEq,
    Prod.mk.injEq] at h
  obtain ⟨x', -, y', -, d₁, s, hm, rest, hr, -, rfl⟩ := h
  exact ⟨x', y', d₁, s, rest, hm, hr, rfl⟩

theorem moveThen_inHid {d d' : Device} {c : Bool} {tries : Nat} {x y : Int} {after : Option (List Report)}
    {sent : List Report} (h : d.moveThen factor c tries x y after = some (d', sent))
    (ha : ∀ rest, after = some rest → MovesInHid rest) : MovesInHid sent := by
  obtain ⟨_, _, _, _, rest, hm, hr, rfl⟩ := moveThen_eq_some h
  exact movesInHid_append (moveTo_inHid hm) (ha rest hr)

theorem wheelTurns_movesInHid {wheel : Int → Report} (hw : ∀ v x y, wheel v ≠ .move x y)
    {direction amount : Int} {rest : List Report} (h : wheelTurns wheel direction amount = some rest) :
    MovesInHid rest := by
  rw [wheelTurns_eq_some h]
  exact movesInHid_of_forall fun r hr x y => by rw [List.eq_of_mem_replicate hr]; exact hw _ x y

/-- **One call sends no move outside the HID range**, whatever the factor. -/
theorem perform_inHid {d d' : Device} {c : Bool} {tries : Nat} {a : Action} {sent : List Report}
    (h : d.perform factor c tries a = some (d', sent)) : MovesInHid sent := by
  cases a with
  | moveTo x y => exact moveThen_inHid h fun _ hr => by cases hr; simp [MovesInHid]
  | clickAt x y =>
    exact moveThen_inHid h fun _ hr => by
      cases hr; exact movesInHid_of_forall fun r hr x y => by
        unfold BLEMouseTo.click at hr; split_ifs at hr <;> simp_all
  | scrollAt x y direction amount =>
    refine moveThen_inHid h fun rest hr => ?_
    unfold BLEMouseTo.scroll at hr
    split_ifs at hr
    · exact wheelTurns_movesInHid (fun _ _ _ => Report.noConfusion) hr
    · cases hr; simp [MovesInHid]
  | hscroll x y direction amount =>
    refine moveThen_inHid h fun rest hr => ?_
    unfold BLEMouseTo.scrollHorizontal at hr
    split_ifs at hr
    · exact wheelTurns_movesInHid (fun _ _ _ => Report.noConfusion) hr
    · cases hr; simp [MovesInHid]
  | home =>
    cases h
    refine movesInHid_moves fun mv hmv => ?_
    unfold BLEMouseTo.home at hmv
    split_ifs at hmv
    · rw [List.eq_of_mem_replicate hmv]; decide
    · simp at hmv
  | setCurrentPosition x y =>
    simp only [perform, Option.bind_eq_bind, Option.bind_eq_some, Option.some.injEq, Prod.mk.injEq] at h
    obtain ⟨_, -, _, -, -, rfl⟩ := h
    simp [MovesInHid]
  | setScreenResolution width height =>
    simp only [perform, Option.bind_eq_bind, Option.bind_eq_some, Option.some.injEq, Prod.mk.injEq] at h
    obtain ⟨_, -, _, -, -, rfl⟩ := h
    simp [MovesInHid]
  | setCorrectionFactor text => cases h; simp [MovesInHid]
  | showStatus | notConnected | invalidFormat | unknownCommand | nothing => cases h; simp [MovesInHid]

/-- **Whatever lines arrive, and whatever correction factor they set, every
move the GOTO-dialect firmware sends is inside the HID range**, at most 127
either way on each axis. -/
theorem run_moves_bounded (factor : List Char → Int → Int) :
    ∀ (cmds : List (Bool × Nat × List Char)) {d d' : Device} {sent : List Report},
      d.run factor cmds = some (d', sent) →
      ∀ {x y : Int}, Report.move x y ∈ sent → -127 ≤ x ∧ x ≤ 127 ∧ -127 ≤ y ∧ y ≤ 127
  | [], _, _, _, h, _, _, hm => by cases h; simp at hm
  | (c, tries, line) :: cmds, d, d', sent, h, x, y, hm => by
    simp only [run, Option.bind_eq_bind, Option.bind_eq_some, Option.some.injEq, Prod.exists,
      Prod.mk.injEq] at h
    obtain ⟨_, s₁, h₁, _, s₂, h₂, -, rfl⟩ := h
    rcases List.mem_append.1 hm with hm | hm
    · exact perform_inHid h₁ x y hm
    · exact run_moves_bounded factor cmds h₂ hm

/-- `HOME` from the initial firmware, connected: twenty moves of
`(-127, -127)`, at the edge of the range. -/
theorem run_moves_bounded_home :
    ({} : Device).run (fun _ v => v) [(true, 0, "HOME".toList)] =
        some ({ mouseTo := ({} : BLEMouseTo).setCurrentPosition 0 0 },
          Report.moves (List.replicate 20 (-127, -127))) ∧
      Report.move (-127) (-127) ∈ Report.moves (List.replicate 20 (-127, -127)) ∧
      (-127 ≤ (-127 : Int) ∧ (-127 : Int) ≤ 127 ∧ -127 ≤ (-127 : Int) ∧ (-127 : Int) ≤ 127) :=
  have h : ({} : Device).run (fun _ v => v) [(true, 0, "HOME".toList)] =
      some ({ mouseTo := ({} : BLEMouseTo).setCurrentPosition 0 0 },
        Report.moves (List.replicate 20 (-127, -127))) := by decide
  have hm : Report.move (-127) (-127) ∈ Report.moves (List.replicate 20 (-127, -127)) := by decide
  ⟨h, hm, run_moves_bounded _ _ h hm⟩

end Device

end Goto

/-! ## The tracked position is the phone's pointer -/

/-- **`w` is the step `v` scaled toward zero**: on the same side of zero,
and no longer. `(int)(v * correctionFactor)` is such a step for a factor
between `0` and `1`. -/
def Shortens (v w : Int) : Prop :=
  min 0 v ≤ w ∧ w ≤ max 0 v

instance (v w : Int) : Decidable (Shortens v w) := inferInstanceAs (Decidable (_ ∧ _))

theorem Shortens.refl (v : Int) : Shortens v v := by
  unfold Shortens
  omega

theorem Shortens.trans {u v w : Int} (h₁ : Shortens u v) (h₂ : Shortens v w) : Shortens u w := by
  unfold Shortens at *
  omega

/-- Constraining to the HID range only shortens a step. -/
theorem Shortens.constrain_hid {v w : Int} (h : Shortens v w) : Shortens v (constrain w (-127) 127) := by
  unfold Shortens at h ⊢
  unfold constrain
  split_ifs <;> omega

/-- A step that shortens the way from `c` to `t` lands between them, so
inside any range that holds both. -/
theorem Shortens.add_mem {c t w hi : Int} (h : Shortens (t - c) w) (hc : 0 ≤ c ∧ c ≤ hi)
    (ht : 0 ≤ t ∧ t ≤ hi) : 0 ≤ c + w ∧ c + w ≤ hi := by
  unfold Shortens at h
  omega

/-- A shortened step covers part of the way and leaves the rest. -/
theorem Shortens.natAbs_sub {v w : Int} (h : Shortens v w) : (v - w).natAbs + w.natAbs = v.natAbs := by
  unfold Shortens at h
  omega

/-- A shortened step from an `int` toward an `int` lands on an `int`. -/
theorem Shortens.inInt_add {c t : CInt} {w : Int} (h : Shortens (t.val - c.val) w) : InInt (c.val + w) := by
  have := c.min_le; have := c.le_max; have := t.min_le; have := t.le_max
  unfold Shortens at h
  unfold InInt
  omega

/-- **A step of the walk stays a step toward the target**: the jump, scaled
by a factor that shortens, then constrained to the HID range. -/
theorem shortens_step {scale : Int → Int} (hsc : ∀ v, Shortens v (scale v)) {mj : Int} (hm : 0 ≤ mj)
    (d : Int) : Shortens d (constrain (scale (BLEMouseTo.jump mj d)) (-127) 127) :=
  (Shortens.trans (BLEMouseTo.jump_spec hm d).2.2 (hsc _)).constrain_hid

/-- **No step is lost 3 or more away from the target**, at a factor that
keeps a step of 3 or more and with a jump of at least 3: the jump is 3 or
more, and the HID range keeps a nonzero step nonzero. -/
theorem step_ne_zero {scale : Int → Int} (hnz : ∀ v, 3 ≤ v.natAbs → scale v ≠ 0) {mj : Int} (hm : 3 ≤ mj)
    {d : Int} (hd : 3 ≤ d.natAbs) : constrain (scale (BLEMouseTo.jump mj d)) (-127) 127 ≠ 0 := by
  have hj := (BLEMouseTo.jump_spec (by omega : 0 ≤ mj) d).2.2
  have hr := BLEMouseTo.natAbs_sub_jump (by omega : 0 ≤ mj) d
  have hs := hnz (BLEMouseTo.jump mj d) (by omega)
  rcases constrain_cases (scale (BLEMouseTo.jump mj d)) (-127) 127 with h | h | h <;> rw [h]
  exacts [by decide, by decide, hs]

/-! ### Counting the calls of `move()` -/

/-- **The calls of `move()` one axis still needs**, `n` away from the
target, with a full jump of `mj` and a factor that sends at least `s` of
it: one per `s` beyond the last jump, then at most one per unit of that
jump; none within 2. -/
def axisCalls (mj s n : Nat) : Nat :=
  if n ≤ 2 then 0 else (n - mj) / s + min n mj

theorem axisCalls_eq_zero_iff {mj s n : Nat} (hmj : 1 ≤ mj) : axisCalls mj s n = 0 ↔ n ≤ 2 := by
  unfold axisCalls
  split_ifs with h
  · exact iff_of_true rfl h
  · exact iff_of_false (by generalize (n - mj) / s = a; omega) h

theorem axisCalls_mono (mj s : Nat) {n n' : Nat} (h : n ≤ n') : axisCalls mj s n ≤ axisCalls mj s n' := by
  have := Nat.div_le_div_right (c := s) (Nat.sub_le_sub_right h mj)
  unfold axisCalls
  generalize (n - mj) / s = a at *
  generalize (n' - mj) / s = b at *
  split_ifs <;> omega

/-- Where `k` steps of `s` cover the distance: at most `k` calls and the
last jump's. -/
theorem axisCalls_le {mj s n k : Nat} (h : n ≤ k * s) : axisCalls mj s n ≤ k + mj := by
  have : (n - mj) / s ≤ k := Nat.div_le_of_le_mul (by rw [Nat.mul_comm]; omega)
  unfold axisCalls
  split_ifs <;> omega

/-- **A step of `t` from `n` away saves a call**: `t` is at least 1, and at
least `s` beyond the last jump. Beyond it, the step takes a whole `s` off;
within it, one call per unit covers the rest. -/
theorem axisCalls_sub_add_one {mj s n t : Nat} (hmj : 1 ≤ mj) (hs : 0 < s) (hn : 3 ≤ n) (ht : 1 ≤ t)
    (htn : t ≤ n) (hfar : mj < n → s ≤ t) : axisCalls mj s (n - t) + 1 ≤ axisCalls mj s n := by
  have hdiv : mj < n - t → (n - t - mj) / s + 1 ≤ (n - mj) / s := fun h => by
    rw [← Nat.add_div_right _ hs]
    exact Nat.div_le_div_right (by have := hfar (by omega); omega)
  have h0 : n - t ≤ mj → (n - t - mj) / s = 0 := fun h => by
    rw [Nat.sub_eq_zero_of_le h, Nat.zero_div]
  have h1 : s ≤ n - mj → 1 ≤ (n - mj) / s := fun h => Nat.div_pos h hs
  unfold axisCalls
  generalize (n - t - mj) / s = a at *
  generalize (n - mj) / s = b at *
  split_ifs <;> omega

/-- **What one step does to the calls an axis needs**, at a factor that
shortens a step, keeps one of 3 or more and sends at least `s` of a full
jump: 3 or more away, the step saves a call; within 2, none are left. -/
theorem axisCalls_step {scale : Int → Int} (hsc : ∀ v, Shortens v (scale v))
    (hnz : ∀ v, 3 ≤ v.natAbs → scale v ≠ 0) {mj : Int} (h3 : 3 ≤ mj) (hle : mj ≤ 127) {s : Nat}
    (hs0 : 0 < s) (hs : ∀ v, v.natAbs = mj.toNat → s ≤ (scale v).natAbs) (d : Int) :
    axisCalls mj.toNat s (d - constrain (scale (BLEMouseTo.jump mj d)) (-127) 127).natAbs + 1 ≤
        axisCalls mj.toNat s d.natAbs ∨
      axisCalls mj.toNat s (d - constrain (scale (BLEMouseTo.jump mj d)) (-127) 127).natAbs = 0 := by
  have hw := (shortens_step hsc (by omega : 0 ≤ mj) d).natAbs_sub
  by_cases hd : 3 ≤ d.natAbs
  · refine .inl ?_
    rw [show (d - constrain (scale (BLEMouseTo.jump mj d)) (-127) 127).natAbs =
      d.natAbs - (constrain (scale (BLEMouseTo.jump mj d)) (-127) 127).natAbs by omega]
    refine axisCalls_sub_add_one (by omega) hs0 hd (Int.natAbs_pos.2 (step_ne_zero hnz h3 hd)) (by omega)
      fun hfar => ?_
    -- beyond the last jump `move()` takes a full jump, which the HID range leaves whole
    have hj : (BLEMouseTo.jump mj d).natAbs = mj.toNat := by unfold BLEMouseTo.jump; split_ifs <;> omega
    have hsj := hsc (BLEMouseTo.jump mj d)
    unfold Shortens at hsj
    rw [constrain_of_mem (by omega) (by omega)]
    exact hs _ hj
  · exact .inr ((axisCalls_eq_zero_iff (by omega)).2 (by omega))

namespace BLEMouseTo

/-- **The tracked position is the pointer `p`**, once homed. -/
def At (m : BLEMouseTo) (p : Int × Int) : Prop :=
  m.isHomed = true → m.currentX.val = p.1 ∧ m.currentY.val = p.2

/-- The target lies on the screen `S`. -/
def TargetOn (S : Screen) (m : BLEMouseTo) : Prop :=
  0 ≤ m.targetX.val ∧ m.targetX.val ≤ S.width ∧ 0 ≤ m.targetY.val ∧ m.targetY.val ≤ S.height

/-- What calls of `move()` leave alone: the target, the screen and the jump
size. -/
def Keeps (m' m : BLEMouseTo) : Prop :=
  m'.targetX = m.targetX ∧ m'.targetY = m.targetY ∧ m'.screenWidth = m.screenWidth ∧
    m'.screenHeight = m.screenHeight ∧ m'.maxJumpDistance = m.maxJumpDistance

theorem Keeps.refl (m : BLEMouseTo) : m.Keeps m :=
  ⟨rfl, rfl, rfl, rfl, rfl⟩

theorem Keeps.trans {m₁ m₂ m₃ : BLEMouseTo} (h₂ : m₃.Keeps m₂) (h₁ : m₂.Keeps m₁) : m₃.Keeps m₁ :=
  ⟨h₂.1.trans h₁.1, h₂.2.1.trans h₁.2.1, h₂.2.2.1.trans h₁.2.2.1, h₂.2.2.2.1.trans h₁.2.2.2.1,
    h₂.2.2.2.2.trans h₁.2.2.2.2⟩

theorem TargetOn.of_keeps {S : Screen} {m m' : BLEMouseTo} (h : m.TargetOn S) (hk : m'.Keeps m) :
    m'.TargetOn S := by
  unfold TargetOn
  rw [hk.1, hk.2.1]
  exact h

/-- **The calls of `move()` both axes still need**, at a factor that sends
at least `s` of a full jump: the axes step together. -/
def calls (s : Nat) (m : BLEMouseTo) : Nat :=
  max (axisCalls m.maxJumpDistance.toNat s (m.targetX.val - m.currentX.val).natAbs)
    (axisCalls m.maxJumpDistance.toNat s (m.targetY.val - m.currentY.val).natAbs)

variable {m m' : BLEMouseTo} {scale : Int → Int} {c r : Bool} {sent : List (Int × Int)}

/-- A call of `move()` changes only the tracked position and the homing. -/
theorem moveWith_keeps (h : m.moveWith scale c = some (r, m', sent)) : m'.Keeps m := by
  rcases moveWith_cases h with ⟨-, rfl, -⟩ | ⟨-, rfl, -⟩ | ⟨-, rfl, -⟩ | ⟨-, _, _, _, _, rfl, -⟩
  exacts [Keeps.refl _, ⟨rfl, rfl, rfl, rfl, rfl⟩, Keeps.refl _, ⟨rfl, rfl, rfl, rfl, rfl⟩]

/-- Homed, with both distances fitting, `move()` gets past its checks. -/
theorem moveWith_homed (hh : m.isHomed = true) (hf : m.Fits) :
    m.moveWith scale true =
      if (m.targetX.val - m.currentX.val).natAbs ≤ (2 : Int) ∧
          (m.targetY.val - m.currentY.val).natAbs ≤ (2 : Int) then some (true, m, [])
      else
        if constrain (scale (jump m.maxJumpDistance (m.targetX.val - m.currentX.val))) (-127) 127 ≠ 0 ∨
            constrain (scale (jump m.maxJumpDistance (m.targetY.val - m.currentY.val))) (-127) 127 ≠ 0 then do
          let x ← CInt.checked (m.currentX.val +
            constrain (scale (jump m.maxJumpDistance (m.targetX.val - m.currentX.val))) (-127) 127)
          let y ← CInt.checked (m.currentY.val +
            constrain (scale (jump m.maxJumpDistance (m.targetY.val - m.currentY.val))) (-127) 127)
          some (false, { m with currentX := x, currentY := y },
            [(constrain (scale (jump m.maxJumpDistance (m.targetX.val - m.currentX.val))) (-127) 127,
              constrain (scale (jump m.maxJumpDistance (m.targetY.val - m.currentY.val))) (-127) 127)])
        else some (false, m, []) := by
  obtain ⟨fx, fy⟩ := hf
  have cx : InInt (m.targetX.val - m.currentX.val) := by unfold InInt; omega
  have cy : InInt (m.targetY.val - m.currentY.val) := by unfold InInt; omega
  have ax : InInt (m.targetX.val - m.currentX.val).natAbs := by unfold InInt; omega
  have ay : InInt (m.targetY.val - m.currentY.val).natAbs := by unfold InInt; omega
  rw [moveWith, if_neg (by simp), if_neg (by simp [hh])]
  simp only [CInt.checked_of_inInt cx, CInt.checked_of_inInt cy, CInt.checked_of_inInt ax,
    CInt.checked_of_inInt ay, Option.bind_eq_bind, Option.some_bind]

/-- Within 2 of the target, `move()` returns `true` and changes nothing. -/
theorem moveWith_near (hh : m.isHomed = true) (hn : m.Near) : m.moveWith scale true = some (true, m, []) := by
  unfold Near at hn
  rw [moveWith_homed hh (by unfold Fits; omega), if_pos (by omega)]

section

variable {S : Screen} (hS : S.width ≤ 2540 ∧ S.height ≤ 2540)
include hS

/-- **One call of `move()` moves the pointer as it moves the tracked
position.** On a phone whose screen the homing covers (twenty moves of
127), from a pointer the firmware tracks, toward a target on the screen,
with a correction factor that only shortens a step: homing pins the pointer
in the corner the firmware then takes as `(0, 0)`, and a step lands between
the pointer and the target, so the screen's edges never cut it. -/
theorem moveWith_tracks (hsc : ∀ v, Shortens v (scale v)) {p : Int × Int} (hp : S.OnScreen p) (hat : m.At p)
    (hto : m.TargetOn S) (c : Bool) :
    ∃ r m' sent, m.moveWith scale c = some (r, m', sent) ∧ m'.Keeps m ∧
      m'.At (S.pointer p (Report.moves sent)) := by
  cases c
  · exact ⟨false, m, [], rfl, Keeps.refl m, hat⟩
  by_cases hh : m.isHomed = true
  · obtain ⟨hx, hy⟩ := hat hh
    obtain ⟨hp₁, hp₂, hp₃, hp₄⟩ := hp
    obtain ⟨ht₁, ht₂, ht₃, ht₄⟩ := hto
    have hj : 0 ≤ m.maxJumpDistance := by have := m.jump_pos; omega
    have sx := shortens_step hsc hj (m.targetX.val - m.currentX.val)
    have sy := shortens_step hsc hj (m.targetY.val - m.currentY.val)
    have bx := sx.add_mem ⟨hx ▸ hp₁, hx ▸ hp₂⟩ ⟨ht₁, ht₂⟩
    have by' := sy.add_mem ⟨hy ▸ hp₃, hy ▸ hp₄⟩ ⟨ht₃, ht₄⟩
    rw [moveWith_homed hh (by unfold Fits; omega)]
    split_ifs
    · exact ⟨true, m, [], rfl, Keeps.refl m, fun _ => ⟨hx, hy⟩⟩
    · simp only [CInt.checked_of_inInt sx.inInt_add, CInt.checked_of_inInt sy.inInt_add, Option.some_bind]
      refine ⟨false, _, _, rfl, ⟨rfl, rfl, rfl, rfl, rfl⟩, fun _ => ?_⟩
      rw [Report.moves, List.map_singleton, Screen.pointer, Screen.pointer, Screen.step,
        ← hx, ← hy, slide_of_mem bx.1 bx.2, slide_of_mem by'.1 by'.2]
      exact ⟨rfl, rfl⟩
    · exact ⟨false, m, [], rfl, Keeps.refl m, hat⟩
  · have hm : m.moveWith scale true = some (false, (m.home true).1, (m.home true).2) := by
      simp [moveWith, hh]
    refine ⟨false, _, _, hm, ⟨rfl, rfl, rfl, rfl, rfl⟩, fun _ => ?_⟩
    simp only [home, ↓reduceIte]
    rw [S.pointer_homing hp (n := 20) (c := 127) (by norm_num) (by omega) (by omega)]
    exact ⟨rfl, rfl⟩

/-- **Calls of `move()` keep the tracked position on the pointer**, however
many there are. -/
theorem moveLoopWith_tracks (hsc : ∀ v, Shortens v (scale v)) (c : Bool) :
    ∀ (n : Nat) {m : BLEMouseTo} {p : Int × Int}, S.OnScreen p → m.At p → m.TargetOn S →
      ∃ r m' sent, moveLoopWith scale c n m = some (r, m', sent) ∧ m'.Keeps m ∧
        m'.At (S.pointer p (Report.moves sent))
  | 0, m, _, _, hat, _ => ⟨false, m, [], rfl, Keeps.refl m, hat⟩
  | n + 1, m, p, hp, hat, hto => by
    obtain ⟨r, m₁, s₁, h₁, hk₁, hat₁⟩ := moveWith_tracks hS hsc hp hat hto c
    cases r
    · obtain ⟨r, m', s₂, h₂, hk₂, hat₂⟩ :=
        moveLoopWith_tracks hsc c n (S.onScreen_pointer hp _) hat₁ (hto.of_keeps hk₁)
      refine ⟨r, m', s₁ ++ s₂, by rw [moveLoopWith_of_false h₁, h₂]; rfl, hk₂.trans hk₁, ?_⟩
      rwa [Report.moves_append, S.pointer_append]
    · exact ⟨true, m₁, s₁, by simp [moveLoopWith, h₁], hk₁, hat₁⟩

/-! ### Reaching the target -/

omit hS in
/-- A call of `move()` returns `true` only homed, within 2 of the target,
changing nothing. -/
theorem moveWith_true (h : m.moveWith scale c = some (true, m', sent)) : m' = m ∧ m.isHomed = true ∧ m.Near := by
  rcases moveWith_cases h with ⟨h, -⟩ | ⟨h, -⟩ | ⟨-, h, -, hh, hn⟩ | ⟨h, -⟩
  · cases h
  · cases h
  · exact ⟨h, hh, hn⟩
  · cases h

omit hS in
/-- **Calls of `move()` that report success end homed, within 2 of the
target**, whatever the factor. -/
theorem moveLoopWith_true : ∀ {n : Nat} {m m' : BLEMouseTo} {sent : List (Int × Int)},
    moveLoopWith scale c n m = some (true, m', sent) → m'.isHomed = true ∧ m'.Near
  | 0, _, _, _, h => by cases h
  | n + 1, m, m', sent, h => by
    simp only [moveLoopWith, Option.bind_eq_bind, Option.bind_eq_some, Prod.exists] at h
    obtain ⟨r, m₁, s₁, h₁, h⟩ := h
    split_ifs at h with hr
    · cases h
      obtain ⟨rfl, hh, hn⟩ := moveWith_true (hr ▸ h₁)
      exact ⟨hh, hn⟩
    · simp only [Option.bind_eq_some, Option.some.injEq, Prod.exists, Prod.mk.injEq] at h
      obtain ⟨_, _, _, h₂, rfl, rfl, -⟩ := h
      exact moveLoopWith_true h₂

omit hS in
/-- More calls change nothing once one has returned `true`. -/
theorem moveLoop_add : ∀ {n : Nat} {m m' : BLEMouseTo} {sent : List (Int × Int)},
    moveLoop c n m = some (true, m', sent) → ∀ j, moveLoop c (n + j) m = some (true, m', sent)
  | 0, _, _, _, h => by cases h
  | n + 1, m, m', sent, h => fun j => by
    rw [Nat.add_right_comm]
    simp only [moveLoop, Option.bind_eq_bind, Option.bind_eq_some, Prod.exists] at h
    obtain ⟨r, m₁, s₁, h₁, h⟩ := h
    cases r
    · simp only [Bool.false_eq_true, if_false, Option.bind_eq_some, Option.some.injEq, Prod.exists,
        Prod.mk.injEq] at h
      obtain ⟨_, _, s₂, h₂, rfl, rfl, rfl⟩ := h
      rw [moveLoop_of_false h₁, moveLoop_add h₂ j]
      rfl
    · simp only [if_true, Option.some.injEq, Prod.mk.injEq] at h
      obtain ⟨-, rfl, rfl⟩ := h
      exact moveLoop_of_true h₁

/-- **Calls of `move()` reach a target on the screen** from a tracked
pointer, within two calls more than the jumps that cover the screen: one
call homes, if needed, and `k` jumps then cover any distance on the
screen. -/
theorem moveLoop_reaches {p : Int × Int} (hp : S.OnScreen p) (hat : m.At p) (hto : m.TargetOn S) {k : Nat}
    (hk : (max S.width S.height).toNat ≤ k * m.maxJumpDistance.toNat) :
    ∃ m' sent, moveLoop true (k + 2) m = some (true, m', sent) := by
  obtain ⟨hp₁, hp₂, hp₃, hp₄⟩ := hp
  obtain ⟨ht₁, ht₂, ht₃, ht₄⟩ := hto
  by_cases hh : m.isHomed = true
  · obtain ⟨hx, hy⟩ := hat hh
    obtain ⟨m', sent, h, -⟩ := moveLoop_walk k m hh (by unfold Fits; omega) (by omega)
    exact ⟨m', sent, moveLoop_add h 1⟩
  · have hm : m.move true = some (false, (m.home true).1, (m.home true).2) := by simp [move, hh]
    obtain ⟨m', sent, h, -⟩ := moveLoop_walk k (m.home true).1 (by simp [home])
      (by simp only [home, ↓reduceIte, Fits, CInt.val_zero, sub_zero]; omega)
      (by simp only [home, ↓reduceIte, CInt.val_zero, sub_zero]; omega)
    exact ⟨m', _, by rw [moveLoop_of_false hm, h]; rfl⟩

/-! ### Reaching the target at a correction factor -/

omit hS in
/-- No calls are left exactly within 2 of the target. -/
theorem calls_eq_zero_iff {s : Nat} : m.calls s = 0 ↔ m.Near := by
  have hx := axisCalls_eq_zero_iff (s := s) (n := (m.targetX.val - m.currentX.val).natAbs)
    (by have := m.jump_pos; omega : 1 ≤ m.maxJumpDistance.toNat)
  have hy := axisCalls_eq_zero_iff (s := s) (n := (m.targetY.val - m.currentY.val).natAbs)
    (by have := m.jump_pos; omega : 1 ≤ m.maxJumpDistance.toNat)
  unfold calls Near
  omega

omit hS in
/-- Two points of `[0, hi]` are at most `hi` apart. -/
theorem natAbs_sub_le_toNat {a b hi : Int} (ha : 0 ≤ a) (ha' : a ≤ hi) (hb : 0 ≤ b) (hb' : b ≤ hi) :
    (a - b).natAbs ≤ hi.toNat := by
  omega

omit hS in
/-- With both distances at most `N`, and `k` steps of `s` covering `N`: at
most `k` calls and the last jump's. -/
theorem calls_le {s k N : Nat} (hk : N ≤ k * s) (hx : (m.targetX.val - m.currentX.val).natAbs ≤ N)
    (hy : (m.targetY.val - m.currentY.val).natAbs ≤ N) : m.calls s ≤ k + m.maxJumpDistance.toNat :=
  max_le ((axisCalls_mono _ _ hx).trans (axisCalls_le hk)) ((axisCalls_mono _ _ hy).trans (axisCalls_le hk))

section

variable {s : Nat} (hsc : ∀ v, Shortens v (scale v)) (hnz : ∀ v, 3 ≤ v.natAbs → scale v ≠ 0) (hs0 : 0 < s)
include hsc hnz hs0

omit hS in
/-- **A call of `move()` away from the target saves a call**, homed and
with both distances fitting, at a factor that shortens a step, keeps one of
3 or more and sends at least `s` of a full jump, with a jump of at least 3:
it sends a step, and the calls both axes still need, `calls`, fall. -/
theorem moveWith_closer (h3 : 3 ≤ m.maxJumpDistance)
    (hs : ∀ v, v.natAbs = m.maxJumpDistance.toNat → s ≤ (scale v).natAbs)
    (hh : m.isHomed = true) (hf : m.Fits) (hn : ¬ m.Near) :
    ∃ m' sent, m.moveWith scale true = some (false, m', sent) ∧ m'.isHomed = true ∧ m'.Fits ∧
      m'.Keeps m ∧ m'.calls s + 1 ≤ m.calls s := by
  have sx := shortens_step hsc (by omega : 0 ≤ m.maxJumpDistance) (m.targetX.val - m.currentX.val)
  have sy := shortens_step hsc (by omega : 0 ≤ m.maxJumpDistance) (m.targetY.val - m.currentY.val)
  have hmove : constrain (scale (jump m.maxJumpDistance (m.targetX.val - m.currentX.val))) (-127) 127 ≠ 0 ∨
      constrain (scale (jump m.maxJumpDistance (m.targetY.val - m.currentY.val))) (-127) 127 ≠ 0 := by
    unfold Near at hn
    by_cases hx : 3 ≤ (m.targetX.val - m.currentX.val).natAbs
    · exact .inl (step_ne_zero hnz h3 hx)
    · exact .inr (step_ne_zero hnz h3 (by omega))
  rw [moveWith_homed hh hf, if_neg (by unfold Near at hn; exact_mod_cast hn), if_pos hmove]
  simp only [CInt.checked_of_inInt sx.inInt_add, CInt.checked_of_inInt sy.inInt_add, Option.some_bind]
  have ex := sx.natAbs_sub
  have ey := sy.natAbs_sub
  have ax := axisCalls_step hsc hnz h3 m.jump_le hs0 hs (m.targetX.val - m.currentX.val)
  have ay := axisCalls_step hsc hnz h3 m.jump_le hs0 hs (m.targetY.val - m.currentY.val)
  have hpos := (calls_eq_zero_iff (m := m) (s := s)).not.2 hn
  refine ⟨_, _, rfl, hh, ?_, ⟨rfl, rfl, rfl, rfl, rfl⟩, ?_⟩
  · unfold Fits
    dsimp only
    rw [← Int.sub_sub, ← Int.sub_sub]
    exact ⟨(Nat.le_add_right _ _).trans (ex.le.trans hf.1), (Nat.le_add_right _ _).trans (ey.le.trans hf.2)⟩
  · unfold calls at hpos ⊢
    dsimp only
    rw [← Int.sub_sub, ← Int.sub_sub]
    omega

omit hS in
/-- **Calls of `move()` reach the target** at such a factor: one call for
each call `calls` counts, and one that reports it. -/
theorem moveLoopWith_reaches :
    ∀ (n : Nat) {m : BLEMouseTo}, 3 ≤ m.maxJumpDistance →
      (∀ v, v.natAbs = m.maxJumpDistance.toNat → s ≤ (scale v).natAbs) → m.isHomed = true → m.Fits →
      m.calls s ≤ n → ∃ m' sent, moveLoopWith scale true (n + 1) m = some (true, m', sent)
  | 0, m, _, _, hh, _, hc =>
    ⟨m, [], by simp [moveLoopWith, moveWith_near hh (calls_eq_zero_iff.1 (Nat.le_zero.1 hc))]⟩
  | n + 1, m, h3, hs, hh, hf, hc => by
    by_cases hn : m.Near
    · exact ⟨m, [], by simp [moveLoopWith, moveWith_near hh hn]⟩
    obtain ⟨m', sent, h, hh', hf', hk, hlt⟩ := moveWith_closer hsc hnz hs0 h3 hs hh hf hn
    obtain ⟨m'', sent', h'⟩ := moveLoopWith_reaches n (by rw [hk.2.2.2.2]; exact h3)
      (by rw [hk.2.2.2.2]; exact hs) hh' hf' (by omega)
    exact ⟨m'', sent ++ sent', by rw [moveLoopWith_of_false h, h']; rfl⟩

/-- **Calls of `move()` reach a target on the screen** at such a factor,
from a tracked pointer: one call homes, if needed; `k` steps of `s` cover
any distance on the screen, and the last jump takes at most one call per
unit of it. -/
theorem moveLoopWith_reaches_onScreen {p : Int × Int} (hp : S.OnScreen p) (hat : m.At p)
    (hto : m.TargetOn S) (h3 : 3 ≤ m.maxJumpDistance)
    (hs : ∀ v, v.natAbs = m.maxJumpDistance.toNat → s ≤ (scale v).natAbs) {k : Nat}
    (hk : (max S.width S.height).toNat ≤ k * s) {n : Nat} (hn : k + m.maxJumpDistance.toNat + 1 ≤ n) :
    ∃ m' sent, moveLoopWith scale true (n + 1) m = some (true, m', sent) := by
  obtain ⟨hp₁, hp₂, hp₃, hp₄⟩ := hp
  obtain ⟨ht₁, ht₂, ht₃, ht₄⟩ := hto
  have hW := le_max_left S.width S.height
  have hH := le_max_right S.width S.height
  have hN : (max S.width S.height).toNat ≤ 2147483647 := by omega
  by_cases hh : m.isHomed = true
  · obtain ⟨hx, hy⟩ := hat hh
    have dx := natAbs_sub_le_toNat ht₁ (ht₂.trans hW) (hx ▸ hp₁) ((hx ▸ hp₂).trans hW)
    have dy := natAbs_sub_le_toNat ht₃ (ht₄.trans hH) (hy ▸ hp₃) ((hy ▸ hp₄).trans hH)
    exact moveLoopWith_reaches hsc hnz hs0 n h3 hs hh ⟨dx.trans hN, dy.trans hN⟩
      ((calls_le hk dx dy).trans (Nat.le_of_succ_le hn))
  · -- one call homes: the firmware then holds `(0, 0)`, so each distance is a target coordinate
    obtain ⟨n, rfl⟩ : ∃ j, n = j + 1 := ⟨n - 1, by omega⟩
    have hm : m.moveWith scale true =
        some (false, { m with currentX := 0, currentY := 0, isHomed := true }, List.replicate 20 (-127, -127)) := by
      simp [moveWith, hh, home]
    have dx := natAbs_sub_le_toNat (b := 0) ht₁ (ht₂.trans hW) le_rfl (S.width_nonneg.trans hW)
    have dy := natAbs_sub_le_toNat (b := 0) ht₃ (ht₄.trans hH) le_rfl (S.height_nonneg.trans hH)
    obtain ⟨m', sent, h⟩ := moveLoopWith_reaches hsc hnz hs0 n
      (m := { m with currentX := 0, currentY := 0, isHomed := true }) h3 hs rfl ⟨dx.trans hN, dy.trans hN⟩
      ((calls_le hk dx dy).trans (Nat.le_of_succ_le_succ hn))
    exact ⟨m', _, by rw [moveLoopWith_of_false hm, h]; rfl⟩

end

end

end BLEMouseTo

namespace Goto

/-- **A command that keeps the firmware tracking the pointer** on `S`: not
`CALIBRATE,`, whose position the firmware takes on trust; a `FACTOR,`
whose factor only shortens a step; a screen inside the phone's; and scrolls
whose reply is defined. -/
def Action.KeepsTrack (factor : List Char → Int → Int) (S : Screen) : Action → Prop
  | .scrollAt _ _ direction amount | .hscroll _ _ direction amount =>
    (direction * amount).natAbs ≤ 2147483647
  | .setCurrentPosition _ _ => False
  | .setScreenResolution width height => 0 ≤ width ∧ width ≤ S.width ∧ 0 ≤ height ∧ height ≤ S.height
  | .setCorrectionFactor text => ∀ v, Shortens v (factor text v)
  | _ => True

namespace Device

/-- **The firmware tracks the phone's pointer** `p` on the screen `S`: once
homed, its position is the pointer; its screen lies inside the phone's; and
its correction factor only shortens a step. -/
structure Tracks (factor : List Char → Int → Int) (S : Screen) (d : Device) (p : Int × Int) : Prop where
  at_pointer : d.mouseTo.At p
  width : 0 ≤ d.mouseTo.screenWidth.val ∧ d.mouseTo.screenWidth.val ≤ S.width
  height : 0 ≤ d.mouseTo.screenHeight.val ∧ d.mouseTo.screenHeight.val ≤ S.height
  shortens : ∀ v, Shortens v (d.scale factor v)

variable (factor : List Char → Int → Int) {S : Screen}

/-- A target set on the firmware's screen lies on the phone's. -/
theorem Tracks.targetOn {d : Device} {p : Int × Int} (ht : d.Tracks factor S p) (x y : CInt) :
    (d.mouseTo.setTarget x y).TargetOn S := by
  have hx := constrain_mem ht.width.1 x.val
  have hy := constrain_mem ht.height.1 y.val
  exact ⟨hx.1, hx.2.trans ht.width.2, hy.1, hy.2.trans ht.height.2⟩

/-- A click leaves the pointer where it is. -/
theorem pointer_click (c : Bool) (q : Int × Int) : S.pointer q (BLEMouseTo.click c) = q := by
  unfold BLEMouseTo.click
  split <;> rfl

/-- The initial firmware tracks any pointer on a screen at least its own
390 × 844: it is not homed yet, and its factor is `1.0`. -/
theorem tracks_initial (hw : 390 ≤ S.width) (hh : 844 ≤ S.height) (p : Int × Int) :
    ({} : Device).Tracks factor S p :=
  ⟨fun h => absurd h (by decide), ⟨by decide, hw⟩, ⟨by decide, hh⟩, Shortens.refl⟩

section

variable (hS : S.width ≤ 2540 ∧ S.height ≤ 2540)
include hS

/-- **`moveTo` keeps the firmware tracking the pointer**, and the phone
registers nothing. -/
theorem moveTo_tracks {d : Device} {p : Int × Int} (ht : d.Tracks factor S p) (hp : S.OnScreen p) (c : Bool)
    (tries : Nat) (x y : CInt) :
    ∃ d' sent, d.moveTo factor c tries x y = some (d', sent) ∧ d'.Tracks factor S (S.pointer p sent) ∧
      S.seen p sent = [] := by
  obtain ⟨r, m', s, h, hk, hat⟩ :=
    BLEMouseTo.moveLoopWith_tracks hS ht.shortens c (tries + 1) (m := d.mouseTo.setTarget x y) hp
      ht.at_pointer (ht.targetOn factor x y)
  refine ⟨{ d with mouseTo := m' }, Report.moves s, by rw [moveTo, h]; rfl,
    ⟨hat, ?_, ?_, ht.shortens⟩, S.seen_moves _ _⟩
  · rw [hk.2.2.1]; exact ht.width
  · rw [hk.2.2.2.1]; exact ht.height

/-- `moveTo`, then reports that leave the pointer where it is. -/
theorem moveThen_tracks {d : Device} {p : Int × Int} (ht : d.Tracks factor S p) (hp : S.OnScreen p) (c : Bool)
    (tries : Nat) {x y : Int} (hx : InInt x) (hy : InInt y) {rest : List Report}
    (hrest : ∀ q, S.pointer q rest = q) :
    ∃ d' sent, d.moveThen factor c tries x y (some rest) = some (d', sent) ∧
      d'.Tracks factor S (S.pointer p sent) := by
  obtain ⟨d', sent, h, ht', -⟩ := moveTo_tracks factor hS ht hp c tries ⟨x, hx.1, hx.2⟩ ⟨y, hy.1, hy.2⟩
  refine ⟨d', sent ++ rest, ?_, by rwa [S.pointer_append, hrest]⟩
  simp [moveThen, CInt.checked_of_inInt hx, CInt.checked_of_inInt hy, h]

/-- **A `HOME` handled while connected puts the firmware back on the
pointer, from any state**: it pins the pointer in the corner the firmware
then takes as `(0, 0)`, whatever position it held before. -/
theorem perform_home_tracks {d : Device} {p : Int × Int}
    (hw : 0 ≤ d.mouseTo.screenWidth.val ∧ d.mouseTo.screenWidth.val ≤ S.width)
    (hh : 0 ≤ d.mouseTo.screenHeight.val ∧ d.mouseTo.screenHeight.val ≤ S.height)
    (hf : ∀ v, Shortens v (d.scale factor v)) (hp : S.OnScreen p) (tries : Nat) :
    ∃ d' sent, d.perform factor true tries .home = some (d', sent) ∧ d'.Tracks factor S (S.pointer p sent) := by
  refine ⟨_, _, rfl, ⟨fun _ => ?_, hw, hh, hf⟩⟩
  simp only [BLEMouseTo.home, ↓reduceIte]
  rw [S.pointer_homing hp (n := 20) (c := 127) (by norm_num) (by omega) (by omega)]
  exact ⟨rfl, rfl⟩

/-- **One command that keeps track keeps the firmware tracking the
pointer**, and its result is defined. -/
theorem perform_tracks {d : Device} {p : Int × Int} (ht : d.Tracks factor S p) (hp : S.OnScreen p) (c : Bool)
    (tries : Nat) {a : Action} (hr : a.InRange) (hk : a.KeepsTrack factor S) :
    ∃ d' sent, d.perform factor c tries a = some (d', sent) ∧ d'.Tracks factor S (S.pointer p sent) := by
  cases a with
  | moveTo x y => exact moveThen_tracks factor hS ht hp c tries hr.1 hr.2 fun _ => rfl
  | clickAt x y => exact moveThen_tracks factor hS ht hp c tries hr.1 hr.2 (pointer_click c)
  | scrollAt x y direction amount =>
    by_cases hc : c = true
    · simpa [perform, BLEMouseTo.scroll, hc, wheelTurns_of_natAbs_le _ hk] using
        moveThen_tracks factor hS ht hp c tries hr.1 hr.2.1 (S.pointer_replicate_scroll · _ _)
    · simpa [perform, BLEMouseTo.scroll, hc] using
        moveThen_tracks factor hS ht hp c tries hr.1 hr.2.1 (S.pointer_nil ·)
  | hscroll x y direction amount =>
    by_cases hc : c = true
    · simpa [perform, BLEMouseTo.scrollHorizontal, hc, wheelTurns_of_natAbs_le _ hk] using
        moveThen_tracks factor hS ht hp c tries hr.1 hr.2.1 (S.pointer_replicate_hScroll · _ _)
    · simpa [perform, BLEMouseTo.scrollHorizontal, hc] using
        moveThen_tracks factor hS ht hp c tries hr.1 hr.2.1 (S.pointer_nil ·)
  | home =>
    cases c
    · exact ⟨_, _, rfl, ht⟩
    · exact perform_home_tracks factor hS ht.width ht.height ht.shortens hp tries
  | setScreenResolution width height =>
    obtain ⟨h₁, h₂, h₃, h₄⟩ := hk
    refine ⟨{ d with mouseTo := d.mouseTo.setScreenResolution ⟨width, hr.1.1, hr.1.2⟩ ⟨height, hr.2.1, hr.2.2⟩ },
      [], by simp [perform, CInt.checked_of_inInt hr.1, CInt.checked_of_inInt hr.2],
      ⟨ht.at_pointer, ⟨h₁, h₂⟩, ⟨h₃, h₄⟩, ht.shortens⟩⟩
  | setCorrectionFactor text => exact ⟨_, [], rfl, ⟨ht.at_pointer, ht.width, ht.height, hk⟩⟩
  | setCurrentPosition x y => exact hk.elim
  | showStatus | notConnected | invalidFormat | unknownCommand | nothing => exact ⟨d, [], rfl, ht⟩

/-- **Where a `moveTo` that reports reaching leaves the pointer**: the
firmware still tracks it, and it is within 2 of the target clamped to the
firmware's screen. -/
theorem moveTo_of_reached {d : Device} {p : Int × Int} (ht : d.Tracks factor S p) (hp : S.OnScreen p)
    {tries : Nat} {x y : CInt} {m' : BLEMouseTo} {s : List (Int × Int)}
    (h : BLEMouseTo.moveLoopWith (d.scale factor) true (tries + 1) (d.mouseTo.setTarget x y) = some (true, m', s)) :
    d.moveTo factor true tries x y = some ({ d with mouseTo := m' }, Report.moves s) ∧
      ({ d with mouseTo := m' } : Device).Tracks factor S (S.pointer p (Report.moves s)) ∧
      ((S.pointer p (Report.moves s)).1 - constrain x.val 0 d.mouseTo.screenWidth.val).natAbs ≤ 2 ∧
      ((S.pointer p (Report.moves s)).2 - constrain y.val 0 d.mouseTo.screenHeight.val).natAbs ≤ 2 := by
  obtain ⟨r, m'', s'', h', hkeep, hat⟩ :=
    BLEMouseTo.moveLoopWith_tracks hS ht.shortens true (tries + 1) (m := d.mouseTo.setTarget x y) hp
      ht.at_pointer (ht.targetOn factor x y)
  obtain ⟨rfl, rfl, rfl⟩ : true = r ∧ m' = m'' ∧ s = s'' := by simpa using h.symm.trans h'
  obtain ⟨hh, hnx, hny⟩ := BLEMouseTo.moveLoopWith_true h
  obtain ⟨hx, hy⟩ := hat hh
  refine ⟨by rw [moveTo, h]; rfl, ⟨hat, hkeep.2.2.1 ▸ ht.width, hkeep.2.2.2.1 ▸ ht.height, ht.shortens⟩, ?_, ?_⟩
  · have htx : m'.targetX.val = constrain x.val 0 d.mouseTo.screenWidth.val := by rw [hkeep.1]; rfl
    rw [← hx, ← htx]
    omega
  · have hty : m'.targetY.val = constrain y.val 0 d.mouseTo.screenHeight.val := by rw [hkeep.2.1]; rfl
    rw [← hy, ← hty]
    omega

/-- **A click lands within 2 of its target.** On a phone whose screen the
homing covers, from a state at the initial factor that tracks the pointer,
a `CLICK,x,y` whose `moveTo` has time for `k + 1` calls of `move()` after
its first, where `k` jumps cover the screen, taps the phone exactly once,
within 2 of `(x, y)` clamped to the firmware's screen. -/
theorem clickAt_lands {d : Device} {p : Int × Int} (ht : d.Tracks factor S p) (hf : d.correctionFactor = none)
    (hp : S.OnScreen p) {k tries : Nat} (hk : (max S.width S.height).toNat ≤ k * d.mouseTo.maxJumpDistance.toNat)
    (htries : k + 1 ≤ tries) (x y : CInt) :
    ∃ (d' : Device) (sent : List Report) (q : Int × Int),
      d.perform factor true tries (.clickAt x.val y.val) = some (d', sent) ∧
      S.seen p sent = [.tap q.1 q.2] ∧
      (q.1 - constrain x.val 0 d.mouseTo.screenWidth.val).natAbs ≤ 2 ∧
      (q.2 - constrain y.val 0 d.mouseTo.screenHeight.val).natAbs ≤ 2 := by
  obtain ⟨m', s, h⟩ := BLEMouseTo.moveLoop_reaches hS (m := d.mouseTo.setTarget x y) hp ht.at_pointer
    (ht.targetOn factor x y) hk
  have hloop : BLEMouseTo.moveLoopWith (d.scale factor) true (tries + 1) (d.mouseTo.setTarget x y) =
      some (true, m', s) := by
    rw [scale, hf, BLEMouseTo.moveLoopWith_id, show tries + 1 = k + 2 + (tries - k - 1) by omega]
    exact BLEMouseTo.moveLoop_add h _
  obtain ⟨hm, -, hx, hy⟩ := moveTo_of_reached factor hS ht hp hloop
  refine ⟨{ d with mouseTo := m' }, Report.moves s ++ [.click], S.pointer p (Report.moves s), ?_, ?_, hx, hy⟩
  · simp [perform, moveThen, CInt.checked_of_inInt ⟨x.min_le, x.le_max⟩,
      CInt.checked_of_inInt ⟨y.min_le, y.le_max⟩, hm, BLEMouseTo.click]
  · rw [S.seen_append, S.seen_moves, S.seen_click]
    rfl

/-- **`moveTo` lands the pointer within 2 of its target at any factor that
keeps steps.** `GOTO,`, `CLICK,`, `SCROLL,` and `HSCROLL,` all walk with
it. From a state that tracks the pointer, at a correction factor that
shortens a step, keeps one of 3 or more and leaves at least `s` of a full
jump, with a jump of at least 3, and with time for `k` calls of `move()`,
where `k` steps of `s` cover the screen, one call per unit of the jump, and
two more: the firmware still tracks the pointer after it, and the pointer
is within 2 of `(x, y)` clamped to the firmware's screen.
`(int)(3 * correctionFactor)` is `0` for a factor below `1/3`, and then
`move()` sends nothing 3 away from the target. -/
theorem moveTo_lands {d : Device} {p : Int × Int} (ht : d.Tracks factor S p) (hp : S.OnScreen p)
    (hnz : ∀ v, 3 ≤ v.natAbs → d.scale factor v ≠ 0) (h3 : 3 ≤ d.mouseTo.maxJumpDistance) {s k tries : Nat}
    (hs0 : 0 < s) (hs : ∀ v, v.natAbs = d.mouseTo.maxJumpDistance.toNat → s ≤ (d.scale factor v).natAbs)
    (hk : (max S.width S.height).toNat ≤ k * s) (htries : k + d.mouseTo.maxJumpDistance.toNat + 1 ≤ tries)
    (x y : CInt) :
    ∃ d' sent, d.moveTo factor true tries x y = some (d', sent) ∧ d'.Tracks factor S (S.pointer p sent) ∧
      ((S.pointer p sent).1 - constrain x.val 0 d.mouseTo.screenWidth.val).natAbs ≤ 2 ∧
      ((S.pointer p sent).2 - constrain y.val 0 d.mouseTo.screenHeight.val).natAbs ≤ 2 := by
  obtain ⟨m', sent, h⟩ := BLEMouseTo.moveLoopWith_reaches_onScreen hS ht.shortens hnz hs0
    (m := d.mouseTo.setTarget x y) hp ht.at_pointer (ht.targetOn factor x y) h3 hs hk htries
  exact ⟨_, _, moveTo_of_reached factor hS ht hp h⟩

/-- Lines that keep track keep the firmware tracking the pointer, run after
run: the induction behind `run_tracks` and `home_resyncs`. -/
theorem run_keeps_tracks :
    ∀ (cmds : List (Bool × Nat × List Char)) {d : Device} {p : Int × Int}, d.Tracks factor S p →
      S.OnScreen p → (∀ cmd ∈ cmds, (handleCommand cmd.1 (trim cmd.2.2)).KeepsTrack factor S) →
      ∃ d' sent, d.run factor cmds = some (d', sent) ∧ d'.Tracks factor S (S.pointer p sent)
  | [], d, _, ht, _, _ => ⟨d, [], rfl, ht⟩
  | (c, tries, line) :: cmds, d, p, ht, hp, hk => by
    obtain ⟨hk₁, hrest⟩ := List.forall_mem_cons.1 hk
    obtain ⟨d₁, s₁, h₁, ht₁⟩ := perform_tracks factor hS ht hp c tries (handleCommand_inRange c _) hk₁
    obtain ⟨d₂, s₂, h₂, ht₂⟩ := run_keeps_tracks cmds ht₁ (S.onScreen_pointer hp _) hrest
    exact ⟨d₂, s₁ ++ s₂, by simp [run, h₁, h₂], by rwa [S.pointer_append]⟩

/-- **The firmware's position is the phone's pointer, over every run.** On
a phone whose screen the homing covers, from a state that tracks the
pointer (its screen inside the phone's, its factor shortening, its homed
position the pointer), every run of lines that keep track is defined and
ends tracking the pointer: the firmware's screen still lies inside the
phone's, and whenever the firmware is homed, the position it holds, and
reports on `STATUS`, is where the pointer is. -/
theorem run_tracks (cmds : List (Bool × Nat × List Char)) {d : Device} {p : Int × Int} (ht : d.Tracks factor S p)
    (hp : S.OnScreen p) (hk : ∀ cmd ∈ cmds, (handleCommand cmd.1 (trim cmd.2.2)).KeepsTrack factor S) :
    ∃ d' sent, d.run factor cmds = some (d', sent) ∧ d'.Tracks factor S (S.pointer p sent) :=
  run_keeps_tracks factor hS cmds ht hp hk

/-- **`HOME` puts the firmware back on the pointer, whatever it held.**
From any state whose screen lies inside the phone's and whose factor only
shortens a step, the position it holds taken on trust from `CALIBRATE,`
or not homed at all: a `HOME` line handled while connected, then any run
of lines that keep track, is defined and ends tracking the pointer. -/
theorem home_resyncs (tries : Nat) (cmds : List (Bool × Nat × List Char)) {d : Device} {p : Int × Int}
    (hw : 0 ≤ d.mouseTo.screenWidth.val ∧ d.mouseTo.screenWidth.val ≤ S.width)
    (hh : 0 ≤ d.mouseTo.screenHeight.val ∧ d.mouseTo.screenHeight.val ≤ S.height)
    (hf : ∀ v, Shortens v (d.scale factor v)) (hp : S.OnScreen p)
    (hk : ∀ cmd ∈ cmds, (handleCommand cmd.1 (trim cmd.2.2)).KeepsTrack factor S) :
    ∃ d' sent, d.run factor ((true, tries, "HOME".toList) :: cmds) = some (d', sent) ∧
      d'.Tracks factor S (S.pointer p sent) := by
  have hhome : handleCommand true (trim "HOME".toList) = .home := by decide
  obtain ⟨d₁, s₁, h₁, ht₁⟩ := perform_home_tracks factor hS hw hh hf hp tries
  obtain ⟨d₂, s₂, h₂, ht₂⟩ := run_keeps_tracks factor hS cmds ht₁ (S.onScreen_pointer hp _) hk
  exact ⟨d₂, s₁ ++ s₂, by rw [run, hhome]; simp [h₁, h₂], by rwa [S.pointer_append]⟩

end

/-- Halving a step as `(int)(v * 0.5)` does, truncating toward zero,
shortens it. -/
theorem shortens_tdiv_two (v : Int) : Shortens v (v.tdiv 2) := by
  unfold Shortens
  rcases v with n | n <;> simp only [Int.tdiv, Int.ofNat_eq_coe, Int.negSucc_eq] <;> push_cast <;> omega

/-- It keeps a step of 3 or more. -/
theorem tdiv_two_ne_zero {v : Int} (hv : 3 ≤ v.natAbs) : v.tdiv 2 ≠ 0 := by
  rcases v with n | n <;>
    simp only [Int.tdiv, Int.ofNat_eq_coe, Int.negSucc_eq, Int.natAbs_ofNat, Int.natAbs_negSucc] at hv ⊢ <;>
    push_cast <;> omega

/-- On a 390 × 844 screen, the initial firmware with the pointer at
`(10, 20)`: `FACTOR,0.5`, read as halving each step, then `GOTO,100,200`
and `CLICK,300,500`, each with time for sixty calls of `move()`. -/
theorem run_tracks_goto_click :
    let S : Screen := ⟨390, 844, by decide, by decide⟩
    let cmds : List (Bool × Nat × List Char) :=
      [(true, 0, "FACTOR,0.5".toList), (true, 60, "GOTO,100,200".toList), (true, 60, "CLICK,300,500".toList)]
    (S.width ≤ 2540 ∧ S.height ≤ 2540) ∧ ({} : Device).Tracks (fun _ v => v.tdiv 2) S (10, 20) ∧
      S.OnScreen (10, 20) ∧ (∀ cmd ∈ cmds, (handleCommand cmd.1 (trim cmd.2.2)).KeepsTrack (fun _ v => v.tdiv 2) S) ∧
      ∃ d' sent, ({} : Device).run (fun _ v => v.tdiv 2) cmds = some (d', sent) ∧
        d'.Tracks (fun _ v => v.tdiv 2) S (S.pointer (10, 20) sent) :=
  have hS : (390 : Int) ≤ 2540 ∧ (844 : Int) ≤ 2540 := by decide
  have ht : ({} : Device).Tracks (fun _ v => v.tdiv 2) ⟨390, 844, by decide, by decide⟩ (10, 20) :=
    tracks_initial _ le_rfl le_rfl _
  have hp : Screen.OnScreen ⟨390, 844, by decide, by decide⟩ (10, 20) := by decide
  have hk : ∀ cmd ∈ [((true, 0, "FACTOR,0.5".toList) : Bool × Nat × List Char),
      (true, 60, "GOTO,100,200".toList), (true, 60, "CLICK,300,500".toList)],
      (handleCommand cmd.1 (trim cmd.2.2)).KeepsTrack (fun _ v => v.tdiv 2) ⟨390, 844, by decide, by decide⟩ := by
    have h₁ : handleCommand true (trim "FACTOR,0.5".toList) = .setCorrectionFactor "0.5".toList := by decide
    have h₂ : handleCommand true (trim "GOTO,100,200".toList) = .moveTo 100 200 := by decide
    have h₃ : handleCommand true (trim "CLICK,300,500".toList) = .clickAt 300 500 := by decide
    simp only [List.forall_mem_cons, h₁, h₂, h₃]
    exact ⟨shortens_tdiv_two, trivial, trivial, fun _ h => absurd h (List.not_mem_nil _)⟩
  ⟨hS, ht, hp, hk, run_tracks _ hS _ ht hp hk⟩

/-- On a 390 × 844 screen with the pointer at `(10, 20)`: the initial
firmware after `CALIBRATE,300,400`, which holds `(300, 400)`, then `HOME`
and `GOTO,100,200` with time for sixty calls of `move()`. -/
theorem home_resyncs_after_calibrate :
    let S : Screen := ⟨390, 844, by decide, by decide⟩
    let d : Device :=
      { mouseTo := ({} : BLEMouseTo).setCurrentPosition ⟨300, by decide, by decide⟩ ⟨400, by decide, by decide⟩ }
    let cmds : List (Bool × Nat × List Char) := [(true, 60, "GOTO,100,200".toList)]
    (S.width ≤ 2540 ∧ S.height ≤ 2540) ∧
      (0 ≤ d.mouseTo.screenWidth.val ∧ d.mouseTo.screenWidth.val ≤ S.width) ∧
      (0 ≤ d.mouseTo.screenHeight.val ∧ d.mouseTo.screenHeight.val ≤ S.height) ∧
      (∀ v, Shortens v (d.scale (fun _ v => v) v)) ∧ S.OnScreen (10, 20) ∧
      (∀ cmd ∈ cmds, (handleCommand cmd.1 (trim cmd.2.2)).KeepsTrack (fun _ v => v) S) ∧
      ∃ d' sent, d.run (fun _ v => v) ((true, 0, "HOME".toList) :: cmds) = some (d', sent) ∧
        d'.Tracks (fun _ v => v) S (S.pointer (10, 20) sent) :=
  have hS : (390 : Int) ≤ 2540 ∧ (844 : Int) ≤ 2540 := by decide
  have hp : Screen.OnScreen ⟨390, 844, by decide, by decide⟩ (10, 20) := by decide
  have hk : ∀ cmd ∈ [((true, 60, "GOTO,100,200".toList) : Bool × Nat × List Char)],
      (handleCommand cmd.1 (trim cmd.2.2)).KeepsTrack (fun _ v => v) ⟨390, 844, by decide, by decide⟩ := by
    have h₁ : handleCommand true (trim "GOTO,100,200".toList) = .moveTo 100 200 := by decide
    simp only [List.forall_mem_cons, h₁]
    exact ⟨trivial, fun _ h => absurd h (List.not_mem_nil _)⟩
  ⟨hS, by decide, by decide, Shortens.refl, hp, hk,
    home_resyncs (fun _ v => v) hS 0 _ (by decide) (by decide) Shortens.refl hp hk⟩

/-- On a 390 × 844 screen, the initial firmware with the pointer at
`(10, 20)`: `CLICK,100,200` with time for eighteen calls after its first,
seventeen jumps of 50 covering the screen. -/
theorem clickAt_lands_initial :
    let S : Screen := ⟨390, 844, by decide, by decide⟩
    (S.width ≤ 2540 ∧ S.height ≤ 2540) ∧ ({} : Device).Tracks (fun _ v => v) S (10, 20) ∧
      ({} : Device).correctionFactor = none ∧ S.OnScreen (10, 20) ∧
      (max S.width S.height).toNat ≤ 17 * ({} : Device).mouseTo.maxJumpDistance.toNat ∧ 17 + 1 ≤ 18 ∧
      ∃ (d' : Device) (sent : List Report) (q : Int × Int),
        ({} : Device).perform (fun _ v => v) true 18
            (.clickAt (⟨100, by decide, by decide⟩ : CInt).val (⟨200, by decide, by decide⟩ : CInt).val) =
          some (d', sent) ∧
        S.seen (10, 20) sent = [.tap q.1 q.2] ∧
        (q.1 - constrain 100 0 ({} : Device).mouseTo.screenWidth.val).natAbs ≤ 2 ∧
        (q.2 - constrain 200 0 ({} : Device).mouseTo.screenHeight.val).natAbs ≤ 2 :=
  have hS : (390 : Int) ≤ 2540 ∧ (844 : Int) ≤ 2540 := by decide
  have ht : ({} : Device).Tracks (fun _ v => v) ⟨390, 844, by decide, by decide⟩ (10, 20) :=
    tracks_initial _ le_rfl le_rfl _
  have hp : Screen.OnScreen ⟨390, 844, by decide, by decide⟩ (10, 20) := by decide
  ⟨hS, ht, rfl, hp, by decide, by decide,
    clickAt_lands (fun _ v => v) hS ht rfl hp (k := 17) (by decide) le_rfl _ _⟩

/-- On a 390 × 844 screen, after `FACTOR,0.5` read as halving each step,
with the pointer at `(10, 20)`: `moveTo(100, 200)` with time for 85 calls of
`move()` after its first, 34 half jumps of 25 covering the screen. -/
theorem moveTo_lands_half :
    let S : Screen := ⟨390, 844, by decide, by decide⟩
    let d : Device := { correctionFactor := some "0.5".toList }
    (S.width ≤ 2540 ∧ S.height ≤ 2540) ∧ d.Tracks (fun _ v => v.tdiv 2) S (10, 20) ∧ S.OnScreen (10, 20) ∧
      (∀ v, 3 ≤ v.natAbs → d.scale (fun _ v => v.tdiv 2) v ≠ 0) ∧ 3 ≤ d.mouseTo.maxJumpDistance ∧ 0 < 25 ∧
      (∀ v, v.natAbs = d.mouseTo.maxJumpDistance.toNat → 25 ≤ (d.scale (fun _ v => v.tdiv 2) v).natAbs) ∧
      (max S.width S.height).toNat ≤ 34 * 25 ∧ 34 + d.mouseTo.maxJumpDistance.toNat + 1 ≤ 85 ∧
      ∃ d' sent, d.moveTo (fun _ v => v.tdiv 2) true 85 ⟨100, by decide, by decide⟩ ⟨200, by decide, by decide⟩ =
          some (d', sent) ∧ d'.Tracks (fun _ v => v.tdiv 2) S (S.pointer (10, 20) sent) ∧
        ((S.pointer (10, 20) sent).1 - constrain 100 0 d.mouseTo.screenWidth.val).natAbs ≤ 2 ∧
        ((S.pointer (10, 20) sent).2 - constrain 200 0 d.mouseTo.screenHeight.val).natAbs ≤ 2 :=
  have hS : (390 : Int) ≤ 2540 ∧ (844 : Int) ≤ 2540 := by decide
  have ht : Tracks (fun _ v => v.tdiv 2) ⟨390, 844, by decide, by decide⟩
      { correctionFactor := some "0.5".toList } (10, 20) :=
    ⟨fun h => absurd h (by decide), by decide, by decide, shortens_tdiv_two⟩
  have hp : Screen.OnScreen ⟨390, 844, by decide, by decide⟩ (10, 20) := by decide
  have hnz : ∀ v, 3 ≤ v.natAbs → scale (fun _ v => v.tdiv 2) { correctionFactor := some "0.5".toList } v ≠ 0 :=
    fun _ hv => tdiv_two_ne_zero hv
  have hs : ∀ v : Int, v.natAbs = (50 : Int).toNat →
      25 ≤ (scale (fun _ v => v.tdiv 2) { correctionFactor := some "0.5".toList } v).natAbs := fun v hv => by
    obtain rfl | rfl : v = 50 ∨ v = -50 := by omega
    all_goals decide
  ⟨hS, ht, hp, hnz, by decide, by decide, hs, by decide, by decide,
    moveTo_lands _ hS ht hp hnz (by decide) (k := 34) (by decide) hs (by decide) (by decide) _ _⟩

end Device

end Goto

end Firmware

end TouchBridge
