import TouchBridge.Serial.RoundTrip
/-!
# Framing on the serial link when a write falls short

`write` on the non-blocking descriptor fails, takes no byte, or takes some
of the bytes of a line. `send_command` reports all but a whole write as a
failure, yet what `write` took is on the wire: every call leaves a prefix of
its line (`send_fst_prefix`), the whole line exactly when it succeeds
(`send_fst_of_true`).

A write that is all or nothing keeps the stream framed: the bytes on the
wire are then the lines of the calls that succeeded, in order
(`wire_eq_wire_filter`), and the firmware takes exactly their actions
(`runLoop_wire_filter`). A write that takes part of a line does not: the
fragment has no line feed, so the next line is read as its continuation
(`short_write_glues_next_line`).
-/

namespace TouchBridge

namespace ESP32Comm

open Firmware

/-- The line a call hands to `write`: its command and a line feed. -/
def Send.line (s : Send) : List Char := s.command ++ ['\n']

/-- **A write that is all or nothing**: it fails, takes no byte, or takes
the whole line. -/
def WholeWrite (s : Send) (bytesWritten : Int) : Prop :=
  bytesWritten < 0 ∨ bytesWritten = 0 ∨ bytesWritten = s.line.length

section

variable {c : ESP32Comm} {s : Send} {w : Int}

/-- **Every call leaves a prefix of its line on the wire**, whatever `write`
returns. -/
theorem send_fst_prefix (c : ESP32Comm) (s : Send) (w : Int) : (c.send s w).1 <+: s.line := by
  unfold send sendCommand writeToSerial
  split_ifs
  exacts [List.nil_prefix, List.nil_prefix, List.take_prefix _ _, List.prefix_refl _]

/-- A call that succeeds leaves its whole line. -/
theorem send_fst_of_true (h : (c.send s w).2 = true) : (c.send s w).1 = s.line :=
  sendCommand_eq_true h

/-- A call that fails on an all-or-nothing write leaves nothing. -/
theorem send_fst_of_false (hw : WholeWrite s w) (h : (c.send s w).2 = false) :
    (c.send s w).1 = [] := by
  unfold send sendCommand writeToSerial at *
  unfold WholeWrite Send.line at hw
  split_ifs at h ⊢ with h₁ h₂ h₃
  · rfl
  · rfl
  · rcases hw with hw | hw | hw
    · omega
    · simp [hw]
    · exact absurd (by simp [hw]) h₃

end

/-- **All-or-nothing writes keep the stream framed**: the bytes on the wire
are those of the calls that succeeded, each its whole line, in order. -/
theorem wire_eq_wire_filter (c : ESP32Comm) :
    ∀ calls : List (Send × Int), (∀ p ∈ calls, WholeWrite p.1 p.2) →
      c.wire calls = c.wire (calls.filter fun p => (c.send p.1 p.2).2) := by
  intro calls
  induction calls with
  | nil => intro _; rfl
  | cons p calls ih =>
    intro h
    obtain ⟨hp, hrest⟩ := List.forall_mem_cons.1 h
    cases hs : (c.send p.1 p.2).2
    · rw [List.filter_cons_of_neg (by simp [hs]), ← ih hrest, wire, send_fst_of_false hp hs,
        List.nil_append]
    · rw [List.filter_cons_of_pos (by simp [hs]), wire, wire, ih hrest]

/-- **So the firmware takes the actions of the calls that succeeded**, in
order, and nothing else. -/
theorem runLoop_wire_filter (c : ESP32Comm) (calls : List (Send × Int))
    (h : ∀ p ∈ calls, WholeWrite p.1 p.2) :
    runLoop (calls.filter fun p => (c.send p.1 p.2).2).length (c.wire calls) =
      ((calls.filter fun p => (c.send p.1 p.2).2).map (·.1.intended), []) := by
  rw [wire_eq_wire_filter c calls h]
  exact runLoop_wire c _ fun p hp => by simpa using (List.mem_filter.1 hp).2

/-- **A short write glues the next line onto a fragment.** Over a connected
port, `send_goto(100, 200)` whose `write` takes 3 of the 13 bytes of
`MOVE,100,200\n` returns `false`, but `MOV` is on the wire. The
`send_status()` after it succeeds, and the firmware reads the line
`MOVSTATUS`, which it answers as an unknown command: the failed call put
bytes on the wire, and the command of the call that succeeded is never
taken. -/
theorem short_write_glues_next_line :
    (send ⟨3, true⟩ (.goto ⟨100, by decide, by decide⟩ ⟨200, by decide, by decide⟩) 3).2 = false ∧
    (send ⟨3, true⟩ .status 7).2 = true ∧
    wire ⟨3, true⟩ [(.goto ⟨100, by decide, by decide⟩ ⟨200, by decide, by decide⟩, 3), (.status, 7)] =
      "MOVSTATUS\n".toList ∧
    runLoop 1 (wire ⟨3, true⟩
      [(.goto ⟨100, by decide, by decide⟩ ⟨200, by decide, by decide⟩, 3), (.status, 7)]) =
      ([.unknownCommand], []) := by
  decide

end ESP32Comm

end TouchBridge
