import TouchBridge.Serial.Host
/-!
# The serial descriptor over `ESP32Comm`'s lifetime

`init` opens the device, configures it (`configure_serial_port`) and, once
`connected_`, sends `STATUS`; `close` restores the terminal settings and
closes the descriptor; every `send_*` and `set_iphone_resolution` writes to
`serial_fd_` through `send_command`. A `Host` pairs the object with the
descriptors its `open` calls left open, and each call returns the system
calls it makes on descriptors (`Syscall`).

Over every sequence of calls, whatever the system returns, every close,
terminal call and write finds its descriptor open: `replay` of the system
calls, which fails at the first one on a descriptor not open, succeeds and
leaves open exactly the host's descriptors (`replay_run`).

A descriptor open and not held is leaked: nothing closes it again.
Callers that `init` only a closed object leak none and keep `connected_`
exactly while a descriptor is held (`disciplined_invariant`). A second
`init` on an open object loses its descriptor for good (`reinit_leaks`).
-/

namespace TouchBridge

namespace ESP32Comm

/-- **A system call on a descriptor.** -/
inductive Syscall
  /-- `open` returned the descriptor. -/
  | opened (fd : Int)
  /-- `::close(fd)`. -/
  | closed (fd : Int)
  /-- `tcgetattr`, `tcsetattr`, `tcflush`, `fcntl` or `tcdrain` on it. -/
  | control (fd : Int)
  /-- `write(fd, ...)`, with the bytes it took. -/
  | wrote (fd : Int) (bytes : List Char)
deriving DecidableEq, Repr

/-- **What the system gives one call of `init`.** -/
structure InitOutcome where
  /-- The descriptor `open` returns, `-1` when it fails. -/
  fd : Int
  /-- The `baud_rate` argument. -/
  baudRate : Int
  /-- Whether `tcgetattr` succeeds. -/
  getattrOk : Bool
  /-- Whether `tcsetattr` succeeds. -/
  setattrOk : Bool
  /-- What `write` returns for the `STATUS` line. -/
  statusWritten : Int
deriving DecidableEq, Repr

/-- The rates the `switch` of `configure_serial_port` knows. -/
def supportedBaudRates : List Int := [9600, 19200, 38400, 57600, 115200, 230400]

/-- **`configure_serial_port(fd, baud_rate)`**: read the settings, refuse
an unknown rate, apply the raw 8N1 settings, flush. The result, and the
terminal calls made. -/
def configureSerialPort (fd : Int) (o : InitOutcome) : Bool × List Syscall :=
  if !o.getattrOk then (false, [.control fd])
  else if o.baudRate ∉ supportedBaudRates then (false, [.control fd])
  else if !o.setattrOk then (false, [.control fd, .control fd])
  else (true, [.control fd, .control fd, .control fd])

/-- **An `ESP32Comm` and the descriptors its `open` calls hold open.** -/
structure Host where
  comm : ESP32Comm
  iphoneWidth : Int
  iphoneHeight : Int
  openFds : List Int
deriving DecidableEq, Repr

namespace Host

/-- The constructed object: `serial_fd_(-1), connected_(false),
iphone_width_(390), iphone_height_(844)`, nothing open. -/
def new : Host := ⟨⟨-1, false⟩, 390, 844, []⟩

/-- The system calls **`send_command`** makes for a call whose `write`
returns `w`: none when not connected, otherwise the `write`, and
`tcdrain` after a whole one. -/
def sendSyscalls (h : Host) (s : Send) (w : Int) : List Syscall :=
  if !h.comm.connected || h.comm.serialFd = -1 then []
  else .wrote h.comm.serialFd (h.comm.send s w).1 ::
    if (h.comm.send s w).2 then [.control h.comm.serialFd] else []

/-- **`ESP32Comm::init`**: `serial_fd_` takes what `open` returns. A failed
`open` returns `false` at once; a failed configuration closes the new
descriptor and sets `serial_fd_ = -1`; otherwise `fcntl`, `connected_`,
and `send_status()`. The object after, the result, the system calls. -/
def init (h : Host) (o : InitOutcome) : Host × Bool × List Syscall :=
  if o.fd = -1 then ({ h with comm := { h.comm with serialFd := -1 } }, false, [])
  else if (configureSerialPort o.fd o).1 then
    let h' : Host := { h with comm := ⟨o.fd, true⟩, openFds := o.fd :: h.openFds }
    (h', true, .opened o.fd :: (configureSerialPort o.fd o).2 ++
      .control o.fd :: h'.sendSyscalls .status o.statusWritten)
  else ({ h with comm := { h.comm with serialFd := -1 }, openFds := h.openFds.filter (· ≠ o.fd) },
    false, .opened o.fd :: (configureSerialPort o.fd o).2 ++ [.closed o.fd])

/-- **`ESP32Comm::close`**: with a descriptor, restore its settings and
close it; `connected_ = false` either way. -/
def close (h : Host) : Host × List Syscall :=
  if h.comm.serialFd ≠ -1 then
    (⟨⟨-1, false⟩, h.iphoneWidth, h.iphoneHeight, h.openFds.filter (· ≠ h.comm.serialFd)⟩,
      [.control h.comm.serialFd, .closed h.comm.serialFd])
  else ({ h with comm := { h.comm with connected := false } }, [])

/-- **`set_iphone_resolution(width, height)`**: store the size, then
`send_screen_resolution(width, height)`. -/
def setIphoneResolution (h : Host) (width height : CInt) (w : Int) : Host × List Syscall :=
  ({ h with iphoneWidth := width.val, iphoneHeight := height.val },
    h.sendSyscalls (.screenResolution width height) w)

end Host

/-- The calls on an `ESP32Comm`, with what the system returns to each. -/
inductive Call
  | init (o : InitOutcome)
  | close
  | send (s : Send) (bytesWritten : Int)
  | setIphoneResolution (width height : CInt) (bytesWritten : Int)

namespace Host

/-- One call: the object after, and the system calls made. -/
def call (h : Host) : Call → Host × List Syscall
  | .init o => ((h.init o).1, (h.init o).2.2)
  | .close => h.close
  | .send s w => (h, h.sendSyscalls s w)
  | .setIphoneResolution width height w => h.setIphoneResolution width height w

/-- The calls `cs`, in order. -/
def run : Host → List Call → Host × List Syscall
  | h, [] => (h, [])
  | h, c :: cs => (((h.call c).1.run cs).1, (h.call c).2 ++ ((h.call c).1.run cs).2)

end Host

/-! ## Every system call finds its descriptor open -/

/-- **The system calls played against the open descriptors** `fds`: the
descriptors open after them, or `none` at the first close, terminal call
or write on a descriptor not open. -/
def replay : List Int → List Syscall → Option (List Int)
  | fds, [] => some fds
  | fds, .opened fd :: t => replay (fd :: fds) t
  | fds, .closed fd :: t => if fd ∈ fds then replay (fds.filter (· ≠ fd)) t else none
  | fds, .control fd :: t => if fd ∈ fds then replay fds t else none
  | fds, .wrote fd _ :: t => if fd ∈ fds then replay fds t else none

theorem replay_append (fds : List Int) (t₁ t₂ : List Syscall) :
    replay fds (t₁ ++ t₂) = (replay fds t₁).bind (replay · t₂) := by
  induction t₁ generalizing fds with
  | nil => rfl
  | cons e t₁ ih =>
    cases e with
    | opened fd => exact ih _
    | closed fd | control fd | wrote fd _ =>
      simp only [List.cons_append, replay]
      split_ifs <;> simp [ih]

/-- Terminal calls on an open descriptor change nothing. -/
theorem replay_controls {fd : Int} {fds : List Int} (h : fd ∈ fds) :
    ∀ n, replay fds (List.replicate n (.control fd)) = some fds
  | 0 => rfl
  | n + 1 => by rw [List.replicate_succ, replay, if_pos h, replay_controls h n]

theorem configureSerialPort_controls (fd : Int) (o : InitOutcome) :
    ∃ n, (configureSerialPort fd o).2 = List.replicate n (.control fd) := by
  unfold configureSerialPort
  split_ifs <;> first | exact ⟨1, rfl⟩ | exact ⟨2, rfl⟩ | exact ⟨3, rfl⟩

namespace Host

/-- **The held descriptor is open**, or there is none. -/
def Held (h : Host) : Prop := h.comm.serialFd ≠ -1 → h.comm.serialFd ∈ h.openFds

variable {h : Host}

/-- `send_command` writes only to the held descriptor, so to an open one. -/
theorem replay_sendSyscalls (hh : h.Held) (s : Send) (w : Int) :
    replay h.openFds (h.sendSyscalls s w) = some h.openFds := by
  unfold sendSyscalls
  split_ifs with hg hs
  · rfl
  all_goals
    have hm := hh fun hfd => hg (by simp [hfd])
    simp [replay, hm]

/-- **One call keeps the held descriptor open, and each of its system
calls finds its descriptor open.** -/
theorem replay_call (hh : h.Held) (c : Call) :
    replay h.openFds (h.call c).2 = some (h.call c).1.openFds ∧ (h.call c).1.Held := by
  cases c with
  | init o =>
    obtain ⟨n, hn⟩ := configureSerialPort_controls o.fd o
    have hm : o.fd ∈ o.fd :: h.openFds := List.mem_cons_self _ _
    simp only [call, init]
    split_ifs with h₁ h₂ <;> dsimp only
    · exact ⟨rfl, fun h => absurd rfl h⟩
    · refine ⟨?_, fun _ => hm⟩
      rw [replay_append, replay, hn, replay_controls hm, Option.some_bind, replay, if_pos hm]
      exact replay_sendSyscalls (h := { h with comm := ⟨o.fd, true⟩, openFds := o.fd :: h.openFds })
        (fun _ => hm) _ _
    · refine ⟨?_, fun h => absurd rfl h⟩
      rw [replay_append, replay, hn, replay_controls hm, Option.some_bind, replay, if_pos hm]
      simp [replay, h₁]
  | close =>
    simp only [call, close]
    split_ifs with hfd
    · exact ⟨by simp [replay, hh hfd], fun h => absurd rfl h⟩
    · exact ⟨rfl, fun h => absurd (not_not.1 hfd) h⟩
  | send s w => exact ⟨replay_sendSyscalls hh s w, hh⟩
  | setIphoneResolution width height w => exact ⟨replay_sendSyscalls hh _ w, hh⟩

theorem replay_run_of_held : ∀ (cs : List Call) {h : Host}, h.Held →
    replay h.openFds (h.run cs).2 = some (h.run cs).1.openFds ∧ (h.run cs).1.Held
  | [], _, hh => ⟨rfl, hh⟩
  | c :: cs, h, hh => by
    obtain ⟨h₁, hh₁⟩ := replay_call hh c
    obtain ⟨h₂, hh₂⟩ := replay_run_of_held cs hh₁
    exact ⟨by rw [run, replay_append, h₁, Option.some_bind, h₂], hh₂⟩

/-- **Every system call of every run finds its descriptor open.** Over
every sequence of `init`, `close`, `send_*` and `set_iphone_resolution`
calls from construction, whatever `open`, `tcgetattr`, `tcsetattr` and
`write` return, each close, terminal call and write the object makes is on
a descriptor that is open when it is made, and the descriptors left open
are those the host accounts for. -/
theorem replay_run (cs : List Call) : replay [] (new.run cs).2 = some (new.run cs).1.openFds :=
  (@replay_run_of_held cs new fun hfd => absurd rfl hfd).1

/-! ## Leaks -/

/-- The callers' side of the contract: `init` only an object that holds no
descriptor, as after construction or `close`. -/
def Allowed (h : Host) : Call → Prop
  | .init _ => h.comm.serialFd = -1
  | _ => True

instance (h : Host) : DecidablePred h.Allowed
  | .init _ => inferInstanceAs (Decidable (h.comm.serialFd = -1))
  | .close | .send .. | .setIphoneResolution .. => isTrue trivial

/-- Every call of the sequence is allowed in the state it meets. -/
def Disciplined : Host → List Call → Prop
  | _, [] => True
  | h, c :: cs => h.Allowed c ∧ Disciplined (h.call c).1 cs

instance decDisciplined : ∀ (h : Host) (cs : List Call), Decidable (h.Disciplined cs)
  | _, [] => isTrue trivial
  | h, c :: cs =>
    haveI := decDisciplined (h.call c).1 cs
    inferInstanceAs (Decidable (h.Allowed c ∧ (h.call c).1.Disciplined cs))

/-- **The descriptor invariant**: `connected_` exactly while a descriptor
is held, and every descriptor open is the one held. -/
structure Inv (h : Host) : Prop where
  connected_iff : h.comm.connected = true ↔ h.comm.serialFd ≠ -1
  no_leak : ∀ d ∈ h.openFds, d = h.comm.serialFd ∧ d ≠ -1

theorem inv_new : new.Inv := ⟨by decide, by simp [new]⟩

/-- Holding no descriptor, a host that keeps the invariant has none open. -/
theorem Inv.openFds_eq_nil (hi : h.Inv) (hfd : h.comm.serialFd = -1) : h.openFds = [] :=
  List.eq_nil_iff_forall_not_mem.2 fun d hd => (hi.no_leak d hd).2 ((hi.no_leak d hd).1.trans hfd)

theorem inv_call (hi : h.Inv) {c : Call} (ha : h.Allowed c) : (h.call c).1.Inv := by
  cases c with
  | init o =>
    have ha : h.comm.serialFd = -1 := ha
    have hnil := hi.openFds_eq_nil ha
    have hc : h.comm.connected = false := by simpa [ha] using hi.connected_iff
    simp only [call, init]
    split_ifs with h₁ h₂ <;> dsimp only
    · exact ⟨by simp [hc], by simp [hnil]⟩
    · exact ⟨by simpa using h₁, by simp [hnil, h₁]⟩
    · exact ⟨by simp [hc], by simp [hnil]⟩
  | close =>
    simp only [call, close]
    split_ifs with hfd
    · exact ⟨by simp, by simpa using fun d hd => (hi.no_leak d hd).1⟩
    · exact ⟨by simp [not_not.1 hfd], by simp [hi.openFds_eq_nil (not_not.1 hfd)]⟩
  | send s w => exact hi
  | setIphoneResolution width height w => exact ⟨hi.connected_iff, hi.no_leak⟩

theorem inv_run : ∀ (cs : List Call) {h : Host}, h.Inv → h.Disciplined cs → (h.run cs).1.Inv
  | [], _, hi, _ => hi
  | _ :: cs, _, hi, ⟨ha, hd⟩ => inv_run cs (inv_call hi ha) hd

/-- **Disciplined callers leak no descriptor.** Over every sequence of
calls from construction that `init`s only an object holding no
descriptor, whatever the system returns, `connected_` holds exactly while
`serial_fd_ != -1`, and every descriptor `open` returned is closed or is
`serial_fd_`. -/
theorem disciplined_invariant (cs : List Call) (hd : new.Disciplined cs) : (new.run cs).1.Inv :=
  inv_run cs inv_new hd

/-- `init` at 115200 baud on descriptor `3`, `send_status()`, `close()`,
then `init` again on descriptor `4`. -/
theorem disciplined_invariant_reopen :
    new.Disciplined [.init ⟨3, 115200, true, true, 7⟩, .send .status 7, .close,
        .init ⟨4, 9600, true, true, 7⟩] ∧
      (new.run [.init ⟨3, 115200, true, true, 7⟩, .send .status 7, .close,
        .init ⟨4, 9600, true, true, 7⟩]).1.Inv :=
  have hd : new.Disciplined [.init ⟨3, 115200, true, true, 7⟩, .send .status 7, .close,
      .init ⟨4, 9600, true, true, 7⟩] := by decide
  ⟨hd, disciplined_invariant _ hd⟩

section

variable {fd : Int}

/-- An `init` whose `open` does not return `fd` leaves `fd` open, not
held, and does not close it. -/
theorem init_keeps_open (hfd : fd ≠ -1) (hopen : fd ∈ h.openFds) {o : InitOutcome} (hne : o.fd ≠ fd) :
    fd ∈ (h.init o).1.openFds ∧ (h.init o).1.comm.serialFd ≠ fd ∧ Syscall.closed fd ∉ (h.init o).2.2 := by
  obtain ⟨n, hn⟩ := configureSerialPort_controls o.fd o
  unfold init
  split_ifs <;> simp [hopen, hfd.symm, hne, hne.symm, hn, sendSyscalls]

/-- A call other than an `init` returning `fd` leaves an open, unheld
`fd` open and unheld, and does not close it. -/
theorem unheld_call (hfd : fd ≠ -1) (hopen : fd ∈ h.openFds) (hne : h.comm.serialFd ≠ fd) {c : Call}
    (hc : ∀ o, c = .init o → o.fd ≠ fd) :
    fd ∈ (h.call c).1.openFds ∧ (h.call c).1.comm.serialFd ≠ fd ∧ Syscall.closed fd ∉ (h.call c).2 := by
  have hsend : ∀ s w, Syscall.closed fd ∉ h.sendSyscalls s w := fun s w => by
    unfold sendSyscalls; split_ifs <;> simp
  cases c with
  | init o => exact init_keeps_open hfd hopen (hc o rfl)
  | close =>
    simp only [call, close]
    split_ifs
    · simp [hopen, hne, hfd.symm, Ne.symm hne]
    · exact ⟨hopen, hne, by simp⟩
  | send s w => exact ⟨hopen, hne, hsend s w⟩
  | setIphoneResolution width height w => exact ⟨hopen, hne, hsend _ w⟩

theorem unheld_run (hfd : fd ≠ -1) : ∀ (cs : List Call) {h : Host}, fd ∈ h.openFds → h.comm.serialFd ≠ fd →
    (∀ o, Call.init o ∈ cs → o.fd ≠ fd) →
    fd ∈ (h.run cs).1.openFds ∧ (h.run cs).1.comm.serialFd ≠ fd ∧ Syscall.closed fd ∉ (h.run cs).2
  | [], _, hopen, hne, _ => ⟨hopen, hne, List.not_mem_nil _⟩
  | c :: cs, h, hopen, hne, hcs => by
    obtain ⟨h₁, hne₁, hc₁⟩ := unheld_call hfd hopen hne fun o ho => hcs o (ho ▸ List.mem_cons_self _ _)
    obtain ⟨h₂, hne₂, hc₂⟩ :=
      unheld_run hfd cs h₁ hne₁ fun o ho => hcs o (List.mem_cons_of_mem _ ho)
    exact ⟨h₂, hne₂, by simp only [run, List.mem_append, not_or]; exact ⟨hc₁, hc₂⟩⟩

end

/-- **A second `init` loses the descriptor held before it, for good.**
Take every object holding an open descriptor `fd`, and an `init` whose
`open` returns another descriptor or fails. After it, and after any calls
whose `open`s never return `fd`, `fd` is still open, `serial_fd_` is not
`fd`, and no `close` was made on it: nothing will ever close it. -/
theorem reinit_leaks {h : Host} (hfd : h.comm.serialFd ≠ -1) (hopen : h.comm.serialFd ∈ h.openFds)
    (o : InitOutcome) (hne : o.fd ≠ h.comm.serialFd) (cs : List Call)
    (hcs : ∀ o', Call.init o' ∈ cs → o'.fd ≠ h.comm.serialFd) :
    h.comm.serialFd ∈ (h.run (.init o :: cs)).1.openFds ∧
      (h.run (.init o :: cs)).1.comm.serialFd ≠ h.comm.serialFd ∧
      Syscall.closed h.comm.serialFd ∉ (h.run (.init o :: cs)).2 := by
  obtain ⟨h₁, hne₁, hc₁⟩ := init_keeps_open hfd hopen hne
  obtain ⟨h₂, hne₂, hc₂⟩ := unheld_run hfd cs h₁ hne₁ hcs
  exact ⟨h₂, hne₂, by simp only [run, call, List.mem_append, not_or]; exact ⟨hc₁, hc₂⟩⟩

/-- Descriptor `3` opened at 115200 baud, then an `init` whose `open`
fails, then `close`: descriptor `3` is never closed. -/
theorem reinit_leaks_failed_open :
    let h := (new.init ⟨3, 115200, true, true, 7⟩).1
    h.comm.serialFd ≠ -1 ∧ h.comm.serialFd ∈ h.openFds ∧ (-1 : Int) ≠ h.comm.serialFd ∧
      (∀ o', Call.init o' ∈ [Call.close] → o'.fd ≠ h.comm.serialFd) ∧
      h.comm.serialFd ∈ (h.run [.init ⟨-1, 115200, true, true, 0⟩, .close]).1.openFds ∧
      (h.run [.init ⟨-1, 115200, true, true, 0⟩, .close]).1.comm.serialFd ≠ h.comm.serialFd ∧
      Syscall.closed h.comm.serialFd ∉ (h.run [.init ⟨-1, 115200, true, true, 0⟩, .close]).2 :=
  have hfd : (new.init ⟨3, 115200, true, true, 7⟩).1.comm.serialFd ≠ -1 := by decide
  have hopen : (new.init ⟨3, 115200, true, true, 7⟩).1.comm.serialFd ∈
      (new.init ⟨3, 115200, true, true, 7⟩).1.openFds := by decide
  have hne : (-1 : Int) ≠ (new.init ⟨3, 115200, true, true, 7⟩).1.comm.serialFd := by decide
  have hcs : ∀ o', Call.init o' ∈ [Call.close] →
      o'.fd ≠ (new.init ⟨3, 115200, true, true, 7⟩).1.comm.serialFd := fun _ h => by simp at h
  ⟨hfd, hopen, hne, hcs, reinit_leaks hfd hopen ⟨-1, 115200, true, true, 0⟩ hne [.close] hcs⟩

end Host

end ESP32Comm

end TouchBridge
