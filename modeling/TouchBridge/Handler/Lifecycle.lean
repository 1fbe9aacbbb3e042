import TouchBridge.Handler.Process
/-!
# `init`, `close`, `start` and `stop`

The lifecycle calls touch four members — `input_fd_`, `initialized_`,
`running_`, `event_thread_` — and the process's descriptor table. A `Host`
pairs the handler with the descriptors its `open` calls left open, so
that a descriptor overwritten while open stays visible as a leak.

`start` and `stop` keep the thread in step with `running_` over every
sequence of calls (`joinable_iff_running`), so `start` never assigns to a
joinable `event_thread_`. The rest of the lifecycle invariant holds only
for callers that `init` a closed handler and `close` a stopped one, as the
destructor does (`stop(); close();`): a second `init` overwrites an open
descriptor, and `close` leaves the reader thread running
(`reinit_and_close_running`).
-/

namespace TouchBridge

namespace TouchHandler

open InputCode

/-- What `open` and `ioctl(EVIOCGBIT)` give one call of `init`. -/
structure InitOutcome where
  /-- The descriptor `open` returns, `-1` when it fails. -/
  fd : Int
  /-- `ioctl`'s return value. -/
  ioctlResult : Int
  /-- The event-type bits it reports. -/
  evbit : Nat
deriving DecidableEq, Repr

/-- **The handler and the descriptors its `open` calls hold open.** -/
structure Host where
  handler : TouchHandler
  openFds : List Int
deriving DecidableEq, Repr

namespace Host

/-- The constructed handler, with nothing open. -/
def new : Host := ⟨TouchHandler.new, []⟩

/-- `::close(input_fd_); input_fd_ = -1;` -/
def closeFd (s : Host) : Host :=
  ⟨{ s.handler with inputFd := -1 }, s.openFds.filter (· ≠ s.handler.inputFd)⟩

/-- **`TouchHandler::init`**: open the device; give the descriptor back
when the capability query fails or shows no `EV_ABS`; otherwise mark the
handler initialized. A failed `open` returns at once, leaving
`initialized_` as it was. -/
def init (s : Host) (o : InitOutcome) : Host × Bool :=
  let s : Host := ⟨{ s.handler with inputFd := o.fd },
    if o.fd = -1 then s.openFds else o.fd :: s.openFds⟩
  if o.fd = -1 then (s, false)
  else if o.ioctlResult < 0 then (s.closeFd, false)
  else if o.evbit &&& (1 <<< evAbs) = 0 then (s.closeFd, false)
  else (⟨{ s.handler with initialized := true }, s.openFds⟩, true)

/-- **`TouchHandler::close`**: give the descriptor back if one is held,
and mark the handler uninitialized. The reader thread is not stopped. -/
def close (s : Host) : Host :=
  let s := if s.handler.inputFd ≠ -1 then s.closeFd else s
  ⟨{ s.handler with initialized := false }, s.openFds⟩

/-- **`TouchHandler::start`**: on an initialized, stopped handler, set
`running_` and assign a new reader thread to `event_thread_`. -/
def start (s : Host) : Host :=
  if !s.handler.initialized || s.handler.running then s
  else ⟨{ s.handler with running := true, eventThreadJoinable := true }, s.openFds⟩

/-- **`TouchHandler::stop`**: clear `running_` and join the reader thread. -/
def stop (s : Host) : Host :=
  if !s.handler.running then s
  else ⟨{ s.handler with running := false, eventThreadJoinable := false }, s.openFds⟩

/-- `start` reaches `event_thread_ = std::thread(...)` with a thread still
joinable, which calls `std::terminate`. -/
def StartAssignsJoinable (s : Host) : Prop :=
  s.handler.initialized = true ∧ s.handler.running = false ∧ s.handler.eventThreadJoinable = true

end Host

/-- The lifecycle calls. -/
inductive Call
  | init (o : InitOutcome)
  | close
  | start
  | stop
deriving DecidableEq, Repr

namespace Host

/-- One call. -/
def call (s : Host) : Call → Host
  | .init o => (s.init o).1
  | .close => s.close
  | .start => s.start
  | .stop => s.stop

/-- The host after the calls `cs`, in order. -/
def run : Host → List Call → Host
  | s, [] => s
  | s, c :: cs => (s.call c).run cs

/-- The callers' side of the contract: `init` only a handler that is not
initialized, `close` only a stopped one. -/
def Allowed (s : Host) : Call → Prop
  | .init _ => s.handler.initialized = false
  | .close => s.handler.running = false
  | .start => True
  | .stop => True

instance (s : Host) : DecidablePred s.Allowed := fun c =>
  match c with
  | .init _ => inferInstanceAs (Decidable (s.handler.initialized = false))
  | .close => inferInstanceAs (Decidable (s.handler.running = false))
  | .start => inferInstanceAs (Decidable True)
  | .stop => inferInstanceAs (Decidable True)

/-- Every call of the sequence is allowed in the state it meets. -/
def Disciplined : Host → List Call → Prop
  | _, [] => True
  | s, c :: cs => s.Allowed c ∧ Disciplined (s.call c) cs

instance decDisciplined : ∀ (s : Host) (cs : List Call), Decidable (s.Disciplined cs)
  | _, [] => isTrue trivial
  | s, c :: cs =>
    haveI := decDisciplined (s.call c) cs
    inferInstanceAs (Decidable (s.Allowed c ∧ (s.call c).Disciplined cs))

/-- **The lifecycle invariant.** -/
structure Inv (s : Host) : Prop where
  initialized_iff : s.handler.initialized = true ↔ s.handler.inputFd ≠ -1
  running_initialized : s.handler.running = true → s.handler.initialized = true
  joinable_iff : s.handler.eventThreadJoinable = true ↔ s.handler.running = true
  /-- Every descriptor `init` opened and nobody closed is the one held. -/
  no_leak : ∀ d ∈ s.openFds, d = s.handler.inputFd ∧ d ≠ -1

theorem inv_new : new.Inv :=
  ⟨by decide, by decide, by decide, by simp [new]⟩

variable {s : Host}

/-- `init` leaves the reader thread alone. -/
theorem init_thread (o : InitOutcome) :
    (s.init o).1.handler.running = s.handler.running ∧
      (s.init o).1.handler.eventThreadJoinable = s.handler.eventThreadJoinable := by
  unfold init closeFd; split_ifs <;> exact ⟨rfl, rfl⟩

/-- `close` leaves the reader thread alone. -/
theorem close_thread :
    s.close.handler.running = s.handler.running ∧
      s.close.handler.eventThreadJoinable = s.handler.eventThreadJoinable := by
  unfold close closeFd; split_ifs <;> exact ⟨rfl, rfl⟩

theorem joinable_iff_call (h : s.handler.eventThreadJoinable = true ↔ s.handler.running = true)
    (c : Call) :
    (s.call c).handler.eventThreadJoinable = true ↔ (s.call c).handler.running = true := by
  cases c with
  | init o =>
    obtain ⟨h1, h2⟩ := init_thread (s := s) o
    simpa only [call, h1, h2] using h
  | close =>
    obtain ⟨h1, h2⟩ := close_thread (s := s)
    simpa only [call, h1, h2] using h
  | start => unfold call start; split_ifs <;> simp_all
  | stop => unfold call stop; split_ifs <;> simp_all

/-- **The thread follows `running_` over every sequence of calls.** -/
theorem joinable_iff_running (cs : List Call) :
    (new.run cs).handler.eventThreadJoinable = true ↔ (new.run cs).handler.running = true := by
  suffices ∀ s : Host, (s.handler.eventThreadJoinable = true ↔ s.handler.running = true) →
      ((s.run cs).handler.eventThreadJoinable = true ↔ (s.run cs).handler.running = true) from
    this new (by decide)
  induction cs with
  | nil => exact fun _ h => h
  | cons c cs ih => exact fun s h => ih _ (joinable_iff_call h c)

/-- Holding no descriptor, a host that keeps the invariant has none open. -/
theorem Inv.openFds_eq_nil (hi : s.Inv) (hfd : s.handler.inputFd = -1) : s.openFds = [] :=
  List.eq_nil_iff_forall_not_mem.2 fun d hd => (hi.no_leak d hd).2 ((hi.no_leak d hd).1.trans hfd)

/-- Giving back the one descriptor held closes everything. -/
theorem closeFd_openFds (hi : s.Inv) : s.closeFd.openFds = [] := by
  simp only [closeFd, List.filter_eq_nil_iff, decide_eq_true_eq, not_not]
  exact fun d hd => (hi.no_leak d hd).1

/-- A host with no descriptor, nothing open, and no reader keeps the invariant. -/
theorem inv_of_closed (hfd : s.handler.inputFd = -1) (hc : s.handler.initialized = false)
    (hr : s.handler.running = false) (hj : s.handler.eventThreadJoinable = false)
    (hnil : s.openFds = []) : s.Inv :=
  ⟨by simp [hfd, hc], fun h => by simp [hr] at h, by simp [hr, hj], by simp [hnil]⟩

theorem inv_init (hi : s.Inv) (hc : s.handler.initialized = false) (o : InitOutcome) :
    (s.init o).1.Inv := by
  have hfd : s.handler.inputFd = -1 := by simpa [hc] using hi.initialized_iff
  have hnil := hi.openFds_eq_nil hfd
  have hrun : s.handler.running = false :=
    Bool.eq_false_iff.2 fun hr => by simp [hi.running_initialized hr] at hc
  have hj : s.handler.eventThreadJoinable = false := by simpa [hrun] using hi.joinable_iff
  unfold init closeFd
  split_ifs with h1 h2 h3
  · exact inv_of_closed h1 hc hrun hj (by simp [h1, hnil])
  · exact inv_of_closed rfl hc hrun hj (by simp [h1, hnil])
  · exact inv_of_closed rfl hc hrun hj (by simp [h1, hnil])
  · exact ⟨by simpa using h1, fun _ => rfl, by simp [hrun, hj], by simp [h1, hnil]⟩

theorem inv_close (hi : s.Inv) (hr : s.handler.running = false) : s.close.Inv := by
  have hj : s.handler.eventThreadJoinable = false := by simpa [hr] using hi.joinable_iff
  unfold close
  split_ifs with hfd
  · exact inv_of_closed rfl rfl hr hj (closeFd_openFds hi)
  · exact inv_of_closed (not_not.1 hfd) rfl hr hj (hi.openFds_eq_nil (not_not.1 hfd))

theorem inv_start (hi : s.Inv) : s.start.Inv := by
  unfold start
  split_ifs with hs
  · exact hi
  · simp only [Bool.or_eq_true, Bool.not_eq_true', not_or, Bool.not_eq_false] at hs
    exact ⟨hi.initialized_iff, fun _ => hs.1, Iff.rfl, hi.no_leak⟩

theorem inv_stop (hi : s.Inv) : s.stop.Inv := by
  unfold stop
  split_ifs
  · exact hi
  · exact ⟨hi.initialized_iff, (nomatch ·), Iff.rfl, hi.no_leak⟩

theorem inv_run (hi : s.Inv) {cs : List Call} (hd : s.Disciplined cs) : (s.run cs).Inv := by
  induction cs generalizing s with
  | nil => exact hi
  | cons c cs ih =>
    obtain ⟨hc, hrest⟩ := hd
    refine ih ?_ hrest
    cases c with
    | init o => exact inv_init hi hc o
    | close => exact inv_close hi hc
    | start => exact inv_start hi
    | stop => exact inv_stop hi

/-- **The lifecycle invariant.** Over every
sequence of calls from construction, whatever `open` and `ioctl` return,
`event_thread_` is joinable exactly while `running_` holds, so `start`
never assigns to a joinable thread. Over every sequence that `init`s only
a handler that is not initialized and `close`s only a stopped one,
moreover `initialized_` holds iff `input_fd_ != -1`, `running_` implies
`initialized_`, and every descriptor `open` returned is either closed or
the one `input_fd_` holds. -/
theorem lifecycle_invariant :
    (∀ cs : List Call, ¬ (new.run cs).StartAssignsJoinable ∧
      ((new.run cs).handler.eventThreadJoinable = true ↔ (new.run cs).handler.running = true)) ∧
    (∀ cs : List Call, new.Disciplined cs → (new.run cs).Inv) := by
  refine ⟨fun cs => ⟨fun ⟨_, hr, hj⟩ => ?_, joinable_iff_running cs⟩,
    fun cs hd => inv_run inv_new hd⟩
  simp [(joinable_iff_running cs).1 hj] at hr

/-- The destructor's order, after a successful `init` and `start`, keeps to
the contract, so the handler it leaves satisfies the invariant. -/
theorem lifecycle_invariant_destructor_order :
    new.Disciplined [.init ⟨3, 0, 8⟩, .start, .stop, .close] ∧
      ¬ (new.run [.init ⟨3, 0, 8⟩, .start, .stop, .close]).StartAssignsJoinable ∧
      (new.run [.init ⟨3, 0, 8⟩, .start, .stop, .close]).Inv :=
  ⟨by decide, (lifecycle_invariant.1 _).1, lifecycle_invariant.2 _ (by decide)⟩

/-- **A second `init` leaks, and `close` does not stop the reader.** After
a successful `init` on descriptor `3`, an `init` whose `open` fails leaves
`initialized_` set with `input_fd_ = -1` and descriptor `3` open; and
`close` on a started handler leaves `running_` set on an uninitialized one. -/
theorem reinit_and_close_running :
    (new.run [.init ⟨3, 0, 8⟩, .init ⟨-1, 0, 0⟩]).handler.initialized = true ∧
    (new.run [.init ⟨3, 0, 8⟩, .init ⟨-1, 0, 0⟩]).handler.inputFd = -1 ∧
    (new.run [.init ⟨3, 0, 8⟩, .init ⟨-1, 0, 0⟩]).openFds = [3] ∧
    (new.run [.init ⟨3, 0, 8⟩, .start, .close]).handler.running = true ∧
    (new.run [.init ⟨3, 0, 8⟩, .start, .close]).handler.initialized = false := by
  decide

end Host

end TouchHandler

end TouchBridge
