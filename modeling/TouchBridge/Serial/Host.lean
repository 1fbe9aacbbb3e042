import TouchBridge.Serial.Decimal
/-!
# `ESP32Comm`: the host's side of the serial link

Each `send_*` call builds one command with an `ostringstream` and passes it
to `send_command`, which appends `\n` and writes the line to the serial
descriptor. The commands are `VERB,a,b` with the arguments in decimal
(`fieldsCommand`), or the bare `RESET` and `STATUS`.

`write_to_serial` reports a short write as a failure, but the bytes `write`
did take are on the wire (`writeToSerial`); `wire` is the byte stream a
sequence of sends leaves for the firmware.
-/

namespace TouchBridge

/-- The members of **`ESP32Comm`** that `send_command` reads. -/
structure ESP32Comm where
  serialFd : Int
  connected : Bool
deriving DecidableEq, Repr

namespace ESP32Comm

/-- The command `cmd << "VERB," << a << "," << b` builds. -/
def fieldsCommand (verb : String) (a b : Int) : List Char :=
  verb.toList ++ ',' :: (formatInt a ++ ',' :: formatInt b)

/-- The command **`send_goto(x, y)`** sends. -/
def sendGoto (x y : CInt) : List Char := fieldsCommand "MOVE" x.val y.val

/-- The command **`send_click(x, y)`** sends. -/
def sendClick (x y : CInt) : List Char := fieldsCommand "CLICK" x.val y.val

/-- The command **`send_scroll(x, y, direction, amount)`** sends; `x` and `y` are not sent. -/
def sendScroll (_x _y direction amount : CInt) : List Char :=
  fieldsCommand "SCROLL" direction.val amount.val

/-- The command **`send_scroll_up(x, y, amount)`** sends: direction `1`. -/
def sendScrollUp (_x _y amount : CInt) : List Char := fieldsCommand "SCROLL" 1 amount.val

/-- The command **`send_scroll_down(x, y, amount)`** sends: direction `-1`. -/
def sendScrollDown (_x _y amount : CInt) : List Char := fieldsCommand "SCROLL" (-1) amount.val

/-- The command **`send_home()`** sends. -/
def sendHome : List Char := "RESET".toList

/-- The command **`send_status()`** sends. -/
def sendStatus : List Char := "STATUS".toList

/-- The command **`send_calibrate(x, y)`** sends. -/
def sendCalibrate (x y : CInt) : List Char := fieldsCommand "RESET" x.val y.val

/-- The command **`send_screen_resolution(width, height)`** sends. -/
def sendScreenResolution (width height : CInt) : List Char :=
  fieldsCommand "SCREEN" width.val height.val

/-- A call of one of the nine `send_*` methods. -/
inductive Send
  | goto (x y : CInt)
  | click (x y : CInt)
  | scroll (x y direction amount : CInt)
  | scrollUp (x y amount : CInt)
  | scrollDown (x y amount : CInt)
  | home
  | status
  | calibrate (x y : CInt)
  | screenResolution (width height : CInt)

/-- The command a call passes to `send_command`. -/
def Send.command : Send → List Char
  | .goto x y => sendGoto x y
  | .click x y => sendClick x y
  | .scroll x y direction amount => sendScroll x y direction amount
  | .scrollUp x y amount => sendScrollUp x y amount
  | .scrollDown x y amount => sendScrollDown x y amount
  | .home => sendHome
  | .status => sendStatus
  | .calibrate x y => sendCalibrate x y
  | .screenResolution width height => sendScreenResolution width height

/-- **`write_to_serial(data)`**, given what `write` returns: the bytes that
reach the device, and the result. A count short of the whole line is
reported as a failure, after its bytes have gone out. -/
def writeToSerial (data : List Char) (bytesWritten : Int) : List Char × Bool :=
  if bytesWritten < 0 then ([], false)
  else if bytesWritten.toNat ≠ data.length then (data.take bytesWritten.toNat, false)
  else (data, true)

/-- **`send_command(command)`**: refuse when not connected, otherwise write
the command and a line feed. -/
def sendCommand (c : ESP32Comm) (command : List Char) (bytesWritten : Int) : List Char × Bool :=
  if !c.connected || c.serialFd = -1 then ([], false)
  else writeToSerial (command ++ ['\n']) bytesWritten

/-- One `send_*` call: its command through `send_command`. -/
def send (c : ESP32Comm) (s : Send) (bytesWritten : Int) : List Char × Bool :=
  c.sendCommand s.command bytesWritten

/-- The bytes a sequence of `send_*` calls leaves on the wire, given what
each `write` returns. -/
def wire (c : ESP32Comm) : List (Send × Int) → List Char
  | [] => []
  | (s, w) :: rest => (c.send s w).1 ++ c.wire rest

/-- A `send_command` that succeeds wrote its command and a line feed. -/
theorem sendCommand_eq_true {c : ESP32Comm} {command : List Char} {w : Int}
    (h : (c.sendCommand command w).2 = true) :
    (c.sendCommand command w).1 = command ++ ['\n'] := by
  unfold sendCommand writeToSerial at *
  split_ifs at h ⊢
  rfl

end ESP32Comm

end TouchBridge
