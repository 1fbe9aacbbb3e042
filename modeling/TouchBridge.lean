import TouchBridge.Handler.Event
import TouchBridge.Handler.Process
import TouchBridge.Handler.Run
import TouchBridge.Handler.Latch
import TouchBridge.Handler.Scroll
import TouchBridge.Handler.Frame
import TouchBridge.Handler.Contact
import TouchBridge.Handler.Config
import TouchBridge.Handler.Lifecycle
import TouchBridge.Serial.Decimal
import TouchBridge.Handler.Overflow
import TouchBridge.Serial.Host
import TouchBridge.Firmware.ArduinoString
import TouchBridge.Firmware.MoveDialect
import TouchBridge.Serial.RoundTrip
import TouchBridge.Serial.Framing
import TouchBridge.Firmware.SimpleMouse
import TouchBridge.Firmware.MouseTo
import TouchBridge.Firmware.GotoDialect
import TouchBridge.Firmware.Grammar
import TouchBridge.Firmware.Pointer
import TouchBridge.Firmware.SimpleDevice
import TouchBridge.Serial.Session
import TouchBridge.Firmware.Positioner
import TouchBridge.Serial.GotoLink
import TouchBridge.Serial.Link
