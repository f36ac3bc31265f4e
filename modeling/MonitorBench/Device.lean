import MonitorBench.Fault
import MonitorBench.Text.Utf8

/-!
# Output devices

A device takes bytes in order. One of limited capacity takes the bytes that fit, also
a part of what is written, and then reports that it is full.
-/

set_option autoImplicit false

namespace MonitorBench

/-- An output with what was written to it. -/
structure Device where
  /-- The bytes taken so far. -/
  taken : Bytes := []
  /-- How many bytes it takes in all; no capacity means no limit. -/
  capacity : Option Nat := none
  deriving DecidableEq

namespace Device

/-- Writes bytes, and tells why not all of them were taken. -/
def write (device : Device) (bytes : Bytes) : Device × Option FileFault :=
  match device.capacity with
  | none => ({ device with taken := device.taken ++ bytes }, none)
  | some capacity =>
    let room := capacity - device.taken.length
    ({ device with taken := device.taken ++ bytes.take room },
      if room < bytes.length then some .deviceFull else none)

end Device

end MonitorBench
