/-!
# `GcodeSender.Port`: serial ports

The ports that a host offers, how they are described, and which of
them is taken when the operator names none: the first whose name is
usual for a controller, or else the first of all.
-/

set_option autoImplicit false

namespace GcodeSender

/-- A serial port of the host. -/
structure Port where
  /-- The name to open it by, such as `/dev/ttyUSB0` or `COM3`. -/
  name : String
  description : String
  manufacturer : Option String := none
  serialNumber : Option String := none
  /-- The vendor and product numbers of a USB device. -/
  usbIds : Option (UInt16 × UInt16) := none
deriving DecidableEq, Repr

/-- What follows `start` in a name that begins with it. -/
def nameAfter? (start name : String) : Option (List Char) :=
  if start.toList.isPrefixOf name.toList then some (name.toList.drop start.length) else none

/-- Whether a name is usual for the USB port of a controller. A name
that begins like a Windows port is one only if a number follows. -/
def isControllerName (name : String) : Bool :=
  match nameAfter? "COM" name with
  | some number => !number.isEmpty && number.all Char.isDigit
  | none =>
    ["/dev/ttyUSB", "/dev/ttyACM", "/dev/cu.usbserial-", "/dev/cu.usbmodem"].any
      fun start => (nameAfter? start name).isSome

def Port.isLikelyController (p : Port) : Bool := isControllerName p.name

/-- The port that is taken when none is named. -/
def Port.select? (ports : List Port) : Option Port :=
  (ports.find? Port.isLikelyController).or ports.head?

/-- The kind of device behind a port. -/
inductive PortKind where
  | usb (vendor product : UInt16) (manufacturer productName serialNumber : Option String)
  | bluetooth
  | pci
  | unknown
deriving DecidableEq, Repr

/-- The port of a device that the host reports. -/
def Port.ofDevice (name : String) : PortKind → Port
  | .usb vendor product manufacturer productName serialNumber =>
    { name
      description := "USB " ++ manufacturer.getD "Device" ++ " " ++ productName.getD "Serial Port"
      manufacturer
      serialNumber
      usbIds := some (vendor, product) }
  | .bluetooth => { name, description := "Bluetooth Serial" }
  | .pci => { name, description := "PCI Serial" }
  | .unknown => { name, description := "Serial Port" }

end GcodeSender
