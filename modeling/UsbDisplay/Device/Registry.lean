import UsbDisplay.Device

/-!
The attached displays. Each gets the next number as its handle when it is attached, and a number is
never given twice; an attach that fails uses none up.
-/

namespace UsbDisplay

/-- The attached displays and the handle that comes next. -/
structure Registry where
  nextId : Nat := 0
  config : Config := {}
  devices : List Device := []

namespace Registry

def find? (r : Registry) (handle : Nat) : Option Device :=
  r.devices.find? (·.id == handle)

/-- The display with a handle, or the error that there is none. -/
def device (r : Registry) (handle : Nat) : Except Error Device :=
  match r.find? handle with
  | some d => .ok d
  | none => .error (.unknownDevice handle)

/-- Replaces the display that has the handle of `d`. -/
def put (r : Registry) (d : Device) : Registry :=
  { r with devices := r.devices.map fun e => if e.id == d.id then d else e }

def attach {σ : Type} [ControlTransport σ] (r : Registry) (socket : Nat) (s : σ) :
    Except Error (Nat × Registry) × σ :=
  match Device.attach r.nextId socket r.config s with
  | (.error e, s) => (.error e, s)
  | (.ok d, s) =>
    (.ok (r.nextId, { r with nextId := r.nextId + 1, devices := r.devices ++ [d] }), s)

def remove (r : Registry) (handle : Nat) : Except Error (Device × Registry) :=
  match r.find? handle with
  | none => .error (.unknownDevice handle)
  | some d => .ok (d, { r with devices := r.devices.filter (·.id != handle) })

def size (r : Registry) : Nat := r.devices.length

def isEmpty (r : Registry) : Bool := r.devices.isEmpty

end Registry

end UsbDisplay
