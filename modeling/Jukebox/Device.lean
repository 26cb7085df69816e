import Jukebox.Error

/-!
Which device to play on.
-/

namespace Jukebox

/-- The service has no device to offer. -/
def Error.noDevices : Error :=
  ⟨.noDeviceAvailable, "service reports no devices"⟩

namespace Device

/-- The first device of the preferred name, or else the first device of all. -/
def select? (devices : List Device) (preferred : Option String) : Option Device :=
  match preferred.bind fun name => devices.find? (·.name == name) with
  | some device => some device
  | none => devices.head?

/-- Selects a device, which fails only if there is none. -/
def select (devices : List Device) (preferred : Option String) : Except Error Device :=
  match select? devices preferred with
  | some device => .ok device
  | none => .error .noDevices

end Device
end Jukebox
