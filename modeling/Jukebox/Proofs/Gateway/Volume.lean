import Jukebox.Gateway

/-!
# Steps of the volume

The volume after a step is the sum, kept within 0 and 100 (`toNat_stepped`).  The sum is taken in words of 16
bits, which hold it for every volume and every step of one byte up or down (`toInt_target`).
-/

namespace Jukebox.Gateway

/-- The sum of a volume and a step, as it is computed before it is kept within bounds. -/
def target (volume : UInt8) (delta : Int16) : Int16 :=
  Int16.ofNat volume.toNat + delta

theorem toNat_stepped (volume : UInt8) (delta : Int16) :
    ((stepped volume delta).toNat : Int) = max 0 (min 100 (target volume delta).toInt) := by
  have hzero : (0 : Int16).toInt = 0 := rfl
  have hhundred : (100 : Int16).toInt = 100 := rfl
  unfold stepped
  show ((if target volume delta < 0 then (0 : UInt8) else if 100 < target volume delta then 100
    else (target volume delta).toNatClampNeg.toUInt8).toNat : Int) = _
  split
  · next h =>
    rw [Int16.lt_iff_toInt_lt, hzero] at h
    rw [show (0 : UInt8).toNat = 0 from rfl]
    omega
  · next hlow =>
    rw [Int16.lt_iff_toInt_lt, hzero] at hlow
    split
    · next h =>
      rw [Int16.lt_iff_toInt_lt, hhundred] at h
      rw [show (100 : UInt8).toNat = 100 from rfl]
      omega
    · next hhigh =>
      rw [Int16.lt_iff_toInt_lt, hhundred] at hhigh
      rw [← Int16.toNat_toInt]
      have hsize : (target volume delta).toInt.toNat < UInt8.size := by
        unfold UInt8.size
        omega
      rw [Nat.toUInt8, UInt8.toNat_ofNat_of_lt' hsize]
      omega

/-- A volume after a step is a percentage. -/
theorem stepped_le (volume : UInt8) (delta : Int16) : stepped volume delta ≤ 100 := by
  have h := toNat_stepped volume delta
  rw [UInt8.le_iff_toNat_le, show (100 : UInt8).toNat = 100 from rfl]
  omega

/-! ## No overflow -/

/-- A step of so many percent up. -/
theorem toInt_step (step : UInt8) : (Int16.ofNat step.toNat).toInt = step.toNat :=
  Int16.toInt_ofNat_of_lt (Nat.lt_trans step.toNat_lt (by decide))

/-- A step of so many percent down. -/
theorem toInt_neg_step (step : UInt8) : (-Int16.ofNat step.toNat).toInt = -step.toNat := by
  have h := step.toNat_lt
  rw [Int16.toInt_neg, toInt_step]
  exact Int.bmod_eq_of_le (by omega) (by omega)

theorem toInt_target (volume : UInt8) {delta : Int16} (hlow : -255 ≤ delta.toInt)
    (hhigh : delta.toInt ≤ 255) : (target volume delta).toInt = volume.toNat + delta.toInt := by
  have h := volume.toNat_lt
  unfold target
  rw [Int16.toInt_add, toInt_step]
  exact Int.bmod_eq_of_le (by omega) (by omega)

end Jukebox.Gateway
