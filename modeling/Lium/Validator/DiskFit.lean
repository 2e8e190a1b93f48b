import Lium.Validator.VolumeSizing

/-! # Does a rental fit the disk

`_rental_disk_fit` says how much free disk a customer's order needs, so that the filler caches can
be evicted first. `resolve_volume_sizing` grants the volume afterwards.
-/

namespace Lium.VolumeSizing

structure RentalDiskFit where
  ownGb : ℚ
  existingGb : ℚ
  diskShare : ℚ
  freshSizing : Bool
  needsFreeGb : ℚ

def Measured.freeGb (measured : Measured) : ℚ := measured.dfAvailBytes / gbBytes

/-- An order without a volume is never asked about, and a share of zero counts as none. -/
def rentalDiskFit (request : CreateRequest) (localVolume : Bool) (existingVolumesBytes : ℤ) :
    RentalDiskFit :=
  let volumeGb : ℚ := request.volumeLimitGb.getD 0
  let ownGb : ℚ := (if localVolume then 0 else volumeGb) + (request.storageLimitGb.getD 0 : ℤ)
  let freshSizing := measuresHostForVolumeSizing request
  let share := request.diskShare.getD 0
  let diskShare := if freshSizing ∧ share ≠ 0 then share else 1
  let existingGb : ℚ :=
    if freshSizing then existingVolumesBytes / gbBytes - overheadGb else 0
  let needsFreeGb := ownGb / diskShare - existingGb
  { ownGb, existingGb, diskShare, freshSizing
    needsFreeGb :=
      if freshSizing ∧ !localVolume then max needsFreeGb (volumeGb + headroomGb) else needsFreeGb }

section Fit

variable {request : CreateRequest} {share : ℚ} {measured : Measured}

theorem le_capSlice_iff {bound : ℚ} :
    bound ≤ (capSlice request share measured none).2 ↔
      ∀ candidate ∈ sliceCandidates request share measured none, bound ≤ candidate.2 := by
  constructor
  · exact fun le candidate listed => le.trans (capSlice_le candidate listed)
  · intro all
    rw [capSlice]
    cases least : (sliceCandidates request share measured none).argmin Prod.snd with
    | none => simp [List.argmin_eq_none, sliceCandidates] at least
    | some slice => exact all slice (List.argmin_mem least)

/-- The grant is the ordered volume just if the slice is the one that was ordered. -/
theorem granted_iff {volumeGb : ℤ} (large : 2 ≤ volumeGb) (small : volumeGb ≤ maxVolumeGb)
    {slice : ℚ} (capped : slice ≤ (volumeGb * gbBytes : ℤ) * (3 / 2)) :
    min (sliceVolumeGb slice) maxVolumeGb = volumeGb ↔
      (volumeGb * gbBytes : ℤ) * (3 / 2) ≤ slice := by
  have positive := gbBytes_pos
  push_cast at capped ⊢
  have floorLe : ⌊slice * 2 / 3 / gbBytes⌋ ≤ volumeGb := by
    rw [← Int.cast_le (R := ℚ)]
    refine (Int.floor_le _).trans ?_
    rw [div_le_iff₀ positive]
    linarith
  have leFloor : volumeGb ≤ ⌊slice * 2 / 3 / gbBytes⌋ ↔ volumeGb * gbBytes * (3 / 2) ≤ slice := by
    rw [Int.le_floor, le_div_iff₀ positive]
    constructor <;> intro le <;> linarith
  rw [← leFloor, sliceVolumeGb]
  omega

/-- The free disk suffices just if no candidate is below the ordered slice. -/
theorem needsFreeGb_le_iff {volumeGb storageGb : ℤ} (split : volumeGb = 2 * storageGb)
    (large : 2 ≤ volumeGb) (positive : 0 < share) :
    let request : CreateRequest := ⟨some volumeGb, some storageGb, some share, none⟩
    (rentalDiskFit request false measured.existingVolumesBytes).needsFreeGb ≤ measured.freeGb ↔
      ∀ candidate ∈ sliceCandidates request share measured none,
        (volumeGb * gbBytes : ℤ) * (3 / 2) ≤ candidate.2 := by
  intro request
  have bytes := gbBytes_pos
  have halved : (storageGb : ℚ) = volumeGb / 2 := by
    rw [split]
    push_cast
    ring
  have ordered : (0 : ℚ) < volumeGb * gbBytes * (3 / 2) := by
    have : (2 : ℚ) ≤ volumeGb := by exact_mod_cast large
    positivity
  have shared : ((volumeGb : ℚ) + volumeGb / 2) / share -
      (measured.existingVolumesBytes / gbBytes - overheadGb) ≤ measured.dfAvailBytes / gbBytes ↔
      volumeGb * gbBytes * (3 / 2) ≤ share *
        (measured.dfAvailBytes + measured.existingVolumesBytes - overheadGb * gbBytes) := by
    rw [sub_le_iff_le_add, div_le_iff₀ positive]
    rw [show (measured.dfAvailBytes / gbBytes + (measured.existingVolumesBytes / gbBytes -
      overheadGb)) * share = share * (measured.dfAvailBytes + measured.existingVolumesBytes -
        overheadGb * gbBytes) / gbBytes by field_simp; ring, le_div_iff₀ bytes]
    constructor <;> intro le <;> linarith
  have guarded : (volumeGb : ℚ) + headroomGb ≤ measured.dfAvailBytes / gbBytes ↔
      volumeGb * gbBytes * (3 / 2) ≤
        ((measured.dfAvailBytes : ℚ) - headroomGb * gbBytes) * (3 / 2) := by
    rw [le_div_iff₀ bytes]
    constructor <;> intro le <;> linarith
  have clamped {part : ℚ} : volumeGb * gbBytes * (3 / 2) ≤ max part 0 ↔
      volumeGb * gbBytes * (3 / 2) ≤ part := by
    rw [le_max_iff, or_iff_left (not_le.mpr ordered)]
  simp only [rentalDiskFit, measuresHostForVolumeSizing, request, Measured.freeGb,
    Measured.poolBytes, sliceCandidates, Option.getD_some, Option.isSome_some, Bool.and_self,
    Bool.not_false, Bool.false_eq_true, if_false, if_true, and_self, positive.ne', ne_eq,
    not_false_eq_true, max_le_iff, halved, Option.toList_some, Option.toList_none, List.map_cons,
    List.map_nil, List.append_nil, List.cons_append, List.nil_append, List.forall_mem_cons,
    List.not_mem_nil, IsEmpty.forall_iff, implies_true, and_true]
  push_cast
  rw [shared, guarded, mul_max_of_nonneg _ _ positive.le, mul_zero, clamped, clamped]
  simp

/-- A fresh order in the backend's split fits the free disk just if it is granted as ordered. -/
theorem rental_fits_iff_granted {volumeGb storageGb : ℤ} (split : volumeGb = 2 * storageGb)
    (large : 2 ≤ volumeGb) (small : volumeGb ≤ maxVolumeGb) (positive : 0 < share)
    {reads : HostReads} (read : reads.measure = some measured) :
    let request : CreateRequest := ⟨some volumeGb, some storageGb, some share, none⟩
    (rentalDiskFit request false measured.existingVolumesBytes).needsFreeGb ≤ measured.freeGb ↔
      ∃ result, resolveVolumeSizing request reads none = .ok result ∧
        result.volumeLimitGb = some volumeGb := by
  intro request
  have capped : (capSlice request share measured none).2 ≤ (volumeGb * gbBytes : ℤ) * (3 / 2) :=
    capSlice_le (.requestCap, _) (by simp [sliceCandidates, request])
  refine (needsFreeGb_le_iff split large positive).trans ?_
  rw [← le_capSlice_iff, ← granted_iff large small capped]
  simp [resolveVolumeSizing, request, read, freshSizing]

end Fit

def probedHost (dfAvailBytes : ℤ) : HostReads where
  lockedDfAvailBytes := some dfAvailBytes
  lockedDfError := false
  probe := none
  dockerRootDir := some "/var/lib/docker"
  fsAvailableBytes _ := none
  vloopbackVolumeNames := some []
  volumeInspect _ := none

theorem half_node_rental_fits :
    let request : CreateRequest := ⟨some 40, some 20, some (1 / 2), none⟩
    ∃ result, resolveVolumeSizing request (probedHost (140 * gbBytes)) none = .ok result ∧
      result.volumeLimitGb = some 40 :=
  (rental_fits_iff_granted (by decide) (by decide) (by decide) (by norm_num)
    (show (probedHost (140 * gbBytes)).measure = some ⟨140 * gbBytes, 0⟩ by decide)).mp
    (by norm_num [rentalDiskFit, measuresHostForVolumeSizing, Measured.freeGb, overheadGb,
      headroomGb, gbBytes])

end Lium.VolumeSizing
