import Vold.Mount

/-!
# Volume names

The id the constructor prints, and the stable name `doMount` derives from it and from the
probed UUID. The id can be read back, as the user paths can.
-/

namespace Vold

namespace PublicVolume

theorem publicId_injective : Function.Injective publicId := by
  intro d d' h
  have hd := congrArg String.data h
  simp only [publicId, String.data_append, List.append_assoc, List.singleton_append] at hd
  have hcut := append_cons_cancel (not_mem_toString (c := ',') (by decide))
    (not_mem_toString (c := ',') (by decide)) (List.append_cancel_left hd)
  have hmajor := toString_injective (String.ext hcut.1)
  have hminor := toString_injective (String.ext hcut.2)
  cases d; cases d'
  simp only [Device.mk.injEq]
  exact ⟨UInt32.toNat.inj hmajor, UInt32.toNat.inj hminor⟩

theorem string_append_left_cancel {p a b : String} (h : p ++ a = p ++ b) : a = b :=
  String.ext (List.append_cancel_left (by simpa only [String.data_append] using congrArg String.data h))

/-- Devices with different numbers get different ids, different device nodes, and different
stable names for as long as no UUID was probed. -/
theorem create_distinct (d d' : Device) (b b' : Bool) (h : d ≠ d') :
    (create d b).id ≠ (create d' b').id ∧ (create d b).devPath ≠ (create d' b').devPath ∧
      ∀ v v' : PublicVolume, v.id = (create d b).id → v'.id = (create d' b').id →
        v.fsUuid = "" → v'.fsUuid = "" → v.stableName ≠ v'.stableName := by
  have hid : publicId d ≠ publicId d' := fun he => h (publicId_injective he)
  refine ⟨hid, fun he => hid (string_append_left_cancel he), fun v v' hv hv' hu hu' => ?_⟩
  simpa [stableName, hu, hu', hv, hv'] using hid

theorem create_distinct_sda_sdb :
    (⟨8, 1⟩ : Device) ≠ ⟨8, 17⟩ ∧
      (create ⟨8, 1⟩ true).id ≠ (create ⟨8, 17⟩ true).id ∧
      (create ⟨8, 1⟩ true).devPath ≠ (create ⟨8, 17⟩ true).devPath ∧
      ∀ v v' : PublicVolume, v.id = (create ⟨8, 1⟩ true).id →
        v'.id = (create ⟨8, 17⟩ true).id → v.fsUuid = "" → v'.fsUuid = "" →
          v.stableName ≠ v'.stableName :=
  ⟨by decide, create_distinct ⟨8, 1⟩ ⟨8, 17⟩ true true (by decide)⟩

theorem publicId_isPathComponent (d : Device) : IsPathComponent (publicId d) := by
  have hd : (publicId d).data =
      "public:".data ++ (toString d.major).data ++ ',' :: (toString d.minor).data := by
    simp [publicId, String.data_append]
  have hm : ∀ c : Char, c.isDigit = false → ∀ n : UInt32, c ∉ (toString n).data :=
    fun _ hc n => not_mem_toString (n := n.toNat) hc
  refine ⟨fun h => ?_, by simp [hd, hm '/' rfl], by simp [hd, hm (Char.ofNat 0) rfl], fun h => ?_, fun h => ?_⟩ <;>
    simp [h] at hd

/-- The stable name of a volume made by the constructor is a single path component exactly
when the probe read no UUID, or a UUID that is itself one. -/
theorem stableName_isPathComponent_iff (d : Device) (b : Bool) (md : Metadata) :
    IsPathComponent (withMetadata (create d b) md).stableName ↔
      md.fsUuid = "" ∨ IsPathComponent md.fsUuid := by
  by_cases hu : md.fsUuid = ""
  · simp [stableName, withMetadata, create, hu, publicId_isPathComponent]
  · simp [stableName, withMetadata, hu]

/-- A probe that reads the UUID `..` passes the check, and the raw mount lands on
`/mnt/media_rw/..`, the parent of the raw mount points. -/
theorem dotDot_uuid_mounts_outside :
    ∃ st s', doMount (.failingAt ⟨"vfat", "..", ""⟩ [] 0) ⟨⟨[0], by decide⟩, fun u => u⟩ 0
        ⟨create ⟨8, 1⟩ false, [], 0, [], []⟩ = .next st s' ∧
      ¬IsPathComponent s'.vol.stableName ∧
      ⟨.mount .vfat "/dev/block/vold/public:8,1" "/mnt/media_rw/.." aidExternalStorage, 0⟩ ∈
        s'.log :=
  Outcome.exists_of_returns (by decide)

end PublicVolume

end Vold
