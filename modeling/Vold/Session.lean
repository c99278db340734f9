import Vold.DoMount

/-!
# Mount sessions

One volume's session: `doMount`, then `bindMountForUser` for users that start while the
volume is up, then `doUnmount`. The teardown finds the sibling binds through the started
users and `mFuseMounted` only, and unmounts each point once, so what it leaves depends on when
and for whom the binds were made; a sdcard daemon still running from an earlier `doMount` can
stack a second view under one the teardown removes.

Volumes share one mount table: a run of another volume is the same world with that volume's
record in place of this one's.
-/

namespace Vold

namespace PublicVolume

open Proc

set_option smartUnfolding false in
/-- The primary volume `public:8,1` mounts and stages its ASEC bind; then the non-primary volume
`public:8,17` mounts on the same table and unmounts again: its unconditional
`ForceUnmount(kAsecPath)` removes the primary volume's bind. -/
theorem other_volume_unmounts_asec :
    ∃ st1 s1 st2 s2 st3 s3,
      doMount (.failingAt ⟨"vfat", "", ""⟩ [] 0) ⟨⟨[0], by decide⟩, fun _ => 0⟩ 0
        ⟨{ create ⟨8, 1⟩ false with mountFlags := ⟨true, true⟩, mountUserId := 0 }, [], 0, [], []⟩ =
        .next st1 s1 ∧
      doMount (.failingAt ⟨"vfat", "", ""⟩ [] 0) ⟨⟨[0], by decide⟩, fun _ => 0⟩ 0
        { s1 with vol := { create ⟨8, 17⟩ false with mountFlags := ⟨false, true⟩, mountUserId := 0 } } =
        .next st2 s2 ∧
      doUnmount (.failingAt ⟨"vfat", "", ""⟩ [] 0) ⟨⟨[0], by decide⟩, fun _ => 0⟩ s2 = .next st3 s3 ∧
      st1 = OK ∧ st2 = OK ∧ s2.vol.id = "public:8,17" ∧
      (⟨kAsecPath, "public:8,1", 7⟩ : Mount) ∈ s2.mounts ∧
      (⟨kAsecPath, "public:8,1", 7⟩ : Mount) ∉ s3.mounts := by
  obtain ⟨st1, s1, h1, hst1, h⟩ := Outcome.exists_of_returns
    (o := doMount (.failingAt ⟨"vfat", "", ""⟩ [] 0) ⟨⟨[0], by decide⟩, fun _ => 0⟩ 0
      ⟨{ create ⟨8, 1⟩ false with mountFlags := ⟨true, true⟩, mountUserId := 0 }, [], 0, [], []⟩)
    (p := fun st1 s1 => st1 = OK ∧ (doMount (.failingAt ⟨"vfat", "", ""⟩ [] 0)
      ⟨⟨[0], by decide⟩, fun _ => 0⟩ 0
      { s1 with vol := { create ⟨8, 17⟩ false with mountFlags := ⟨false, true⟩, mountUserId := 0 } }).returns
      (fun st2 s2 => st2 = OK ∧ s2.vol.id = "public:8,17" ∧
        (⟨kAsecPath, "public:8,1", 7⟩ : Mount) ∈ s2.mounts ∧
        (doUnmount (.failingAt ⟨"vfat", "", ""⟩ [] 0) ⟨⟨[0], by decide⟩, fun _ => 0⟩ s2).returns
          (fun _ s3 => (⟨kAsecPath, "public:8,1", 7⟩ : Mount) ∉ s3.mounts) = true) = true)
    (by decide)
  obtain ⟨st2, s2, h2, hst2, hid, hm, h⟩ := Outcome.exists_of_returns h
  obtain ⟨st3, s3, h3, h⟩ := Outcome.exists_of_returns h
  exact ⟨st1, s1, st2, s2, st3, s3, h1, h2, h3, hst1, hst2, hid, hm, h⟩

end PublicVolume

end Vold
