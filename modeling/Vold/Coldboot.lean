import Mathlib.Algebra.Order.BigOperators.Group.List
import Mathlib.Algebra.Order.Ring.Nat

/-!
# `coldboot`

At start-up `vold` walks `/sys/block` and writes `add` to every `uevent` file it meets, so that
the kernel replays the block devices' events. `do_coldboot` follows any entry of the top
directory that opens as a directory, symlinks included, and below it only entries whose
`d_type` is `DT_DIR`, never an entry whose name starts with '.'.

The file system is a graph of numbered directories: an entry says what it opens as, so a
symlink may point anywhere, cycles included. On every file system whose `DT_DIR` entries go
down a finite tree the walk ends, and it writes to the `uevent` of exactly the directories
the rule above reaches.
-/

namespace Vold

/-- The `d_type` of a directory entry, as far as `do_coldboot` tells them apart. -/
inductive DType
  | dir
  | lnk
  | reg
  | unknown
  deriving DecidableEq, Repr

/-- An entry `readdir` returns: its name, its `d_type`, and the directory that
`openat(dfd, name, O_RDONLY | O_DIRECTORY)` then `fdopendir` reach through it: the directory
itself, the directory a symlink points to, or none when the entry opens as no directory. -/
structure Dirent where
  name : String
  dtype : DType
  opens : Option Nat
  deriving DecidableEq, Repr

/-- The file system as `coldboot` sees it: directories by number, each with its entries in
`readdir` order and whether `openat(dfd, "uevent", O_WRONLY)` succeeds in it, and the directory
`opendir` opens for a path. -/
structure Dirs where
  entries : Nat → List Dirent
  uevent : Nat → Bool
  opendir : String → Option Nat

/-- `de->d_name[0] == '.'`. -/
def Dirent.hidden (de : Dirent) : Bool := de.name.front = '.'

/-- One entry of the `readdir` loop of `do_coldboot` at level `lvl`: skip it when it is hidden,
or when it is no `DT_DIR` entry below the top level, or when it opens as no directory; otherwise
`walk` the directory it opens as. -/
def coldbootEntry (walk : Nat → Option (List Nat)) (lvl : Nat) (de : Dirent) :
    Option (List Nat) :=
  if de.hidden then pure []
  else if de.dtype ≠ .dir ∧ lvl > 0 then pure []
  else match de.opens with
    | none => pure []
    | some d2 => walk d2

/-- `do_coldboot(d, lvl)`: write `add` to the `uevent` of `d`, then run the `readdir` loop, each
entry walked one level deeper. The result lists the directories whose `uevent` was written, in
order; `none` when `fuel` runs out, which the source has no counterpart for. -/
def doColdboot (fs : Dirs) : Nat → Nat → Nat → Option (List Nat)
  | 0, _, _ => none
  | fuel + 1, d, lvl => do
      let subs ← (fs.entries d).mapM
        (coldbootEntry (fun d2 => doColdboot fs fuel d2 (lvl + 1)) lvl)
      pure ((if fs.uevent d then [d] else []) ++ subs.flatten)

/-- `coldboot(path)`: walk the directory `path` opens as, from the top level. -/
def coldboot (fs : Dirs) (fuel : Nat) (path : String) : Option (List Nat) :=
  match fs.opendir path with
  | none => some []
  | some d => doColdboot fs fuel d 0

/-- A `mapM` in `Option` whose every call returns: the lists it returns, flattened, hold what each
call's list holds. -/
theorem mapM_flatten_mem {α β : Type} {f : α → Option (List β)} {Q : α → β → Prop} :
    ∀ {l : List α}, (∀ a ∈ l, ∃ ys, f a = some ys ∧ ∀ x, x ∈ ys ↔ Q a x) →
      ∃ yss, l.mapM f = some yss ∧ ∀ x, x ∈ yss.flatten ↔ ∃ a ∈ l, Q a x
  | [], _ => ⟨[], rfl, by simp⟩
  | a :: l, h => by
      obtain ⟨ys, hf, hys⟩ := h a (List.mem_cons_self a l)
      obtain ⟨yss, hl, hyss⟩ := mapM_flatten_mem fun a' ha' => h a' (List.mem_cons_of_mem a ha')
      refine ⟨ys :: yss, by rw [List.mapM_cons, hf, hl]; rfl, fun x => ?_⟩
      simp [hys, hyss]

/-- One entry of the loop writes what the walk of the directory it opens as writes, when the
entry is followed: not hidden, at the top level or `DT_DIR`, and opening as a directory. -/
theorem coldbootEntry_mem {walk : Nat → Option (List Nat)} {lvl : Nat} {de : Dirent}
    {P : Nat → Nat → Prop}
    (hwalk : de.hidden = false → (lvl = 0 ∨ de.dtype = .dir) → ∀ d2, de.opens = some d2 →
      ∃ ys, walk d2 = some ys ∧ ∀ x, x ∈ ys ↔ P d2 x) :
    ∃ ys, coldbootEntry walk lvl de = some ys ∧ ∀ x, x ∈ ys ↔
      de.hidden = false ∧ (lvl = 0 ∨ de.dtype = .dir) ∧ ∃ d2, de.opens = some d2 ∧ P d2 x := by
  unfold coldbootEntry
  by_cases hh : de.hidden = true
  · exact ⟨[], by simp [hh], by simp [hh]⟩
  by_cases hs : de.dtype ≠ .dir ∧ lvl > 0
  · refine ⟨[], by simp [hh, hs], fun x => ⟨nofun, fun ⟨_, hfol, _⟩ => ?_⟩⟩
    exact absurd hfol (not_or.mpr ⟨Nat.pos_iff_ne_zero.mp hs.2, hs.1⟩)
  simp only [Bool.not_eq_true] at hh
  have hfol : lvl = 0 ∨ de.dtype = .dir :=
    or_iff_not_imp_right.mpr fun hd => Nat.eq_zero_of_not_pos fun h => hs ⟨hd, h⟩
  cases ho : de.opens with
  | none => exact ⟨[], by simp [hh, hs, ho], by simp [ho]⟩
  | some d2 =>
      obtain ⟨ys, hw, hys⟩ := hwalk hh hfol d2 ho
      exact ⟨ys, by simp [hh, hs, ho, hw], by simp [hh, hfol, hys]⟩

/-- One call of `do_coldboot` whose walks of the entries it follows all return, each writing to
the `uevent` of the directories `Q` picks: it writes to those of `d` and of what the walks
write. -/
theorem doColdboot_succ_mem {fs : Dirs} {fuel d lvl : Nat} {Q : Nat → Nat → Prop}
    (h : ∀ de ∈ fs.entries d, de.hidden = false → (lvl = 0 ∨ de.dtype = .dir) →
      ∀ d2, de.opens = some d2 → ∃ ys, doColdboot fs fuel d2 (lvl + 1) = some ys ∧
        ∀ x, x ∈ ys ↔ Q d2 x ∧ fs.uevent x = true) :
    ∃ L, doColdboot fs (fuel + 1) d lvl = some L ∧ ∀ x, x ∈ L ↔
      (x = d ∨ ∃ de ∈ fs.entries d, de.hidden = false ∧ (lvl = 0 ∨ de.dtype = .dir) ∧
        ∃ d2, de.opens = some d2 ∧ Q d2 x) ∧ fs.uevent x = true := by
  obtain ⟨subs, hsubs, hmem⟩ :=
    mapM_flatten_mem (f := coldbootEntry (fun d2 => doColdboot fs fuel d2 (lvl + 1)) lvl)
      fun de hde => coldbootEntry_mem (h de hde)
  refine ⟨_, by rw [doColdboot, hsubs]; rfl, fun x => ?_⟩
  rw [List.mem_append, hmem]
  constructor
  · rintro (hx | ⟨de, hde, hh, hfol, d2, ho, hq, hu⟩)
    · split_ifs at hx with hu
      · obtain rfl := List.mem_singleton.mp hx
        exact ⟨.inl rfl, hu⟩
      · cases hx
    · exact ⟨.inr ⟨de, hde, hh, hfol, d2, ho, hq⟩, hu⟩
  · rintro ⟨rfl | ⟨de, hde, hh, hfol, d2, ho, hq⟩, hu⟩
    · exact .inl (by simp [hu])
    · exact .inr ⟨de, hde, hh, hfol, d2, ho, hq, hu⟩

namespace Dirs

/-- `DT_DIR` entries that are not hidden go strictly down in `depth`, as they do in every finite
tree with `depth` the height of a directory. Hidden entries such as `.` and `..`, and entries
of other types such as symlinks, are not constrained. -/
def Ranked (fs : Dirs) (depth : Nat → Nat) : Prop :=
  ∀ d, ∀ de ∈ fs.entries d, de.hidden = false → de.dtype = .dir →
    ∀ d2, de.opens = some d2 → depth d2 < depth d

/-- The directories reachable from `root`, with their level: from the top directory any entry
that is not hidden and opens as a directory is followed; below it only such `DT_DIR`
entries. -/
inductive Reaches (fs : Dirs) (root : Nat) : Nat → Nat → Prop
  | top : Reaches fs root root 0
  | step {d lvl : Nat} {de : Dirent} {d2 : Nat} : Reaches fs root d lvl → de ∈ fs.entries d →
      de.hidden = false → (lvl = 0 ∨ de.dtype = .dir) → de.opens = some d2 →
      Reaches fs root d2 (lvl + 1)

/-- The directories reachable from `d` by `DT_DIR` entries that are not hidden. -/
inductive Below (fs : Dirs) : Nat → Nat → Prop
  | refl (d : Nat) : Below fs d d
  | step {d d2 x : Nat} {de : Dirent} : de ∈ fs.entries d → de.hidden = false →
      de.dtype = .dir → de.opens = some d2 → Below fs d2 x → Below fs d x

variable {fs : Dirs}

/-- A directory lies below `d` when it is `d` or lies below one a `DT_DIR` entry of `d` opens
as. -/
theorem below_iff {d x : Nat} : fs.Below d x ↔ x = d ∨ ∃ de ∈ fs.entries d,
    de.hidden = false ∧ de.dtype = .dir ∧ ∃ d2, de.opens = some d2 ∧ fs.Below d2 x := by
  constructor
  · rintro (_ | ⟨hde, hh, hdir, ho, hb⟩)
    · exact .inl rfl
    · exact .inr ⟨_, hde, hh, hdir, _, ho, hb⟩
  · rintro (rfl | ⟨de, hde, hh, hdir, d2, ho, hb⟩)
    · exact .refl x
    · exact .step hde hh hdir ho hb

/-- A `DT_DIR` entry extends a chain of them at its end. -/
theorem Below.snoc {d y x : Nat} {de : Dirent} (h : fs.Below d y) (hde : de ∈ fs.entries y)
    (hh : de.hidden = false) (hdir : de.dtype = .dir) (ho : de.opens = some x) :
    fs.Below d x := by
  induction h with
  | refl => exact .step hde hh hdir ho (.refl x)
  | step hde' hh' hdir' ho' _ ih => exact .step hde' hh' hdir' ho' (ih hde)

/-- What lies below a reached directory is reached: `DT_DIR` entries are followed at every
level. -/
theorem Below.reaches {root d x lvl : Nat} (h : fs.Below d x) (hr : fs.Reaches root d lvl) :
    ∃ lvl', fs.Reaches root x lvl' := by
  induction h generalizing lvl with
  | refl => exact ⟨lvl, hr⟩
  | step hde hh hdir ho _ ih => exact ih (hr.step hde hh (.inr hdir) ho)

/-- A reached directory is the top one at level 0, or lies below a directory that an entry of
the top one opens as. -/
theorem reaches_cases {root x lvl : Nat} (h : fs.Reaches root x lvl) :
    (lvl = 0 ∧ x = root) ∨ (0 < lvl ∧ ∃ de ∈ fs.entries root, de.hidden = false ∧
      ∃ d2, de.opens = some d2 ∧ fs.Below d2 x) := by
  induction h with
  | top => exact .inl ⟨rfl, rfl⟩
  | step _ hde hh hfol ho ih =>
      rcases ih with ⟨rfl, rfl⟩ | ⟨hl, de', hde', hh', d2', ho', hb⟩
      · exact .inr ⟨Nat.succ_pos 0, _, hde, hh, _, ho, .refl _⟩
      · exact .inr ⟨Nat.succ_pos _, de', hde', hh', d2', ho',
          hb.snoc hde hh (hfol.resolve_left (Nat.pos_iff_ne_zero.mp hl)) ho⟩

/-- The reached directories are the top one and what lies below the directories its entries
open as, symlinks included. -/
theorem reaches_iff {root x : Nat} : (∃ lvl, fs.Reaches root x lvl) ↔
    x = root ∨ ∃ de ∈ fs.entries root, de.hidden = false ∧
      ∃ d2, de.opens = some d2 ∧ fs.Below d2 x := by
  constructor
  · rintro ⟨lvl, h⟩
    rcases reaches_cases h with ⟨-, rfl⟩ | ⟨-, hex⟩
    · exact .inl rfl
    · exact .inr hex
  · rintro (rfl | ⟨de, hde, hh, d2, ho, hb⟩)
    · exact ⟨0, .top⟩
    · exact hb.reaches (.step .top hde hh (.inl rfl) ho)

end Dirs

/-- Below the top level, `do_coldboot` given more fuel than the depth of its directory writes to
the `uevent` of exactly the directories below it. -/
theorem doColdboot_below {fs : Dirs} {depth : Nat → Nat} (hr : fs.Ranked depth) :
    ∀ fuel d lvl, depth d < fuel → 0 < lvl → ∃ L, doColdboot fs fuel d lvl = some L ∧
      ∀ x, x ∈ L ↔ fs.Below d x ∧ fs.uevent x = true
  | 0, _, _, h, _ => absurd h (Nat.not_lt_zero _)
  | fuel + 1, d, lvl, hd, hl => by
      obtain ⟨L, hL, hmem⟩ := doColdboot_succ_mem (Q := fs.Below) fun de hde hh hfol d2 ho =>
        doColdboot_below hr fuel d2 (lvl + 1)
          (by have := hr d de hde hh (hfol.resolve_left (Nat.pos_iff_ne_zero.mp hl)) d2 ho; omega)
          (Nat.succ_pos lvl)
      refine ⟨L, hL, fun x => ?_⟩
      rw [hmem, Dirs.below_iff]
      simp only [Nat.pos_iff_ne_zero.mp hl, false_or]

/-- At the top level, given more fuel than the depth of every directory an entry opens as, the
walk writes to the `uevent` of exactly the reached directories. -/
theorem doColdboot_top {fs : Dirs} {depth : Nat → Nat} (hr : fs.Ranked depth) {root fuel : Nat}
    (hfuel : ∀ de ∈ fs.entries root, ∀ d2, de.opens = some d2 → depth d2 < fuel) :
    ∃ L, doColdboot fs (fuel + 1) root 0 = some L ∧
      ∀ x, x ∈ L ↔ (∃ lvl, fs.Reaches root x lvl) ∧ fs.uevent x = true := by
  obtain ⟨L, hL, hmem⟩ := doColdboot_succ_mem (Q := fs.Below) fun de hde _ _ d2 ho =>
    doColdboot_below hr fuel d2 1 (hfuel de hde d2 ho) Nat.one_pos
  refine ⟨L, hL, fun x => ?_⟩
  rw [hmem, Dirs.reaches_iff]
  simp only [true_or, true_and]

/-- On every file system whose `DT_DIR` entries go down a finite tree, with symlinks anywhere,
`coldboot(path)` ends, and writes to the `uevent` of exactly the directories reachable from the
directory `path` opens as. -/
theorem coldboot_writes_reachable (fs : Dirs) (depth : Nat → Nat) (hr : fs.Ranked depth)
    (path : String) (root : Nat) (hroot : fs.opendir path = some root) :
    ∃ N, ∀ fuel, N ≤ fuel → ∃ L, coldboot fs fuel path = some L ∧
      ∀ x, x ∈ L ↔ (∃ lvl, fs.Reaches root x lvl) ∧ fs.uevent x = true := by
  refine ⟨(((fs.entries root).filterMap Dirent.opens).map depth).sum + 2, fun fuel hN => ?_⟩
  obtain ⟨fuel, rfl⟩ : ∃ f, fuel = f + 1 := ⟨fuel - 1, by omega⟩
  rw [coldboot, hroot]
  refine doColdboot_top hr fun de hde d2 ho => ?_
  have : depth d2 ≤ (((fs.entries root).filterMap Dirent.opens).map depth).sum :=
    List.le_sum_of_mem (List.mem_map_of_mem depth (List.mem_filterMap.mpr ⟨de, hde, ho⟩))
  omega

/-- A `/sys/block` with one disk: its entry is a symlink to the device directory, which holds a
`DT_DIR` partition, a symlink back to `/sys/block` and a `uevent` file; the partition links
back to the disk. -/
def sysBlock : Dirs where
  entries
    | 0 => [⟨".", .dir, some 0⟩, ⟨"..", .dir, none⟩, ⟨"sda", .lnk, some 1⟩]
    | 1 => [⟨".", .dir, some 1⟩, ⟨"sda1", .dir, some 2⟩, ⟨"subsystem", .lnk, some 0⟩,
        ⟨"uevent", .reg, none⟩]
    | 2 => [⟨"holders", .lnk, some 1⟩, ⟨"uevent", .reg, none⟩]
    | _ => []
  uevent d := d = 1 ∨ d = 2
  opendir p := if p = "/sys/block" then some 0 else none

theorem sysBlock_ranked : sysBlock.Ranked fun d => 2 - d := by
  rintro (_ | _ | _ | d) de hde hh hdir d2 ho <;>
    simp only [sysBlock, List.mem_cons, List.mem_singleton, List.not_mem_nil, or_false] at hde <;>
    rcases hde with rfl | rfl | rfl | rfl <;> cases ho <;> revert hh hdir <;> decide

/-- On that `/sys/block`, whose symlinks form cycles, the walk ends. -/
theorem coldboot_writes_reachable_sysBlock :
    sysBlock.Ranked (fun d => 2 - d) ∧ sysBlock.opendir "/sys/block" = some 0 ∧
      ∃ N, ∀ fuel, N ≤ fuel → ∃ L, coldboot sysBlock fuel "/sys/block" = some L ∧
        ∀ x, x ∈ L ↔ (∃ lvl, sysBlock.Reaches 0 x lvl) ∧ sysBlock.uevent x = true :=
  ⟨sysBlock_ranked, rfl, coldboot_writes_reachable sysBlock _ sysBlock_ranked "/sys/block" 0 rfl⟩

example : coldboot sysBlock 3 "/sys/block" = some [1, 2] := by decide

end Vold
