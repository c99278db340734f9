import Vold.Volume

/-!
# The kernel mount table

Mounts stack: a new mount at a point covers the ones below it, and an unmount of the
point removes the most recent one. The table is a list with the most recent mount
first. Each entry also carries the id of the volume whose call (or whose sdcard daemon) made
it and the number of that call; the kernel keeps neither, they let statements say which
mounts a volume made and when.

A path names the point the kernel looks up: the string up to its first NUL, which is all a C
string passes, with empty and `.` components dropped and each `..` going up one component;
vold runs in `/`, so a relative path is read from there. Two paths are one mount point when
they resolve alike, so `/mnt/user/0/..` and `/mnt/user/10/..` are both `/mnt/user`. The empty
path names no point: the kernel refuses it with `ENOENT`.
-/

namespace Vold

/-- One active mount. -/
structure Mount where
  point : String
  owner : String
  stamp : Nat
  deriving DecidableEq, Repr

namespace Kernel

/-- The components of a path, split at each `/`; `cur` holds the current one, reversed. -/
def splitSlash (cur : List Char) : List Char → List (List Char)
  | [] => [cur.reverse]
  | c :: cs => if c = '/' then cur.reverse :: splitSlash [] cs else splitSlash (c :: cur) cs

/-- Walk down the components from the directory `acc` (deepest component first): an empty
component and `.` stay, `..` goes up one, any other goes down into it. -/
def walk (acc : List (List Char)) : List (List Char) → List (List Char)
  | [] => acc
  | w :: ws =>
      if w = [] ∨ w = ['.'] then walk acc ws
      else if w = ['.', '.'] then walk acc.tail ws
      else walk (w :: acc) ws

/-- The mount point a path names, as its components, deepest first. The empty path gets a key
that no other path has: its only component is a NUL, which a path cut at its first NUL never
holds. -/
def resolve (p : String) : List (List Char) :=
  let cs := p.data.takeWhile (· != Char.ofNat 0)
  if cs = [] then [[Char.ofNat 0]] else walk [] (splitSlash [] cs)

/-- Whether anything is mounted at `p`. -/
def isMounted (p : String) (t : List Mount) : Bool :=
  t.any fun m => decide (resolve m.point = resolve p)

/-- Unmounting `p` removes the most recent mount there. -/
def unmountTop (p : String) (t : List Mount) : List Mount :=
  t.eraseP fun m => decide (resolve m.point = resolve p)

/-- The stack of mounts at `p`, most recent first. -/
def mountsAt (p : String) (t : List Mount) : List Mount :=
  t.filter fun m => decide (resolve m.point = resolve p)

/-- How many of the paths `ps` name the point `q`. -/
def countAt (q : String) (ps : List String) : Nat :=
  ps.countP fun p => decide (resolve p = resolve q)

@[simp] theorem countAt_nil (q : String) : countAt q [] = 0 := rfl

@[simp] theorem countAt_append (q : String) (ps ps' : List String) :
    countAt q (ps ++ ps') = countAt q ps + countAt q ps' :=
  List.countP_append _ _ _

@[simp] theorem countAt_cons (q p : String) (ps : List String) :
    countAt q (p :: ps) = countAt q ps + if resolve p = resolve q then 1 else 0 := by
  simp [countAt, List.countP_cons]

theorem countAt_eq_zero {q : String} {ps : List String} :
    countAt q ps = 0 ↔ ∀ p ∈ ps, resolve p ≠ resolve q := by
  simp [countAt, List.countP_eq_zero]

theorem countAt_reverse (q : String) (ps : List String) : countAt q ps.reverse = countAt q ps :=
  List.countP_reverse _ _

theorem countAt_le_of_subperm (q : String) {ps ps' : List String} (h : ps.Subperm ps') :
    countAt q ps ≤ countAt q ps' :=
  h.countP_le _

theorem countAt_congr {q q' : String} (h : resolve q = resolve q') (ps : List String) :
    countAt q ps = countAt q' ps := by
  simp [countAt, h]

theorem mountsAt_congr {q q' : String} (h : resolve q = resolve q') (t : List Mount) :
    mountsAt q t = mountsAt q' t := by
  simp [mountsAt, h]

@[simp] theorem mountsAt_append (q : String) (t t' : List Mount) :
    mountsAt q (t ++ t') = mountsAt q t ++ mountsAt q t' :=
  List.filter_append _ _

@[simp] theorem mountsAt_reverse (q : String) (t : List Mount) :
    mountsAt q t.reverse = (mountsAt q t).reverse :=
  List.filter_reverse _ _

theorem length_mountsAt (q : String) (t : List Mount) :
    (mountsAt q t).length = countAt q (t.map Mount.point) := by
  rw [countAt, List.countP_map, List.countP_eq_length_filter]
  rfl

theorem mountsAt_eq_nil {q : String} {t : List Mount} (h : countAt q (t.map Mount.point) = 0) :
    mountsAt q t = [] :=
  List.eq_nil_of_length_eq_zero ((length_mountsAt q t).trans h)

theorem mem_of_mem_mountsAt {q : String} {t : List Mount} {m : Mount} (h : m ∈ mountsAt q t) :
    m ∈ t :=
  List.mem_of_mem_filter h

theorem isMounted_eq_false {p : String} {t : List Mount} (h : isMounted p t = false) :
    mountsAt p t = [] := by
  simpa [isMounted, mountsAt, List.filter_eq_nil_iff] using h

theorem mountsAt_cons_self {p : String} {m : Mount} (h : resolve m.point = resolve p)
    (t : List Mount) : mountsAt p (m :: t) = m :: mountsAt p t := by
  simp [mountsAt, h]

theorem mountsAt_cons_of_ne {p : String} {m : Mount} (h : resolve m.point ≠ resolve p)
    (t : List Mount) : mountsAt p (m :: t) = mountsAt p t := by
  simp [mountsAt, h]

theorem mountsAt_unmountTop_self (p : String) (t : List Mount) :
    mountsAt p (unmountTop p t) = (mountsAt p t).tail := by
  induction t with
  | nil => rfl
  | cons m t ih =>
      by_cases h : resolve m.point = resolve p
      · simp [unmountTop, mountsAt, List.eraseP_cons, h]
      · simp only [unmountTop, List.eraseP_cons, h, decide_False, cond_false] at ih ⊢
        rw [mountsAt_cons_of_ne h, mountsAt_cons_of_ne h, ih]

theorem mountsAt_unmountTop_of_ne {p q : String} (h : resolve q ≠ resolve p) (t : List Mount) :
    mountsAt p (unmountTop q t) = mountsAt p t := by
  induction t with
  | nil => rfl
  | cons m t ih =>
      by_cases hq : resolve m.point = resolve q
      · have hp : resolve m.point ≠ resolve p := hq ▸ h
        simp [unmountTop, List.eraseP_cons, hq, mountsAt_cons_of_ne hp]
      · simp only [unmountTop, List.eraseP_cons, hq, decide_False, cond_false] at ih ⊢
        by_cases hp : resolve m.point = resolve p
        · rw [mountsAt_cons_self hp, mountsAt_cons_self hp, ih]
        · rw [mountsAt_cons_of_ne hp, mountsAt_cons_of_ne hp, ih]

/-- How the stack at one point changes over a stretch of code that unmounts there `pops` times
while running daemons, which had `budget` mounts there still to make, make some of them and keep
`budget'` for later. What is left is the old stack less its first `j` mounts, `j ≤ pops`, under
`late` mounts the daemons made, none stamped before `stamp`; `d` counts the daemons' mounts an
unmount took away again. When every unmount call succeeded (`succeed`), each one took a mount,
the daemons' or the old stack's, unless the old stack was used up. -/
def Unstacked (old new : List Mount) (pops budget budget' stamp : Nat) (succeed : Prop) : Prop :=
  ∃ late j d, new = late ++ old.drop j ∧ late.length + d + budget' ≤ budget ∧ j ≤ pops ∧
    (∀ m ∈ late, stamp ≤ m.stamp) ∧ (succeed → pops ≤ j + d ∨ old.length ≤ j)

namespace Unstacked

variable {old mid new : List Mount} {p p' b b' b'' st st' : Nat} {S S' : Prop}

theorem refl (old : List Mount) (b st : Nat) (S : Prop) : Unstacked old old 0 b b st S :=
  ⟨[], 0, 0, rfl, by simp, le_rfl, by simp, fun _ => .inl le_rfl⟩

/-- Daemons' mounts on top of the stack, stamped `st` or later, spend their budget. -/
theorem daemon {late : List Mount} (hb : late.length + b' ≤ b) (hst : ∀ m ∈ late, st ≤ m.stamp)
    (S : Prop) : Unstacked old (late ++ old) 0 b b' st S :=
  ⟨late, 0, 0, rfl, by omega, le_rfl, hst, fun _ => .inl (Nat.zero_le _)⟩

/-- An unmount call that took the top of the stack, or found it empty. -/
theorem pop (old : List Mount) (b st : Nat) (S : Prop) : Unstacked old old.tail 1 b b st S :=
  ⟨[], 1, 0, by simp, by simp, le_rfl, by simp, fun _ => .inl le_rfl⟩

/-- An unmount call that failed; the stretch it ends does not succeed. -/
theorem fail (old : List Mount) (b st : Nat) {S : Prop} (hS : ¬S) : Unstacked old old 1 b b st S :=
  ⟨[], 0, 0, rfl, by simp, Nat.zero_le _, by simp, fun h => absurd h hS⟩

theorem mono_succeed (h : Unstacked old new p b b' st S) (hS : S' → S) :
    Unstacked old new p b b' st S' := by
  obtain ⟨late, j, d, hn, hb, hj, hst, hs⟩ := h
  exact ⟨late, j, d, hn, hb, hj, hst, fun h => hs (hS h)⟩

theorem mono_pops (h : Unstacked old new p b b' st S) (hp : p ≤ p') (hS : ¬S) :
    Unstacked old new p' b b' st S := by
  obtain ⟨late, j, d, hn, hb, hj, hst, -⟩ := h
  exact ⟨late, j, d, hn, hb, by omega, hst, fun h => absurd h hS⟩

theorem trans (h : Unstacked old mid p b b' st S) (h' : Unstacked mid new p' b' b'' st' S')
    (hst : st ≤ st') : Unstacked old new (p + p') b b'' st (S ∧ S') := by
  obtain ⟨l1, j1, d1, rfl, hb1, hj1, hst1, hs1⟩ := h
  obtain ⟨l2, j2, d2, rfl, hb2, hj2, hst2, hs2⟩ := h'
  refine ⟨l2 ++ l1.drop j2, j1 + (j2 - l1.length), d1 + d2 + min l1.length j2, ?_, ?_, by omega,
    fun m hm => ?_, fun hs => ?_⟩
  · rw [List.drop_append_eq_append_drop, List.drop_drop, List.append_assoc, Nat.add_comm]
  · simp only [List.length_append, List.length_drop]
    omega
  · rcases List.mem_append.mp hm with hm | hm
    · exact hst.trans (hst2 m hm)
    · exact hst1 m (List.mem_of_mem_drop hm)
  · simp only [List.length_append, List.length_drop] at hs2 ⊢
    rcases hs1 hs.1 with h1 | h1 <;> rcases hs2 hs.2 with h2 | h2 <;> omega

/-- With no unmount there and no daemon to mount there, the stack stays as it was. -/
theorem eq_of_zero (h : Unstacked old new 0 0 b' st S) : new = old := by
  obtain ⟨late, j, d, rfl, hb, hj, -⟩ := h
  rw [List.eq_nil_of_length_eq_zero (by omega : late.length = 0), Nat.le_zero.mp hj]
  rfl

/-- With no daemon to mount there, the stack loses only mounts from its top. -/
theorem eq_drop (h : Unstacked old new p 0 b' st S) : ∃ j ≤ p, new = old.drop j := by
  obtain ⟨late, j, d, rfl, hb, hj, -⟩ := h
  exact ⟨j, hj, by rw [List.eq_nil_of_length_eq_zero (by omega : late.length = 0)]; rfl⟩

/-- With no daemon to mount there, a stretch whose unmounts all succeeded took the top `p`
mounts of the stack. -/
theorem eq_drop_of_succeed (h : Unstacked old new p 0 b' st S) (hS : S) : new = old.drop p := by
  obtain ⟨late, j, d, rfl, hb, hj, -, hs⟩ := h
  have hl : late = [] := List.eq_nil_of_length_eq_zero (by omega)
  subst hl
  rcases hs hS with h | h
  · rw [show j = p by omega]; rfl
  · rw [List.nil_append, List.drop_eq_nil_of_le h, List.drop_eq_nil_of_le (by omega)]

/-- When every unmount succeeded, what is left of the old stack lies below its first
`p - b` mounts. -/
theorem suffix_of_succeed (h : Unstacked old new p b b' st S) (hS : S) :
    ∃ late rest, new = late ++ rest ∧ rest <:+ old.drop (p - b) ∧ late.length + b' ≤ b ∧
      ∀ m ∈ late, st ≤ m.stamp := by
  obtain ⟨late, j, d, rfl, hb, hj, hst, hs⟩ := h
  refine ⟨late, old.drop j, rfl, ?_, by omega, hst⟩
  rcases hs hS with h | h
  · rw [show j = (p - b) + (j - (p - b)) by omega, ← List.drop_drop]
    exact List.drop_suffix _ _
  · rw [List.drop_eq_nil_of_le h]
    exact List.nil_suffix

end Unstacked

end Kernel

end Vold
