import Vold.Kernel
import Mathlib.Data.Nat.Digits

/-!
# The paths a volume builds

A decimal rendering holds digits only, so it is a single path component and the number can
be read back from it. Built from a name that is a single path component, the paths a volume
mounts at name different mount points: the kernel resolves each to its parent's components
with the name on top, and the user paths are exactly the points two levels below
`/mnt/user`.
-/

namespace Vold

/-- Reads decimal digits back, starting from `acc`. -/
def readDecimal (acc : Nat) (cs : List Char) : Nat :=
  cs.foldl (fun n c => n * 10 + (c.toNat - 48)) acc

theorem digitChar_value : ∀ d < 10, (Nat.digitChar d).toNat - 48 = d := by decide

theorem digitChar_isDigit : ∀ d < 10, (Nat.digitChar d).isDigit = true := by decide

theorem readDecimal_toDigitsCore (fuel n : Nat) (ds : List Char) (h : n < fuel) :
    readDecimal 0 (Nat.toDigitsCore 10 fuel n ds) = readDecimal n ds := by
  induction fuel generalizing n ds with
  | zero => omega
  | succ fuel ih =>
      have hmod := digitChar_value (n % 10) (Nat.mod_lt n (by decide))
      rw [Nat.toDigitsCore]
      split_ifs with hdiv
      · have hn : n % 10 = n := Nat.mod_eq_of_lt (Nat.div_eq_zero_iff (by decide) |>.mp hdiv)
        rw [readDecimal, List.foldl_cons, hmod, hn, Nat.zero_mul, Nat.zero_add, readDecimal]
      · rw [ih (n / 10) _ (by omega)]
        simp [readDecimal, hmod, Nat.div_add_mod']

theorem isDigit_of_mem_toDigitsCore {fuel n : Nat} {ds : List Char} {c : Char}
    (h : c ∈ Nat.toDigitsCore 10 fuel n ds) : c ∈ ds ∨ c.isDigit = true := by
  induction fuel generalizing n ds with
  | zero => exact .inl h
  | succ fuel ih =>
      have hd := digitChar_isDigit (n % 10) (Nat.mod_lt n (by decide))
      rw [Nat.toDigitsCore] at h
      split_ifs at h
      · rcases List.mem_cons.mp h with rfl | h
        exacts [.inr hd, .inl h]
      · rcases ih h with h | h
        · rcases List.mem_cons.mp h with rfl | h
          exacts [.inr hd, .inl h]
        · exact .inr h

@[simp] theorem readDecimal_toString (n : Nat) : readDecimal 0 (toString n).data = n :=
  readDecimal_toDigitsCore (n + 1) n [] (Nat.lt_succ_self n)

theorem isDigit_of_mem_toString {n : Nat} {c : Char} (h : c ∈ (toString n).data) :
    c.isDigit = true :=
  (isDigit_of_mem_toDigitsCore h).resolve_left (List.not_mem_nil c)

theorem toString_injective {a b : Nat} (h : toString a = toString b) : a = b := by
  rw [← readDecimal_toString a, ← readDecimal_toString b, h]

theorem not_mem_toString {n : Nat} {c : Char} (hc : c.isDigit = false) :
    c ∉ (toString n).data := fun h => by simp [isDigit_of_mem_toString h] at hc

/-- Two lists split at the first occurrence of a separator split the same way. -/
theorem append_cons_cancel {α : Type} {a : α} :
    ∀ {x₁ x₂ z₁ z₂ : List α}, a ∉ x₁ → a ∉ x₂ → x₁ ++ a :: z₁ = x₂ ++ a :: z₂ →
      x₁ = x₂ ∧ z₁ = z₂
  | [], [], _, _, _, _, h => ⟨rfl, List.cons.inj h |>.2⟩
  | [], b :: _, _, _, _, h₂, h => absurd (List.mem_cons.mpr (.inl (List.cons.inj h).1)) h₂
  | b :: _, [], _, _, h₁, _, h => absurd (List.mem_cons.mpr (.inl (List.cons.inj h).1.symm)) h₁
  | b :: x₁, c :: x₂, _, _, h₁, h₂, h => by
      obtain ⟨hbc, h⟩ := List.cons.inj h
      obtain ⟨hx, hz⟩ := append_cons_cancel (List.not_mem_of_not_mem_cons h₁)
        (List.not_mem_of_not_mem_cons h₂) h
      exact ⟨hbc ▸ hx ▸ rfl, hz⟩

/-- A single path component: not empty, no `/` and no NUL, and neither `.` nor `..`. -/
def IsPathComponent (name : String) : Prop :=
  name ≠ "" ∧ '/' ∉ name.data ∧ Char.ofNat 0 ∉ name.data ∧ name ≠ "." ∧ name ≠ ".."

instance : DecidablePred IsPathComponent := fun _ => inferInstanceAs (Decidable (_ ∧ _))

theorem isPathComponent_toString (n : Nat) : IsPathComponent (toString n) := by
  have hd : ∀ c : Char, c.isDigit = false → c ∉ (toString n).data := fun _ hc => not_mem_toString hc
  refine ⟨fun h => ?_, hd '/' rfl, hd _ rfl, fun h => ?_, fun h => ?_⟩
  · have hn := readDecimal_toString n
    rw [h] at hn
    subst hn
    exact absurd h (by decide)
  · exact hd '.' rfl (by rw [h]; simp)
  · exact hd '.' rfl (by rw [h]; simp)

namespace Kernel

theorem takeWhile_of_nul_not_mem {cs : List Char} (h : Char.ofNat 0 ∉ cs) :
    cs.takeWhile (· != Char.ofNat 0) = cs :=
  List.takeWhile_eq_self_iff.mpr fun _ hc => bne_iff_ne.mpr fun he => h (he ▸ hc)

theorem splitSlash_of_not_mem (cur : List Char) {cs : List Char} (h : '/' ∉ cs) :
    splitSlash cur cs = [cur.reverse ++ cs] := by
  induction cs generalizing cur with
  | nil => simp [splitSlash]
  | cons c cs ih =>
      rw [List.mem_cons, not_or] at h
      rw [splitSlash, if_neg (Ne.symm h.1), ih _ h.2]
      simp

theorem splitSlash_append_slash (cur l r : List Char) :
    splitSlash cur (l ++ '/' :: r) = splitSlash cur l ++ splitSlash [] r := by
  induction l generalizing cur with
  | nil => simp [splitSlash]
  | cons c l ih =>
      simp only [List.cons_append, splitSlash]
      split_ifs <;> simp [ih]

theorem walk_append (acc ws ws' : List (List Char)) :
    walk acc (ws ++ ws') = walk (walk acc ws) ws' := by
  induction ws generalizing acc with
  | nil => rfl
  | cons w ws ih =>
      simp only [List.cons_append, walk]
      split_ifs <;> exact ih _

/-- A path with a single component appended resolves to its own point with that component on
top. -/
theorem resolve_append_component {p c : String} (hp : p ≠ "") (hnul : Char.ofNat 0 ∉ p.data)
    (hc : IsPathComponent c) : resolve (p ++ "/" ++ c) = c.data :: resolve p := by
  obtain ⟨hc0, hslash, hcnul, hdot, hdotdot⟩ := hc
  have hpd : p.data ≠ [] := fun h => hp (String.ext h)
  have ht : (p ++ "/" ++ c).data.takeWhile (· != Char.ofNat 0) = p.data ++ '/' :: c.data := by
    rw [show (p ++ "/" ++ c).data = p.data ++ '/' :: c.data by simp [String.data_append]]
    exact takeWhile_of_nul_not_mem (by simp [hnul, hcnul])
  have h1 : c.data ≠ [] := fun h => hc0 (String.ext h)
  have h2 : c.data ≠ ['.'] := fun h => hdot (String.ext h)
  have h3 : c.data ≠ ['.', '.'] := fun h => hdotdot (String.ext h)
  simp only [resolve, ht, takeWhile_of_nul_not_mem hnul]
  rw [if_neg (by simp), if_neg hpd, splitSlash_append_slash, splitSlash_of_not_mem [] hslash,
    walk_append]
  simp [walk, h1, h2, h3]

end Kernel

namespace PublicVolume

/-! ## The mount points the paths name -/

/-- Whether `p` names a point `/mnt/user/<u>/<name>`: two levels below `/mnt/user`. -/
def IsUserPoint (p : String) : Prop :=
  (Kernel.resolve p).drop 2 = Kernel.resolve "/mnt/user"

instance : DecidablePred IsUserPoint := fun _ => inferInstanceAs (Decidable (_ = _))

theorem resolve_getFuseMountPathForUser (u : UserId) {n : String} (hn : IsPathComponent n) :
    Kernel.resolve (getFuseMountPathForUser u n) =
      n.data :: (toString u).data :: Kernel.resolve "/mnt/user" := by
  have hu := isPathComponent_toString u
  have hparent : "/mnt/user/" ++ toString u = "/mnt/user" ++ "/" ++ toString u := rfl
  have hne : "/mnt/user/" ++ toString u ≠ "" := fun h => hu.1 (String.ext (List.append_eq_nil.mp
    (congrArg String.data h : ("/mnt/user/" : String).data ++ (toString u).data = [])).2)
  rw [getFuseMountPathForUser, Kernel.resolve_append_component hne
    (by simp [String.data_append, hu.2.2.1]) hn, hparent,
    Kernel.resolve_append_component (by decide) (by decide) hu]

/-- The user paths of single-component names name distinct points. -/
theorem resolve_getFuseMountPathForUser_inj {u u' : UserId} {n n' : String}
    (hn : IsPathComponent n) (hn' : IsPathComponent n')
    (h : Kernel.resolve (getFuseMountPathForUser u n) = Kernel.resolve (getFuseMountPathForUser u' n')) :
    u = u' ∧ n = n' := by
  rw [resolve_getFuseMountPathForUser u hn, resolve_getFuseMountPathForUser u' hn'] at h
  simp only [List.cons.injEq] at h
  exact ⟨toString_injective (String.ext h.2.1), String.ext h.1⟩

theorem isUserPoint_getFuseMountPathForUser (u : UserId) {n : String} (hn : IsPathComponent n) :
    IsUserPoint (getFuseMountPathForUser u n) := by
  simp [IsUserPoint, resolve_getFuseMountPathForUser u hn]

/-- A path that names no user point names none of the volume's bridge points. -/
theorem resolve_ne_of_not_isUserPoint {p : String} (hp : ¬IsUserPoint p) (u : UserId)
    {n : String} (hn : IsPathComponent n) :
    Kernel.resolve p ≠ Kernel.resolve (getFuseMountPathForUser u n) := fun h =>
  hp (by rw [IsUserPoint, h]; exact isUserPoint_getFuseMountPathForUser u hn)

/-- A single component below a directory that is not itself one level below `/mnt/user`. -/
theorem not_isUserPoint_append (parent : String) {n : String} (hp : parent ≠ "")
    (hnul : Char.ofNat 0 ∉ parent.data) (hn : IsPathComponent n)
    (h : (Kernel.resolve parent).drop 1 ≠ Kernel.resolve "/mnt/user") :
    ¬IsUserPoint (parent ++ "/" ++ n) := by
  rwa [IsUserPoint, Kernel.resolve_append_component hp hnul hn]

theorem not_isUserPoint_empty : ¬IsUserPoint "" := by decide

theorem not_isUserPoint_kAsecPath : ¬IsUserPoint kAsecPath := by decide

theorem not_isUserPoint_rawPathFor {n : String} (hn : IsPathComponent n) :
    ¬IsUserPoint (rawPathFor n) :=
  not_isUserPoint_append "/mnt/media_rw" (by decide) (by decide) hn (by decide)

/-- The sdcardfs views of a single-component name name no user point. -/
theorem not_isUserPoint_of_mem_views {n p : String} (hn : IsPathComponent n)
    (hp : p ∈ [sdcardFsDefaultFor n, sdcardFsReadFor n, sdcardFsWriteFor n, sdcardFsFullFor n]) :
    ¬IsUserPoint p := by
  simp only [List.mem_cons, List.mem_singleton, List.not_mem_nil, or_false] at hp
  rcases hp with rfl | rfl | rfl | rfl
  · exact not_isUserPoint_append "/mnt/runtime/default" (by decide) (by decide) hn
      (by decide)
  · exact not_isUserPoint_append "/mnt/runtime/read" (by decide) (by decide) hn
      (by decide)
  · exact not_isUserPoint_append "/mnt/runtime/write" (by decide) (by decide) hn
      (by decide)
  · exact not_isUserPoint_append "/mnt/runtime/full" (by decide) (by decide) hn
      (by decide)

end PublicVolume

end Vold
