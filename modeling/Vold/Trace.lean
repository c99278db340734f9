import Vold.World

/-!
# What a run did

The events logged between two states, the points the unmount calls among them unmount, and
two relations between the start and the end of a piece of code: `Mounted`, for code whose only
calls that change the mount table mount, and `Unmounted`, for code whose only such calls
unmount. Both let the sdcard daemons running meanwhile make the mounts they have still to make,
and account for them point by point against what they had still to mount.
-/

namespace Vold

/-- The point an unmount call unmounts. -/
def Call.unmountPoint? : Call → Option String
  | .forceUnmount p => some p
  | .umount2Detach p => some p
  | .unmountUserFuse u _ n => some (getFuseMountPathForUser u n)
  | _ => none

/-- Every unmount call among `es` returned `OK`. `ForceUnmount` and `UnmountUserFuse` return
`OK` on a point with nothing mounted, and the lazy `umount2` is only tried after a failed
`ForceUnmount`, so this says that every unmount invoked on an active mount succeeded. -/
def UnmountsSucceed (es : List Event) : Prop :=
  ∀ e ∈ es, e.call.unmountPoint?.isSome → e.status = 0

instance (es : List Event) : Decidable (UnmountsSucceed es) :=
  inferInstanceAs (Decidable (∀ e ∈ es, _))

/-- The events logged from `s` to `s'`. -/
def Sys.since (s s' : Sys) : List Event := s'.log.drop s.log.length

theorem Sys.since_append {s s' : Sys} (es : List Event) (h : s'.log = s.log ++ es) :
    s.since s' = es := by
  simp [Sys.since, h]

theorem Sys.since_trans {s s' s'' : Sys} (h : s.log <+: s'.log) (h' : s'.log <+: s''.log) :
    s.since s'' = s.since s' ++ s'.since s'' := by
  obtain ⟨x, hx⟩ := h
  obtain ⟨y, hy⟩ := h'
  simp [Sys.since, ← hx, ← hy]

theorem UnmountsSucceed.append {es es' : List Event} :
    UnmountsSucceed (es ++ es') ↔ UnmountsSucceed es ∧ UnmountsSucceed es' := by
  simp only [UnmountsSucceed, List.mem_append, or_imp, forall_and]

/-- From `s` to `s'` the only calls that changed the mount table were unmounts of the points
`ps`, while the sdcard daemons running at `s` went on mounting: at every point the stack changed
as `Kernel.Unstacked` allows, with one unmount for each of `ps` that names the point. -/
structure Unmounted (ps : List String) (s s' : Sys) : Prop where
  log : s.log <+: s'.log
  stack : ∀ q, Kernel.Unstacked (Kernel.mountsAt q s.mounts) (Kernel.mountsAt q s'.mounts)
    (Kernel.countAt q ps) (Kernel.countAt q s.childPoints) (Kernel.countAt q s'.childPoints)
    s.log.length (UnmountsSucceed (s.since s'))

/-- After a logged call the stack at `q` carries what the running daemons just mounted there,
and the daemons have that much less to mount there. -/
theorem Sys.record_stack (o : Oracle) (c : Call) (st : Int) (s : Sys) (q : String) (S : Prop) :
    Kernel.Unstacked (Kernel.mountsAt q s.mounts) (Kernel.mountsAt q (s.record o c st).mounts) 0
      (Kernel.countAt q s.childPoints) (Kernel.countAt q (s.record o c st).childPoints)
      s.log.length S := by
  rw [Sys.record_mounts, Kernel.mountsAt_append]
  refine Kernel.Unstacked.daemon ?_ (fun m hm => ?_) S
  · rw [Kernel.length_mountsAt, ← Sys.countAt_tickMounts o c st s q]
  · exact (Sys.stamp_of_mem_tickMounts (Kernel.mem_of_mem_mountsAt hm)).ge

/-- Where no running daemon has anything to mount, none mounts. -/
theorem Sys.mountsAt_tickMounts {o : Oracle} {s : Sys} {q : String}
    (h : Kernel.countAt q s.childPoints = 0) : Kernel.mountsAt q (s.tickMounts o) = [] :=
  Kernel.mountsAt_eq_nil (by have := Sys.countAt_tickMounts o .waitpid 0 s q; omega)

namespace Unmounted

variable {ps qs : List String} {s s' s'' : Sys}

theorem refl (s : Sys) : Unmounted [] s s :=
  ⟨List.prefix_refl _, fun _ => Kernel.Unstacked.refl _ _ _ _⟩

theorem trans (h : Unmounted ps s s') (h' : Unmounted qs s' s'') : Unmounted (ps ++ qs) s s'' := by
  refine ⟨h.log.trans h'.log, fun q => ?_⟩
  rw [Kernel.countAt_append]
  refine ((h.stack q).trans (h'.stack q) h.log.length_le).mono_succeed fun hs => ?_
  rwa [Sys.since_trans h.log h'.log, UnmountsSucceed.append] at hs

/-- A logged call that unmounts nothing. -/
theorem record (o : Oracle) (c : Call) (st : Int) (s : Sys) : Unmounted [] s (s.record o c st) :=
  ⟨⟨[⟨c, st⟩], rfl⟩, fun q => Sys.record_stack o c st s q _⟩

theorem setVol (s : Sys) (v : PublicVolume) : Unmounted [] s { s with vol := v } :=
  ⟨⟨[], by simp⟩, fun _ => Kernel.Unstacked.refl _ _ _ _⟩

theorem mono (h : Unmounted ps s s') (hq : ps = qs) : Unmounted qs s s' :=
  hq ▸ h

/-- A stretch in which some unmount call failed, with its unmounts among those of `qs`. -/
theorem retarget (h : Unmounted ps s s') (hsub : ∀ q, Kernel.countAt q ps ≤ Kernel.countAt q qs)
    (hfail : ¬UnmountsSucceed (s.since s')) : Unmounted qs s s' :=
  ⟨h.log, fun q => (h.stack q).mono_pops (hsub q) hfail⟩

/-- The daemons only spend what they had still to mount. -/
theorem countAt_le (h : Unmounted ps s s') (q : String) :
    Kernel.countAt q s'.childPoints ≤ Kernel.countAt q s.childPoints := by
  obtain ⟨_, _, _, -, hb, -⟩ := h.stack q
  omega

theorem countAt_eq_zero (h : Unmounted ps s s') {q : String}
    (hk : Kernel.countAt q s.childPoints = 0) : Kernel.countAt q s'.childPoints = 0 :=
  Nat.eq_zero_of_le_zero ((h.countAt_le q).trans hk.le)

/-- The stack at a point no call unmounts and no daemon mounts is as it was. -/
theorem frame (h : Unmounted ps s s') {q : String} (hq : Kernel.countAt q ps = 0)
    (hk : Kernel.countAt q s.childPoints = 0) :
    Kernel.mountsAt q s'.mounts = Kernel.mountsAt q s.mounts := by
  have := h.stack q
  rw [hq, hk] at this
  exact this.eq_of_zero

end Unmounted

/-- The daemons running at `s'` have no more to mount anywhere than those running at `s` had. -/
def Sys.Settled (s s' : Sys) : Prop :=
  ∀ q, Kernel.countAt q s'.childPoints ≤ Kernel.countAt q s.childPoints

theorem Sys.Settled.refl (s : Sys) : s.Settled s := fun _ => le_rfl

theorem Sys.Settled.trans {s s' s'' : Sys} (h : s.Settled s') (h' : s'.Settled s'') :
    s.Settled s'' := fun q => (h' q).trans (h q)

theorem Sys.Settled.countAt_eq_zero {s s' : Sys} (h : s.Settled s') {q : String}
    (hk : Kernel.countAt q s.childPoints = 0) : Kernel.countAt q s'.childPoints = 0 :=
  Nat.eq_zero_of_le_zero ((h q).trans hk.le)

/-- From `s` to `s'` the mount table only grew: the new mounts sit on top of it, made by the
calls at points among `ps` or by the sdcard daemons at points they had still to mount, and at
each point no more of them than `ps` names it plus what the daemons spent there. Forking a
daemon counts its views among `ps`. -/
structure Mounted (ps : List String) (s s' : Sys) : Prop where
  log : s.log <+: s'.log
  grow : ∃ news : List Mount, s'.mounts = news ++ s.mounts ∧
    ∀ q, Kernel.countAt q (news.map Mount.point) + Kernel.countAt q s'.childPoints ≤
      Kernel.countAt q ps + Kernel.countAt q s.childPoints

namespace Mounted

variable {ps qs : List String} {s s' s'' : Sys}

theorem refl (s : Sys) : Mounted [] s s :=
  ⟨List.prefix_refl _, [], rfl, fun _ => by simp⟩

theorem trans (h : Mounted ps s s') (h' : Mounted qs s' s'') : Mounted (qs ++ ps) s s'' := by
  obtain ⟨n, hn, hp⟩ := h.grow
  obtain ⟨n', hn', hp'⟩ := h'.grow
  refine ⟨h.log.trans h'.log, n' ++ n, by rw [hn', hn, List.append_assoc], fun q => ?_⟩
  have := hp q
  have := hp' q
  simp only [List.map_append, Kernel.countAt_append]
  omega

theorem mono (h : Mounted ps s s') (hq : ps.Subperm qs) : Mounted qs s s' := by
  obtain ⟨n, hn, hp⟩ := h.grow
  exact ⟨h.log, n, hn, fun q => (hp q).trans (by have := Kernel.countAt_le_of_subperm q hq; omega)⟩

theorem record (o : Oracle) (c : Call) (st : Int) (s : Sys) : Mounted [] s (s.record o c st) :=
  ⟨⟨[⟨c, st⟩], rfl⟩, s.tickMounts o, rfl, fun q => by rw [Sys.countAt_tickMounts]; simp⟩

theorem setVol (s : Sys) (v : PublicVolume) : Mounted [] s { s with vol := v } :=
  ⟨⟨[], by simp⟩, [], rfl, fun _ => by simp [Sys.childPoints]⟩

/-- At each point the new mounts sit on the old stack, as many as the budget allows. -/
theorem stack (h : Mounted ps s s') (q : String) :
    ∃ new, Kernel.mountsAt q s'.mounts = new ++ Kernel.mountsAt q s.mounts ∧
      new.length + Kernel.countAt q s'.childPoints ≤
        Kernel.countAt q ps + Kernel.countAt q s.childPoints := by
  obtain ⟨news, hn, hp⟩ := h.grow
  exact ⟨Kernel.mountsAt q news, by rw [hn, Kernel.mountsAt_append],
    by rw [Kernel.length_mountsAt]; exact hp q⟩

/-- The stack at a point no call mounts and no daemon mounts is as it was. -/
theorem frame (h : Mounted ps s s') {q : String} (hq : Kernel.countAt q ps = 0)
    (hk : Kernel.countAt q s.childPoints = 0) :
    Kernel.mountsAt q s'.mounts = Kernel.mountsAt q s.mounts := by
  obtain ⟨new, hn, hb⟩ := h.stack q
  rw [hn, List.eq_nil_of_length_eq_zero (by omega : new.length = 0), List.nil_append]

theorem countAt_le (h : Mounted ps s s') (q : String) :
    Kernel.countAt q s'.childPoints ≤ Kernel.countAt q ps + Kernel.countAt q s.childPoints := by
  obtain ⟨_, -, hb⟩ := h.stack q
  omega

/-- No call mounts at `q` and no daemon has anything to mount there: neither has one after. -/
theorem countAt_eq_zero (h : Mounted ps s s') {q : String} (hq : Kernel.countAt q ps = 0)
    (hk : Kernel.countAt q s.childPoints = 0) : Kernel.countAt q s'.childPoints = 0 := by
  have := h.countAt_le q
  omega

/-- What was mounted stays mounted. -/
theorem mem (h : Mounted ps s s') {m : Mount} (hm : m ∈ s.mounts) : m ∈ s'.mounts := by
  obtain ⟨news, hn, -⟩ := h.grow
  rw [hn]
  exact List.mem_append_right _ hm

theorem point_mem (h : Mounted ps s s') {p : String} (hp : p ∈ s.mounts.map Mount.point) :
    p ∈ s'.mounts.map Mount.point := by
  obtain ⟨m, hm, rfl⟩ := List.mem_map.mp hp
  exact List.mem_map_of_mem _ (h.mem hm)

/-- A stretch that mounts nothing leaves the daemons no more to mount. -/
theorem settled (h : Mounted [] s s') : s.Settled s' := fun q => by
  simpa using h.countAt_le q

end Mounted

/-- From `s0` to `s`: at every point the stack is what was added since on top of what is left
of the stack at `s0`, and what was added, with what the running daemons still have to mount
there, is within what `ps` names there and what the daemons had to mount there at `s0`. -/
structure Leaves (ps : List String) (s0 s : Sys) : Prop where
  log : s0.log <+: s.log
  stack : ∀ q, ∃ added rest, Kernel.mountsAt q s.mounts = added ++ rest ∧
    rest <:+ Kernel.mountsAt q s0.mounts ∧
    added.length + Kernel.countAt q s.childPoints ≤
      Kernel.countAt q ps + Kernel.countAt q s0.childPoints

namespace Leaves

variable {ps qs ts : List String} {s0 s s' : Sys}

theorem of_mounted (h : Mounted ps s0 s) : Leaves ps s0 s := by
  refine ⟨h.log, fun q => ?_⟩
  obtain ⟨new, hn, hb⟩ := h.stack q
  exact ⟨new, _, hn, List.suffix_refl _, hb⟩

theorem mounted (h : Leaves ps s0 s) (h' : Mounted qs s s') : Leaves (ps ++ qs) s0 s' := by
  refine ⟨h.log.trans h'.log, fun q => ?_⟩
  obtain ⟨added, rest, hs, hsuf, hb⟩ := h.stack q
  obtain ⟨new, hn, hb'⟩ := h'.stack q
  refine ⟨new ++ added, rest, by rw [hn, hs, List.append_assoc], hsuf, ?_⟩
  rw [List.length_append, Kernel.countAt_append]
  omega

theorem mono (h : Leaves ps s0 s) (hq : ps.Subperm qs) : Leaves qs s0 s := by
  refine ⟨h.log, fun q => ?_⟩
  obtain ⟨added, rest, hs, hsuf, hb⟩ := h.stack q
  exact ⟨added, rest, hs, hsuf, hb.trans (by have := Kernel.countAt_le_of_subperm q hq; omega)⟩

/-- A teardown whose unmounts all succeed and name every point as often as `ps` does, after a
stretch that started with no daemon running: of what was added, only what the daemons mounted
during the teardown is left, on top of what is left of the stack at `s0`. -/
theorem clear (h : Leaves ps s0 s) (hk : ∀ q, Kernel.countAt q s0.childPoints = 0)
    (hu : Unmounted ts s s') (hS : UnmountsSucceed (s.since s'))
    (hcov : ∀ q, Kernel.countAt q ps ≤ Kernel.countAt q ts) (q : String) :
    ∃ late rest, Kernel.mountsAt q s'.mounts = late ++ rest ∧
      rest <:+ Kernel.mountsAt q s0.mounts ∧
      late.length + Kernel.countAt q s'.childPoints ≤ Kernel.countAt q s.childPoints ∧
      ∀ m ∈ late, s.log.length ≤ m.stamp := by
  obtain ⟨added, rest, hs, hsuf, hb⟩ := h.stack q
  have hu := hu.stack q
  rw [hs] at hu
  obtain ⟨late, rest', hn, hsuf', hb', hst⟩ := hu.suffix_of_succeed hS
  have hj : added.length ≤ Kernel.countAt q ts - Kernel.countAt q s.childPoints := by
    have := hcov q
    have := hk q
    omega
  rw [List.drop_append_eq_append_drop, List.drop_eq_nil_of_le hj, List.nil_append] at hsuf'
  exact ⟨late, rest', hn, hsuf'.trans ((List.drop_suffix _ _).trans hsuf), hb', hst⟩

end Leaves

/-- A failed unmount call makes every longer stretch fail too. -/
theorem not_succeed_mono {s s1 s2 : Sys} (h : s.log <+: s1.log) (h' : s1.log <+: s2.log)
    (hfail : ¬UnmountsSucceed (s.since s1)) : ¬UnmountsSucceed (s.since s2) := by
  rw [Sys.since_trans h h', UnmountsSucceed.append]
  exact fun hs => hfail hs.1

theorem not_succeed_of_later {s s1 s2 : Sys} (h : s.log <+: s1.log) (h' : s1.log <+: s2.log)
    (hfail : ¬UnmountsSucceed (s1.since s2)) : ¬UnmountsSucceed (s.since s2) := by
  rw [Sys.since_trans h h', UnmountsSucceed.append]
  exact fun hs => hfail hs.2

theorem not_succeed_of_event {s s' : Sys} {c : Call} {st : Int} {p : String}
    (h : s'.log = s.log ++ [⟨c, st⟩]) (hc : c.unmountPoint? = some p) (hst : st ≠ 0) :
    ¬UnmountsSucceed (s.since s') := fun hs =>
  hst (hs ⟨c, st⟩ (by simp [Sys.since_append _ h]) (by simp [hc]))

/-- A call that only returns a status. -/
theorem invoke_spec (o : Oracle) (c : Call) (s : Sys) :
    ∃ st s', invoke o c s = .next st s' ∧ s'.vol = s.vol ∧ s'.log = s.log ++ [⟨c, st⟩] ∧
      s'.errno = o.errno s.log.length ∧ st = o.status s.log.length ∧ Unmounted [] s s' :=
  ⟨_, _, rfl, rfl, rfl, rfl, rfl, Unmounted.record _ _ _ _⟩

theorem Mounted.of_invoke {o : Oracle} {c : Call} {s s' : Sys} {st : Int}
    (h : invoke o c s = .next st s') : Mounted [] s s' := by
  rw [invoke_apply] at h
  cases h
  exact Mounted.record ..

theorem Mounted.of_ite {c : Prop} [Decidable c] {ps : List String} {s s' : Sys}
    (h : Mounted (if c then ps else []) s s') : Mounted ps s s' :=
  h.mono (by split <;> simp [List.Subperm.refl])

/-- A call that mounts at `p` when it returns `0`; the running daemons mount on top. -/
theorem invokeMount_spec (o : Oracle) (c : Call) (p : String) (s : Sys) :
    ∃ st s', invokeMount o c p s = .next st s' ∧ s'.vol = s.vol ∧ s'.log = s.log ++ [⟨c, st⟩] ∧
      s'.errno = o.errno s.log.length ∧ st = o.status s.log.length ∧
      Mounted (if st = 0 then [p] else []) s s' ∧
      s'.mounts = s.tickMounts o ++ (if st = 0 then [⟨p, s.vol.id, s.log.length⟩] else []) ++
        s.mounts ∧ s.Settled s' := by
  rw [invokeMount_apply]
  by_cases h : o.status s.log.length = 0
  · simp only [h, if_true]
    have hc := fun q => Sys.countAt_tickMounts o c 0 (s.push p) q
    have hp : (s.push p).childPoints = s.childPoints := rfl
    simp only [Sys.tickMounts_push, hp] at hc
    refine ⟨_, _, rfl, rfl, rfl, rfl, rfl, ⟨⟨_, rfl⟩, s.tickMounts o ++ [⟨p, s.vol.id, s.log.length⟩],
      by simp, fun q => ?_⟩, by simp, fun q => by have := hc q; omega⟩
    have := hc q
    simp only [List.map_append, List.map_cons, List.map_nil, Kernel.countAt_append,
      Kernel.countAt_cons, Kernel.countAt_nil, if_true] at this ⊢
    split_ifs <;> omega
  · simp only [h, if_false]
    have hc := fun q => Sys.countAt_tickMounts o c (o.status s.log.length) s q
    refine ⟨_, _, rfl, rfl, rfl, rfl, rfl, ⟨⟨_, rfl⟩, s.tickMounts o, by simp, fun q => ?_⟩,
      by simp [h], fun q => by have := hc q; omega⟩
    have := hc q
    simp only [h, if_false, Kernel.countAt_nil] at this ⊢
    omega

/-- One unmount call of `p`: it returns `idle` when nothing is mounted there; otherwise the
world's status. The stack at `p` loses its top exactly when the call returns `0`, and the
running daemons mount on top. -/
theorem invokeUnmount_spec (o : Oracle) {c : Call} {p : String} (hc : c.unmountPoint? = some p)
    (idle : Int) (s : Sys) :
    ∃ st s', invokeUnmount o c p idle s = .next st s' ∧ s'.vol = s.vol ∧
      s'.log = s.log ++ [⟨c, st⟩] ∧ s'.errno = o.errno s.log.length ∧
      (Kernel.isMounted p s.mounts = false → st = idle) ∧
      Kernel.mountsAt p s'.mounts = Kernel.mountsAt p (s.tickMounts o) ++
        (if st = 0 then (Kernel.mountsAt p s.mounts).tail else Kernel.mountsAt p s.mounts) ∧
      (st ≠ 0 → s' = s.record o c st) ∧ Unmounted [p] s s' := by
  have hsucc : ∀ st, UnmountsSucceed [⟨c, st⟩] ↔ st = 0 := fun st => by
    simp [UnmountsSucceed, hc]
  simp only [invokeUnmount_apply]
  split_ifs with hm hst
  · refine ⟨_, _, rfl, rfl, rfl, rfl, by simp [hm], by simp [hst, Kernel.mountsAt_unmountTop_self],
      fun h => absurd hst h, ⟨_, rfl⟩, fun q => ?_⟩
    have hd := Sys.record_stack o c (o.status s.log.length) (s.pop p) q
      (UnmountsSucceed (s.since ((s.pop p).record o c (o.status s.log.length))))
    simp only [Sys.pop_mounts, Sys.pop_log, Sys.pop_children, Sys.childPoints] at hd ⊢
    by_cases hq : Kernel.resolve p = Kernel.resolve q
    · rw [Kernel.mountsAt_congr hq.symm, Kernel.mountsAt_unmountTop_self,
        ← Kernel.mountsAt_congr hq.symm] at hd
      simpa [hq] using (Kernel.Unstacked.pop _ _ _ _).trans hd le_rfl |>.mono_succeed fun h => ⟨h, h⟩
    · rw [Kernel.mountsAt_unmountTop_of_ne hq] at hd
      simpa [hq] using hd
  · refine ⟨_, _, rfl, rfl, rfl, rfl, by simp [hm], by simp [hst], fun _ => rfl, ⟨_, rfl⟩,
      fun q => ?_⟩
    have hfail : ¬UnmountsSucceed (s.since (s.record o c (o.status s.log.length))) := by
      rw [Sys.since_append _ rfl, hsucc]
      exact hst
    refine (Sys.record_stack o c _ s q _).mono_pops (Nat.zero_le _) hfail
  · have hnil : Kernel.mountsAt p s.mounts = [] := Kernel.isMounted_eq_false (by simpa using hm)
    refine ⟨_, _, rfl, rfl, rfl, rfl, fun _ => rfl, by simp [hnil], fun _ => rfl, ⟨_, rfl⟩,
      fun q => ?_⟩
    have hd := Sys.record_stack o c idle s q (UnmountsSucceed (s.since (s.record o c idle)))
    by_cases hq : Kernel.resolve p = Kernel.resolve q
    · have hq' : Kernel.mountsAt q s.mounts = [] := by rw [← Kernel.mountsAt_congr hq, hnil]
      have hp0 := Kernel.Unstacked.pop ([] : List Mount) (Kernel.countAt q s.childPoints)
        s.log.length (UnmountsSucceed (s.since (s.record o c idle)))
      rw [List.tail_nil] at hp0
      rw [hq'] at hd ⊢
      simpa [hq] using (hp0.trans hd le_rfl).mono_succeed fun h => ⟨h, h⟩
    · simpa [hq] using hd

theorem countAt_flatMap_dropLast (q : String) (cs : List SdcardChild) :
    Kernel.countAt q (cs.dropLast.flatMap (·.pending)) ≤ Kernel.countAt q (cs.flatMap (·.pending)) := by
  rcases List.eq_nil_or_concat cs with rfl | ⟨l, c, rfl⟩
  · rfl
  · simp [List.flatMap_append]

/-- `fork`: the views of the daemon it starts count among the mounts of the call, and the
daemons forked before it have no more to mount than all those running before the call. -/
theorem fork_spec (o : Oracle) (argv views : List String) (s : Sys) :
    ∃ pid s', fork o argv views s = .next pid s' ∧ s'.vol = s.vol ∧
      s'.log = s.log ++ [⟨.fork argv, pid⟩] ∧ s'.errno = o.errno s.log.length ∧
      pid = o.status s.log.length ∧ Mounted views s s' ∧
      ∀ q, Kernel.countAt q s'.olderPoints ≤ Kernel.countAt q s.childPoints := by
  simp only [fork]
  by_cases h : o.status s.log.length = -1
  · simp only [h, if_true]
    exact ⟨_, _, rfl, rfl, rfl, rfl, rfl, (Mounted.record _ _ _ s).mono List.nil_subperm,
      fun q => (Sys.countAt_olderPoints_record ..).trans (countAt_flatMap_dropLast q s.children)⟩
  · simp only [h, if_false]
    refine ⟨_, _, rfl, rfl, rfl, rfl, rfl, ⟨⟨_, rfl⟩, _, rfl, fun q => ?_⟩, fun q => ?_⟩
    · have := Sys.countAt_tickMounts o (.fork argv) (o.status s.log.length)
        { s with children := s.children ++ [⟨s.vol.id, s.log.length, views⟩] } q
      simp only [Sys.childPoints, List.flatMap_append, List.flatMap_cons, List.flatMap_nil,
        List.append_nil, Kernel.countAt_append] at this ⊢
      omega
    · simpa [Sys.olderPoints] using Sys.countAt_advance_le o s.log.length s.children q

/-- `waitpid` reaps the daemon forked last. -/
theorem waitpid_spec (o : Oracle) (s : Sys) :
    ∃ st s', waitpid o s = .next st s' ∧ s'.vol = s.vol ∧ s'.log = s.log ++ [⟨.waitpid, st⟩] ∧
      Mounted [] s s' ∧ ∀ q, Kernel.countAt q s'.childPoints ≤ Kernel.countAt q s.olderPoints := by
  refine ⟨_, _, rfl, rfl, rfl, ⟨⟨_, rfl⟩, s.tickMounts o, rfl, fun q => ?_⟩, fun q => ?_⟩
  · have := Sys.countAt_tickMounts o .waitpid (o.status s.log.length) s q
    have := countAt_flatMap_dropLast q (s.children.map (·.advance o s.log.length))
    simp only [Sys.childPoints_record, Sys.record_children, Sys.childPoints, Kernel.countAt_nil] at *
    omega
  · simpa [Sys.childPoints, Sys.olderPoints, ← List.map_dropLast] using
      Sys.countAt_advance_le o s.log.length s.children.dropLast q

end Vold
