import PageFlip.Proofs.Capacity
import PageFlip.Proofs.Step
import PageFlip.Proofs.Unattended

/-!
# Swaps and the capacity of the registry

Retired tokens count against the capacity, and they are only forgotten with a late report or with a
flip that the channel accepts. So they can fill the registry, and then a swap fails although nothing
is pending: `Session.swap_granted_iff` says of all sessions in which nothing is pending that a swap
to all pipes, whose buffer is imported and whose flips are accepted, succeeds as long as fewer
tokens are retired than the capacity, and fails otherwise.

How a swap goes on if all is granted to it is a relation of its own (`Turn.Granted`), shown step by
step (`Follow.Granted.turn`).
-/

namespace PageFlip

/-- An operation above `waits` goes on to an end for which `post` holds where the channel accepts
every flip and handlers only return, whatever the device answers when it is asked to give up a
framebuffer. -/
inductive Turn.Granted (waits : List Wait) (post : Screen → Outcome → Prop) : Turn → Prop
  | returned {s : Screen} {notices : List Notice} {o : Outcome} (h : post s o) :
      Granted waits post ⟨⟨s, waits, none⟩, notices, some o⟩
  | accepted {t : Turn} {u : Instant → Turn} {a : Attempt}
      (hwaits : t.session.waits = .attempting a :: waits)
      (hu : ∀ now, t.session.answer (.submitted (.ok ()) now) = some (u now))
      (h : ∀ now, Granted waits post (u now)) : Granted waits post t
  | told {t u : Turn} {news : News} {next : Task}
      (hwaits : t.session.waits = .telling news next :: waits)
      (hu : t.session.answer .returned = some u) (h : Granted waits post u) :
      Granted waits post t
  | destroyed {t : Turn} {u : Except DeviceError Unit → Turn} {fb : Framebuffer} {next : Task}
      (hwaits : t.session.waits = .destroying fb next :: waits)
      (hu : ∀ result, t.session.answer (.destroyed result) = some (u result))
      (h : ∀ result, Granted waits post (u result)) : Granted waits post t

/-- There is only one way to go on, but for what the device says on framebuffers and the time. -/
theorem Turn.Granted.unique {waits : List Wait} {post post' : Screen → Outcome → Prop} {t : Turn}
    (h : t.Granted waits post) (h' : t.Granted waits post') : ∃ s o, post s o ∧ post' s o := by
  have hmore {w : Wait} : waits ≠ w :: waits := fun heq =>
    Nat.ne_of_lt (Nat.lt_succ_self _) (congrArg List.length heq)
  -- What is on top of the waits says which rule applies, and so it is the same one on both sides.
  induction h with
  | @returned s notices o h =>
    generalize ht : (⟨⟨s, waits, none⟩, notices, some o⟩ : Turn) = t at h'
    cases h' with
    | returned h' =>
      cases ht
      exact ⟨s, o, h, h'⟩
    | accepted hwaits => cases ht; exact absurd hwaits hmore
    | told hwaits => cases ht; exact absurd hwaits hmore
    | destroyed hwaits => cases ht; exact absurd hwaits hmore
  | @accepted t u a hwaits hu _ ih =>
    cases h' with
    | returned => exact absurd hwaits hmore
    | accepted hwaits' hu' h' =>
      have hsame := Option.some.inj ((hu ⟨0, 0⟩).symm.trans (hu' ⟨0, 0⟩))
      exact ih ⟨0, 0⟩ (hsame ▸ h' ⟨0, 0⟩)
    | told hwaits' => cases hwaits.symm.trans hwaits'
    | destroyed hwaits' => cases hwaits.symm.trans hwaits'
  | @told t u news next hwaits hu _ ih =>
    cases h' with
    | returned => exact absurd hwaits hmore
    | accepted hwaits' => cases hwaits.symm.trans hwaits'
    | told hwaits' hu' h' =>
      cases hu.symm.trans hu'
      exact ih h'
    | destroyed hwaits' => cases hwaits.symm.trans hwaits'
  | @destroyed t u fb next hwaits hu _ ih =>
    cases h' with
    | returned => exact absurd hwaits hmore
    | accepted hwaits' => cases hwaits.symm.trans hwaits'
    | told hwaits' => cases hwaits.symm.trans hwaits'
    | destroyed hwaits' hu' h' =>
      have hsame := Option.some.inj ((hu (.ok ())).symm.trans (hu' (.ok ())))
      exact ih (.ok ()) (hsame ▸ h' (.ok ()))

/-- How an operation goes on to its end in the same way, from step to step. -/
inductive Follow.Granted (post : Screen → Outcome → Prop) : Screen → Follow → Prop
  | finished {s : Screen} {o : Outcome} (h : post s o) : Granted post s (.inr (.finished o))
  | step {s : Screen} {t : Task} (h : Granted post (s.step t).screen (s.step t).next) :
      Granted post s (.inl t)
  | attempting {s : Screen} {a : Attempt}
      (h : ∀ now, Granted post (s.accepted a now).screen (s.accepted a now).next) :
      Granted post s (.inr (.waiting (.attempting a)))
  | telling {s : Screen} {news : News} {next : Task} (h : Granted post s (.inl next)) :
      Granted post s (.inr (.waiting (.telling news next)))
  | destroying {s : Screen} {fb : Framebuffer} {next : Task} (h : Granted post s (.inl next)) :
      Granted post s (.inr (.waiting (.destroying fb next)))

/-- How an operation goes on from step to step is how it goes on from rest to rest. -/
theorem Follow.Granted.turn {post : Screen → Outcome → Prop} {s : Screen} {f : Follow}
    (h : f.Granted post s) (waits : List Wait) (notices : List Notice) :
    (Session.settle waits (Screen.proceed ⟨s, notices, f⟩)).Granted waits post := by
  induction h generalizing notices with
  | finished h => exact .returned h
  | @step s t _ ih =>
    have hwork := Screen.proceed_work s notices t
    unfold Screen.work at hwork
    rw [hwork]
    exact ih _
  | attempting _ ih => exact .accepted rfl (fun now => rfl) fun now => ih now _
  | telling _ ih => exact .told rfl rfl (ih [])
  | @destroying s fb next _ ih =>
    exact .destroyed rfl (Session.answer_destroyed s waits fb next) fun result => ih _

/-- The swap has succeeded. -/
def Outcome.Succeeds (_ : Screen) (o : Outcome) : Prop := o = .swapped (.ok ())

/-- The swap has failed for want of a token, and the registry is as it was. -/
def Outcome.Exhausted (r : Registry Event) (s : Screen) (o : Outcome) : Prop :=
  o = .swapped (.error .sequenceExhausted) ∧ s.registry = r

/-- A swap is held by its submitter and by each of its accepted flips. -/
def Screen.HeldBy (s : Screen) (f : Fanout) : Prop :=
  ∃ w t, s.swaps[f.swap]? = some w ∧ w.barrier.tally = some t ∧ t.localHold = true ∧
    t.holds = f.submitted + 1

/-- The submitter gives up its hold, which is the last one if no flip was accepted. -/
theorem Screen.HeldBy.exists_release {s : Screen} {f : Fanout} (h : s.HeldBy f) :
    ∃ w b v, s.swaps[f.swap]? = some w ∧ w.barrier.release = .ok (b, v) ∧
      (v = none ↔ 0 < f.submitted) := by
  obtain ⟨w, t, hw, ht, hlocal, hholds⟩ := h
  have hrelease : w.barrier.release = .ok (w.barrier.drop { t with localHold := false }) := by
    simp only [Barrier.release, ht, hlocal, if_true]
  by_cases hlast : ({ t with localHold := false } : Tally).holds ≤ 1
  · rw [Barrier.drop, if_pos hlast] at hrelease
    have hholds : t.holds ≤ 1 := hlast
    exact ⟨w, _, _, hw, hrelease, iff_of_false (Option.some_ne_none _) (by omega)⟩
  · rw [Barrier.drop, if_neg hlast] at hrelease
    have hholds : 1 < t.holds := Nat.lt_of_not_le hlast
    exact ⟨w, _, _, hw, hrelease, iff_of_true rfl (by omega)⟩

namespace Follow.Granted

variable {s : Screen} {f : Fanout} {i : Nat} {p : Pipe} {rest : List Nat}

/-- A swap of which a flip was accepted succeeds, whatever error it met then. -/
theorem conclude (h : s.HeldBy f) (hsubmitted : 0 < f.submitted) (error : Option SwapError) :
    Follow.Granted Outcome.Succeeds s (.inl (.conclude f error)) := by
  obtain ⟨w, b, v, hw, hrelease, hv⟩ := h.exists_release
  obtain rfl : v = none := hv.2 hsubmitted
  refine .step ?_
  show Follow.Granted _ (s.release f.swap (f.report error)).screen
    (s.release f.swap (f.report error)).next
  rw [Screen.release_eq hw, hrelease]
  show Follow.Granted _ _ (.inl (f.report error))
  unfold Fanout.report
  rw [if_pos hsubmitted]
  cases error with
  | none => exact .step (.finished rfl)
  | some e => exact .step (.step (.finished rfl))

/-- What a framebuffer is given up for does not matter to what follows. -/
theorem reclaim {post : Screen → Outcome → Prop} {id : SwapId} {v : Verdict} {next : Task}
    (hnext : ∀ s', s'.registry = s.registry → Follow.Granted post s' (.inl next)) :
    Follow.Granted post s (.inl (.reclaim id v next)) := by
  refine .step ?_
  show Follow.Granted post (s.reclaim id v next).screen (s.reclaim id v next).next
  unfold Screen.reclaim
  split
  · exact hnext s rfl
  · dsimp only
    split
    · exact hnext _ rfl
    · exact .destroying (hnext _ rfl)

/-- A swap that found no token for its first flip fails. -/
theorem conclude_exhausted (h : s.HeldBy f) (hsubmitted : f.submitted = 0) :
    Follow.Granted (Outcome.Exhausted s.registry) s
      (.inl (.conclude f (some .sequenceExhausted))) := by
  obtain ⟨w, b, v, hw, hrelease, hv⟩ := h.exists_release
  obtain ⟨v, rfl⟩ : ∃ v', v = some v' := Option.ne_none_iff_exists'.1 fun hnone =>
    Nat.ne_of_gt (hv.1 hnone) hsubmitted
  refine .step ?_
  show Follow.Granted _ (s.release f.swap (f.report _)).screen (s.release f.swap (f.report _)).next
  rw [Screen.release_eq hw, hrelease]
  refine .telling (.reclaim fun s' hs' => ?_)
  unfold Fanout.report
  rw [if_neg (by omega)]
  exact .step (.step (.finished ⟨rfl, hs'⟩))

/-- The flip on one pipe is registered, and the channel accepts it. -/
theorem tryPipe {post : Screen → Outcome → Prop} {token : Token} {r : Registry Event}
    (h : s.HeldBy f)
    (halloc : s.registry.allocate p.crtc (.flip ⟨f.swap, f.reference == some p.vblank⟩) =
      some (token, r))
    (hnext : ∀ s' : Screen, s'.HeldBy { f with submitted := f.submitted + 1 } →
      Follow.Granted post s' (.inl (.fan { f with submitted := f.submitted + 1 }))) :
    Follow.Granted post (s.tryPipe f i p).screen (s.tryPipe f i p).next := by
  obtain ⟨w, t, hw, ht, hlocal, hholds⟩ := h
  let b : Barrier := { w.barrier with tally := some { t with holds := t.holds + 1 } }
  have hhold : w.barrier.hold = .ok b := by
    simp only [Barrier.hold, ht]
    rfl
  let s₁ := (s.setRegistry r).setBarrier f.swap b
  have hw₁ : s₁.swaps[f.swap]? = some { w with barrier := b } := by
    have hfound := Screen.getElem?_setBarrier (s := s.setRegistry r) hw b f.swap
    rwa [if_pos rfl] at hfound
  have hw' : (s.setRegistry r).swaps[f.swap]? = some w := hw
  simp only [Screen.tryPipe, halloc, hw', hhold]
  -- The barrier changes twice: it gets a hold for the flip, and then it has an accepted one.
  refine .attempting fun now => hnext _ ?_
  refine ⟨{ w with barrier := b.markSubmitted }, { t with holds := t.holds + 1, submitted := true },
    ?_, rfl, hlocal, congrArg _ hholds⟩
  have haccepted := Screen.getElem?_setBarrier hw₁ b.markSubmitted f.swap
  rw [if_pos rfl] at haccepted
  show (s₁.accepted ⟨f, i, ⟨p.crtc, f.fb, f.flags, token⟩, 0⟩ now).screen.swaps[f.swap]? = _
  simp only [Screen.accepted, hw₁]
  exact haccepted

/-- A swap of which a flip was accepted succeeds. -/
theorem fan (h : s.HeldBy f) (hsubmitted : 0 < f.submitted) :
    Follow.Granted Outcome.Succeeds s (.inl (.fan f)) := by
  obtain ⟨id, fb, flags, reference, targeted, submitted, rest⟩ := f
  induction rest generalizing s submitted with
  | nil => exact .step (conclude h hsubmitted none)
  | cons i rest ih =>
    have hskip := ih submitted h hsubmitted
    refine .step ?_
    show Follow.Granted _ (s.fan _).screen (s.fan _).next
    unfold Screen.fan
    dsimp only
    split
    · exact hskip
    · rename_i p hp
      split
      · cases halloc : s.registry.allocate p.crtc (.flip ⟨id, reference == some p.vblank⟩) with
        | none =>
          -- There is no token for this pipe, but the swap has succeeded by then.
          simp only [Screen.tryPipe, halloc]
          exact conclude (f := ⟨id, fb, flags, reference, targeted, submitted, rest⟩) h hsubmitted _
        | some tr =>
          exact tryPipe h halloc fun s' hs' => ih (submitted + 1) hs' (Nat.succ_pos _)
      · exact hskip

/-- A swap whose first pipe is enabled succeeds if there is a token for it, and fails otherwise. -/
theorem fan_first (h : s.HeldBy f) (hsubmitted : f.submitted = 0) (hrest : f.rest = i :: rest)
    (hp : s.pipes[i]? = some p) (henabled : p.enabled = true) :
    (s.registry.occupied < s.registry.capacity →
      Follow.Granted Outcome.Succeeds s (.inl (.fan f))) ∧
    (s.registry.capacity ≤ s.registry.occupied →
      Follow.Granted (Outcome.Exhausted s.registry) s (.inl (.fan f))) := by
  let g : Fanout := { f with rest := rest }
  have hheld : s.HeldBy g := h
  have hfan : s.fan f = s.tryPipe g i p := by
    simp only [Screen.fan, hrest, hp, henabled, if_true]
    rfl
  constructor
  · intro hroom
    refine .step ?_
    show Follow.Granted _ (s.fan f).screen (s.fan f).next
    rw [hfan]
    cases halloc : s.registry.allocate p.crtc (.flip ⟨f.swap, f.reference == some p.vblank⟩) with
    | none => exact absurd (Registry.allocate_eq_none_iff.1 halloc) (Nat.not_le_of_lt hroom)
    | some tr =>
      -- The first pipe has its token, so the swap does not end for want of one.
      exact tryPipe hheld halloc fun s' hs' => fan hs' (Nat.succ_pos _)
  · intro hfull
    refine .step ?_
    show Follow.Granted _ (s.fan f).screen (s.fan f).next
    have halloc : s.registry.allocate p.crtc (.flip ⟨g.swap, g.reference == some p.vblank⟩) =
        none := Registry.allocate_eq_none_iff.2 hfull
    rw [hfan]
    simp only [Screen.tryPipe, halloc]
    exact conclude_exhausted hheld hsubmitted

end Follow.Granted

/-- If a pipe is enabled, a swap to all pipes has one to start with. -/
theorem Screen.exists_first {s : Screen} (henabled : ∃ p ∈ s.pipes, p.enabled = true) :
    ∃ i rest p, s.participants none = i :: rest ∧ s.pipes[i]? = some p ∧ p.enabled = true := by
  obtain ⟨p, hmem, hp⟩ := henabled
  obtain ⟨j, hj, rfl⟩ := List.mem_iff_getElem.1 hmem
  have hparticipates : j ∈ s.participants none := by
    refine List.mem_filter.2 ⟨List.mem_range.2 hj, ?_⟩
    simp [isEnabled, List.getElem?_eq_getElem hj, hp]
  obtain ⟨i, rest, hrest⟩ := List.exists_cons_of_ne_nil (List.ne_nil_of_mem hparticipates)
  have hi : i ∈ s.participants none := hrest ▸ List.mem_cons_self
  have henabled := (List.mem_filter.1 hi).2
  simp only [isEnabled, Option.isNone_none, Bool.true_or, Bool.and_true, Option.any_eq_true]
    at henabled
  obtain ⟨q, hq, hqenabled⟩ := henabled
  exact ⟨i, rest, q, hrest, hq, hqenabled⟩

namespace Session

variable {s : Session} {pipes : List Pipe} {slots : List Framebuffer} {config : Config}
  {r : SwapRequest}

/-- Whatever clients did before, also from handlers: if nothing is pending and a pipe is enabled, a
swap to all pipes, whose buffer is imported and whose flips are accepted, succeeds exactly if fewer
tokens are retired than the capacity. Otherwise it fails for want of a token and leaves the registry
as it was, so the next one will fail as well, unless a late report comes. -/
theorem swap_granted_iff
    (hreaches : (new { Screen.new pipes config with slots := slots }).Reaches s)
    (hunbroken : s.violation = none) (hpending : s.screen.registry.pending.isEmpty = true)
    (henabled : ∃ p ∈ s.screen.pipes, p.enabled = true) (htargets : r.targets = .all)
    (fb : Framebuffer) :
    ∃ prep t u, s.call (.swap r) = some t ∧ t.session.waits = .importing prep :: s.waits ∧
      t.session.answer (.imported (.ok fb)) = some u ∧
      (u.Granted s.waits Outcome.Succeeds ↔
        s.screen.registry.retired.size < min config.maxPending.toNat Registry.capacityLimit) ∧
      (min config.maxPending.toNat Registry.capacityLimit ≤ s.screen.registry.retired.size →
        u.Granted s.waits (Outcome.Exhausted s.screen.registry)) := by
  let prep := s.screen.prepare r
  let t : Turn := ⟨⟨s.screen, .importing prep :: s.waits, none⟩, [], none⟩
  let u := settle s.waits (Screen.proceed (s.screen.launch prep fb))
  have ht : s.call (.swap r) = some t := by
    unfold call
    rw [hunbroken]
    rfl
  have hcapacity := capacity_of_reaches hreaches
  have hoccupied : s.screen.registry.occupied = s.screen.registry.retired.size := by
    have hnone : s.screen.registry.pending.size = 0 := List.length_eq_zero_iff.2
      (List.isEmpty_iff.1 hpending)
    rw [Registry.occupied, hnone, Nat.zero_add]
  have htarget : prep.target = none := by
    show s.screen.target? r = none
    rw [Screen.target?, htargets]
  obtain ⟨i, rest, p, hrest, hp, hi⟩ := Screen.exists_first henabled
  -- The swap is new, and only its submitter has a hold on it.
  let f : Fanout := ⟨s.screen.swaps.length, fb, s.screen.flipFlags r, s.screen.referenceOf prep,
    (s.screen.participants prep.target).length, 0, s.screen.participants prep.target⟩
  let s₁ := ((s.screen.assign prep.slot fb).addSwap ⟨.new fb prep.displaced, prep.slot, r.client⟩).2
  have hheld : s₁.HeldBy f :=
    ⟨⟨.new fb prep.displaced, prep.slot, r.client⟩, .start, List.getElem?_concat_length, rfl, rfl,
      rfl⟩
  obtain ⟨hroom, hfull⟩ := Follow.Granted.fan_first hheld rfl (htarget ▸ hrest) hp hi
  rw [show s₁.registry = s.screen.registry from rfl, hoccupied, hcapacity] at hroom hfull
  have hexhausted : min config.maxPending.toNat Registry.capacityLimit ≤
      s.screen.registry.retired.size → u.Granted s.waits (Outcome.Exhausted s.screen.registry) :=
    fun h => (hfull h).turn s.waits []
  refine ⟨prep, t, u, ht, rfl, rfl, ⟨fun hsucceeds => ?_, fun h => (hroom h).turn s.waits []⟩,
    hexhausted⟩
  -- A swap cannot both succeed and fail.
  rw [← Nat.not_le]
  intro h
  obtain ⟨_, o, hok, herror, -⟩ := hsucceeds.unique (hexhausted h)
  cases hok.symm.trans herror

/-- One token may be pending or retired. -/
def oneToken : Config := { Config.default with maxPending := 1 }

open Sample in
/-- The pipe is disabled while its only flip is in flight, and enabled again. -/
def lockedOut : List Act :=
  [swap 0, brings 100, accepts, .call (.disable ⟨31⟩), returns, destroys,
    .call (.enable ⟨31⟩)].filterMap Move.act?

/-- The request of a swap to all pipes. -/
def toAllPipes : SwapRequest := ⟨.linear 64 64 0 1 256, false, .all, none, 1⟩

/-- The only pipe is enabled and nothing is pending, and there are as many tokens as pipes. All the
same there is no token for the next swap, and no flip is submitted that could be accepted. -/
theorem lockedOut_fails :
    ∃ s t u v w,
      (new { Screen.new Sample.pipe oneToken with slots := Sample.slots }).play lockedOut = some s ∧
      Sample.pipe.length ≤ oneToken.maxPending.toNat ∧ s.violation = none ∧ s.isIdle = true ∧
      (∃ p ∈ s.screen.pipes, p.enabled = true) ∧ s.screen.registry.pending.isEmpty = true ∧
      toAllPipes.targets = .all ∧ s.call (.swap toAllPipes) = some t ∧
      t.session.answer (.imported (.ok ⟨101⟩)) = some u ∧
      u.session.answer .returned = some v ∧ v.session.answer (.destroyed (.ok ())) = some w ∧
      w.outcome = some (.swapped (.error .sequenceExhausted)) := by
  have hlength : Sample.pipe.length ≤ oneToken.maxPending.toNat := by decide
  exact ⟨_, _, _, _, _, rfl, hlength, rfl, rfl, ⟨_, List.mem_cons_self, rfl⟩, rfl, rfl, rfl, rfl,
    rfl, rfl, rfl⟩

/-- The retired token is all that there is. -/
theorem lockedOut_exhausted :
    ∃ (s : Session) (t u : Turn),
      (new { Screen.new Sample.pipe oneToken with slots := Sample.slots }).play lockedOut = some s ∧
      s.violation = none ∧ s.screen.registry.pending.isEmpty = true ∧
      (∃ p ∈ s.screen.pipes, p.enabled = true) ∧ toAllPipes.targets = .all ∧
      s.screen.registry.retired.size = 1 ∧ s.call (.swap toAllPipes) = some t ∧
      t.session.answer (.imported (.ok ⟨101⟩)) = some u ∧ ¬ u.Granted s.waits Outcome.Succeeds ∧
      u.Granted s.waits (Outcome.Exhausted s.screen.registry) := by
  obtain ⟨s, hplay, hunbroken, hpending, henabled, hretired⟩ :
      ∃ s, (new { Screen.new Sample.pipe oneToken with slots := Sample.slots }).play lockedOut =
        some s ∧ s.violation = none ∧ s.screen.registry.pending.isEmpty = true ∧
        (∃ p ∈ s.screen.pipes, p.enabled = true) ∧ s.screen.registry.retired.size = 1 :=
    ⟨_, rfl, rfl, rfl, ⟨_, List.mem_cons_self, rfl⟩, rfl⟩
  have hcapacity : min oneToken.maxPending.toNat Registry.capacityLimit = 1 := by decide
  obtain ⟨_, t, u, ht, -, hu, hsucceeds, hexhausted⟩ :=
    swap_granted_iff (r := toAllPipes) (Reaches.refl.play hplay) hunbroken hpending henabled rfl
      ⟨101⟩
  rw [hcapacity, hretired] at hsucceeds hexhausted
  have hnot : ¬ u.Granted s.waits Outcome.Succeeds := fun h => Nat.lt_irrefl 1 (hsucceeds.1 h)
  exact ⟨s, t, u, hplay, hunbroken, hpending, henabled, rfl, hretired, ht, hu, hnot,
    hexhausted (Nat.le_refl 1)⟩

end Session

end PageFlip
