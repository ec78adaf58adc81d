import PageFlip.Proofs.Resolving

/-!
# Aborting by disabling a pipe equals aborting by reports

Two ways lead to the abort of all that is pending on the controller of a pipe: the pipe is disabled,
or the channel reports the abort of each token. If handlers only return, both lead to the same
swaps and slots, the same tokens stay pending, and the same is told to the clients and given up to
the device, in some order (`Session.disable_alike_aborts`).

Both ways are traced to the same `Aftermath`.
-/

namespace PageFlip

namespace Follow.Unattended

variable {s s' : Screen} {events : List Event} {next : Task} {ns : List News}
  {fbs : List Framebuffer} {o : Outcome}

/-- Events that were handed out are aborted, one after the other. -/
theorem abort (habort : Abortable s.swaps events)
    (h : Follow.Unattended (s.settled (.of s.swaps events)) (.inl next) ns fbs s' o) :
    Follow.Unattended s (.inl (.abort events next)) ((Aftermath.of s.swaps events).news ++ ns)
      ((Aftermath.of s.swaps events).removed ++ fbs) s' o := by
  induction events generalizing s with
  | nil => exact .step h
  | cons event events ih =>
    have hrest := ih (s := s.settled (event.abort s.swaps)) habort.abort h
    simp only [Aftermath.of, List.append_assoc]
    rw [← Resolution.apply_none] at hrest ⊢
    exact .step (deliver habort hrest)

end Follow.Unattended

namespace Screen

variable {s : Screen} {crtc : Crtc} {i : Nat} {batches : List (List Token)}

/-- The pipe of a controller is disabled. -/
theorem unattended_disable (hi : s.pipeOf? crtc = some i)
    (habort : Abortable s.swaps (s.registry.retirePipe crtc).1) :
    ∃ t, (Session.new s).call (.disable crtc) = some t ∧
      t.Unattended (Aftermath.of s.swaps (s.registry.retirePipe crtc).1).news
        (Aftermath.of s.swaps (s.registry.retirePipe crtc).1).removed
        (((s.setEnabled i false).setRegistry (s.registry.retirePipe crtc).2).settled
          (.of s.swaps (s.registry.retirePipe crtc).1)) .done := by
  let next : Nat → Task := fun n =>
    if 0 < n then .say (.flipsAborted n crtc) (.finish .done) else .finish .done
  have hnext (s' : Screen) (n : Nat) : Follow.Unattended s' (.inl (next n)) [] [] s' .done := by
    dsimp only [next]
    split_ifs
    · exact .step (.step .finished)
    · exact .step .finished
  have hstart : s.start (.disable crtc) = (s.setEnabled i false).retirePipe crtc next := by
    show s.disable crtc = _
    simp only [disable, hi, next]
  have hend := Follow.Unattended.abort
    (s := (s.setEnabled i false).setRegistry (s.registry.retirePipe crtc).2) habort
    (hnext _ (s.registry.retirePipe crtc).1.length)
  rw [List.append_nil, List.append_nil] at hend
  refine ⟨Session.settle [] (Screen.proceed (s.start (.disable crtc))), rfl, ?_⟩
  rw [hstart]
  exact hend.turn _

/-- Pending tokens are reported to be aborted, in some batches. -/
theorem drains_aborts (hdisjoint : s.registry.Disjoint) (hnodup : batches.flatten.Nodup)
    (hpending : ∀ t ∈ batches.flatten, s.registry.isPending t = true)
    (habort : Abortable s.swaps (s.registry.eventsAt batches.flatten)) :
    s.Drains (batches.map fun tokens => tokens.map .abort)
      (Aftermath.of s.swaps (s.registry.eventsAt batches.flatten)).news
      (Aftermath.of s.swaps (s.registry.eventsAt batches.flatten)).removed
      ((s.setRegistry (s.registry.without batches.flatten)).settled
        (.of s.swaps (s.registry.eventsAt batches.flatten))) := by
  have hreports : (batches.map fun tokens => tokens.map Report.abort).flatten =
      batches.flatten.map .abort := List.map_flatten.symm
  have htokens : (batches.flatten.map Report.abort).map Report.token = batches.flatten := by
    rw [List.map_map]
    exact List.map_id _
  have hdrains := @drains_reports s (batches.map fun tokens => tokens.map .abort) hdisjoint
  rw [hreports, htokens, Registry.resolutions_abort, Aftermath.after_none, List.map_map] at hdrains
  refine hdrains hnodup (fun report hreport => ?_) ?_
  · obtain ⟨t, ht, rfl⟩ := List.mem_map.1 hreport
    exact hpending t ht
  · have hevents : (Resolution.event ∘ fun event => ⟨event, none⟩) = id := rfl
    rw [hevents, List.map_id]
    exact habort

end Screen

namespace Registry

variable {α : Type} {r : Registry α} {crtc : Crtc} {t : Token} {table : Table Token (Pending α)}

/-- Disabling a pipe hands out the events of the tokens that are pending on it. -/
theorem eventsAt_pendingOn (r : Registry α) (crtc : Crtc) :
    r.eventsAt (r.pendingOn crtc) = (r.retirePipe crtc).1 := by
  show List.filterMap _ (List.map _ _) = List.map _ _
  rw [List.filterMap_map, ← List.filterMap_eq_map]
  refine List.filterMap_congr fun e he => ?_
  have hfind : r.pending.find? e.1 = some e.2 :=
    Table.find?_eq_some_iff.2 (List.mem_filter.1 he).1
  simp only [Function.comp_apply, hfind, Option.map_some]

/-- The order of the table makes no difference but to the order of the events. -/
theorem retirePipe_perm (h : table.entries.Perm r.pending.entries) (crtc : Crtc) :
    (retirePipe { r with pending := table } crtc).1.Perm (r.retirePipe crtc).1 :=
  (h.filter _).map _

end Registry

/-- What two ways of aborting the tokens that are pending on the controller of a pipe come to alike,
and where they differ: by disabling the pipe, and by reports. -/
structure Screen.AbortsAlike (before : Screen) (crtc : Crtc) (i : Nat)
    (news news' : List News) (removed removed' : List Framebuffer) (disabled reported : Screen) :
    Prop where
  news : news.Perm news'
  removed : removed.Perm removed'
  swaps : disabled.swaps = reported.swaps
  slots : disabled.slots = reported.slots
  config : disabled.config = reported.config
  pending : ∀ t, disabled.registry.pending.find? t = reported.registry.pending.find? t
  next : disabled.registry.next = reported.registry.next
  max : disabled.registry.max = reported.registry.max
  /-- Only the one pipe is disabled, and only in the first case. -/
  pipes : disabled.pipes = (reported.setEnabled i false).pipes
  /-- The aborted tokens are retired in the first case. -/
  retired : ∀ t, disabled.registry.retired.find? t =
    if t ∈ before.registry.pendingOn crtc then some crtc else reported.registry.retired.find? t
  /-- They are gone in the second. -/
  gone : ∀ t ∈ before.registry.pendingOn crtc, reported.registry.occupies t = false

namespace Session

variable {s : Session} {pipes : List Pipe} {slots : List Framebuffer} {config : Config}
  {crtc : Crtc} {i : Nat} {table : Table Token (Pending Event)} {batches : List (List Token)}

/-- In every session without an unfinished operation, whatever clients did before, and also from
handlers: to disable a pipe comes to the same as reports that all is aborted that is pending on its
controller, in whatever order the table yields the tokens and the reports are read. -/
theorem disable_alike_aborts
    (hreaches : (new { Screen.new pipes config with slots := slots }).Reaches s)
    (hidle : s.isIdle = true) (hunbroken : s.violation = none)
    (hi : s.screen.pipeOf? crtc = some i)
    (htable : table.entries.Perm s.screen.registry.pending.entries)
    (hbatches : batches.flatten.Perm (s.screen.registry.pendingOn crtc)) :
    ∃ t news removed disabled news' removed' reported,
      (s.reorder table).call (.disable crtc) = some t ∧
      t.Unattended news removed disabled .done ∧
      s.screen.Drains (batches.map fun tokens => tokens.map .abort) news' removed' reported ∧
      s.screen.AbortsAlike crtc i news news' removed removed' disabled reported := by
  have hwaits : s.waits = [] := List.isEmpty_iff.1 hidle
  have hbacked : Backed s.screen {} := by
    have h := backed_of_reaches hreaches hunbroken
    rwa [Session.agenda, hwaits] at h
  have hnew : s.reorder table =
      new (s.screen.setRegistry { s.screen.registry with pending := table }) := by
    rw [reorder, hwaits, hunbroken]
    rfl
  let r := s.screen.registry
  -- Both ways abort the same events.
  have hreported : (r.eventsAt batches.flatten).Perm (r.retirePipe crtc).1 :=
    r.eventsAt_pendingOn crtc ▸ hbatches.filterMap _
  have hdisabled := Registry.retirePipe_perm htable crtc
  have halike : (Aftermath.of s.screen.swaps _).Alike (.of s.screen.swaps _) :=
    Aftermath.of_perm (hdisabled.trans hreported.symm)
  have habort : Abortable s.screen.swaps (r.retirePipe crtc).1 :=
    hbacked.abortable.subperm
      ((List.sublist_append_left _ _).subperm.trans (r.events_retirePipe crtc).subperm)
  have hmem {t : Token} : t ∈ batches.flatten ↔ t ∈ r.pendingOn crtc := hbatches.mem_iff
  have hdrains := Screen.drains_aborts hbacked.disjoint
    (hbatches.nodup_iff.2 (r.nodup_pendingOn crtc))
    (fun t ht => by
      obtain ⟨p, hp, -⟩ := Registry.mem_pendingOn_iff.1 (hmem.1 ht)
      exact Registry.isPending_iff.2 ⟨p, hp⟩)
    (habort.subperm hreported.subperm)
  obtain ⟨t, ht, hend⟩ := Screen.unattended_disable
    (s := s.screen.setRegistry { r with pending := table }) hi (habort.subperm hdisabled.subperm)
  refine ⟨t, _, _, _, _, _, _, hnew ▸ ht, hend, hdrains, ?_⟩
  let r' : Registry Event := { r with pending := table }
  have hfind (u : Token) : r'.pending.find? u = r.pending.find? u := Table.find?_of_perm htable u
  have hsame {u : Token} : u ∈ r'.pendingOn crtc ↔ u ∈ r.pendingOn crtc := by
    rw [Registry.mem_pendingOn_iff, Registry.mem_pendingOn_iff, hfind]
  exact
    { news := halike.news
      removed := halike.removed
      swaps := halike.swaps
      slots := rfl
      config := rfl
      pending := fun u => by
        show (r'.retirePipe crtc).2.pending.find? u = (r.without batches.flatten).pending.find? u
        rw [Registry.pending_retirePipe, Registry.pending_without, hfind]
        simp only [hsame, hmem]
      next := rfl
      max := rfl
      pipes := rfl
      retired := fun u => by
        show (r'.retirePipe crtc).2.retired.find? u = if u ∈ r.pendingOn crtc then _ else _
        simp only [Registry.retired_retirePipe, ← Registry.mem_pendingOn_iff, hsame]
        rfl
      gone := fun u hu => by
        obtain ⟨p, hp, -⟩ := Registry.mem_pendingOn_iff.1 hu
        have hretired : r.retired.find? u = none :=
          (hbacked.disjoint u).resolve_left fun hnone => by cases hnone.symm.trans hp
        show (r.without batches.flatten).occupies u = false
        rw [Registry.occupies_eq, Registry.pending_without, if_pos (hmem.2 hu)]
        show (none.isSome || (r.retired.find? u).isSome) = false
        rw [hretired]
        rfl }

open Sample in
/-- A client waits for an event of its own on the first of two controllers. Two swaps are accepted
on both; the first one has completed on the second controller. -/
def twoSwaps : List Act :=
  [.call (.enqueue ⟨31⟩ 5), swap 0, brings 100, accepts, accepts, swap 1, brings 101, accepts,
    accepts, .call .drain, reads third].filterMap Move.act?

open Sample in
/-- The first controller is disabled while the table has its entries in reverse, or the three tokens
that are pending on it are reported by two drains. -/
theorem twoSwaps_alike :
    ∃ s table t news removed disabled news' removed' reported,
      (new { Screen.new Sample.pipes .default with slots := Sample.slots }).play twoSwaps = some s ∧
      s.screen.registry.pendingOn ⟨31⟩ = [first, second, fourth] ∧
      table.entries = s.screen.registry.pending.entries.reverse ∧
      (s.reorder table).call (.disable ⟨31⟩) = some t ∧
      t.Unattended news removed disabled .done ∧
      s.screen.Drains [[.abort fourth, .abort first], [.abort second]] news' removed' reported ∧
      s.screen.AbortsAlike ⟨31⟩ 0 news news' removed removed' disabled reported := by
  obtain ⟨s, hplay, hidle, hunbroken, hi, hpending⟩ :
      ∃ s, (new { Screen.new Sample.pipes .default with slots := Sample.slots }).play twoSwaps =
        some s ∧ s.isIdle = true ∧ s.violation = none ∧ s.screen.pipeOf? ⟨31⟩ = some 0 ∧
        s.screen.registry.pendingOn ⟨31⟩ = [first, second, fourth] :=
    ⟨_, rfl, rfl, rfl, rfl, rfl⟩
  let table : Table Token (Pending Event) :=
    ⟨s.screen.registry.pending.entries.reverse,
      ((List.reverse_perm _).map _).nodup_iff.2 s.screen.registry.pending.nodup⟩
  have htable : table.entries.Perm s.screen.registry.pending.entries := List.reverse_perm _
  have hbatches : List.Perm (List.flatten [[fourth, first], [second]])
      (s.screen.registry.pendingOn ⟨31⟩) :=
    hpending ▸ @List.perm_append_comm _ [fourth] [first, second]
  obtain ⟨t, news, removed, disabled, news', removed', reported, h⟩ :=
    disable_alike_aborts (Reaches.refl.play hplay) hidle hunbroken hi htable hbatches
  exact ⟨s, table, t, news, removed, disabled, news', removed', reported, hplay, hpending, rfl, h⟩

end Session

end PageFlip
