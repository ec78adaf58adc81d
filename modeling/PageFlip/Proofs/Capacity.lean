import Mathlib.Data.List.Nodup
import Mathlib.Data.List.Perm.Subperm
import PageFlip.Proofs.Backing
import PageFlip.Proofs.Registry

/-!
# The capacity of the registry

The registry hands out a token exactly while fewer tokens than its capacity are pending or retired
(`Registry.allocate_eq_none_iff`): among so many numbers in a row there is always one that is free.
The capacity is the one of the configuration in all that clients do (`Session.capacity_of_reaches`).
-/

namespace PageFlip

namespace Registry

variable {α : Type} {r s : Registry α} {t : Token} {crtc : Crtc} {event : α}

/-- The numbers that no free token can have: those of the tokens in flight, and zero. -/
def taken (r : Registry α) : List UInt32 :=
  0 :: (r.pending.keys ++ r.retired.keys).map Token.raw

/-- Besides zero a number is taken for each token in flight. -/
theorem length_taken (r : Registry α) : r.taken.length = r.occupied + 1 := by
  simp [taken, occupied, Table.keys, Table.size]

/-- A number in the search is passed over only if it is taken. -/
theorem mem_taken_of_candidate? {n : Nat} (h : r.candidate? n = none) :
    r.next + UInt32.ofNat n ∈ r.taken := by
  unfold candidate? at h
  cases htoken : Token.ofUInt32? (r.next + UInt32.ofNat n) with
  | none =>
    rw [Token.ofUInt32?_eq_none_iff] at htoken
    rw [htoken]
    exact List.mem_cons_self
  | some t =>
    rw [Token.ofUInt32?_eq_some_iff] at htoken
    have hoccupied : r.occupies t = true := by
      rw [htoken, Token.ofUInt32?_raw] at h
      simpa using h
    rw [occupies, Bool.or_eq_true, Table.contains_iff, Table.contains_iff, ← List.mem_append]
      at hoccupied
    rw [htoken]
    exact List.mem_cons_of_mem _ (List.mem_map_of_mem hoccupied)

/-- The numbers of a search are all different. -/
theorem nodup_search {next : UInt32} {k : Nat} (hk : k ≤ UInt32.size) :
    ((List.range k).map fun n => next + UInt32.ofNat n).Nodup := by
  refine List.Nodup.map_on (fun m hm n hn hsame => ?_) List.nodup_range
  have hraw := congrArg UInt32.toNat ((UInt32.add_right_inj next).1 hsame)
  rw [List.mem_range] at hm hn
  rwa [UInt32.toNat_ofNat_of_lt' (by omega), UInt32.toNat_ofNat_of_lt' (by omega)] at hraw

/-- The search for a free token succeeds. -/
theorem exists_free (h : r.occupied < r.capacity) : ∃ t, r.free? = some t := by
  rw [← Option.ne_none_iff_exists']
  intro hnone
  rw [free?, List.findSome?_eq_none_iff] at hnone
  have hlimit : r.capacity ≤ capacityLimit := Nat.min_le_right _ _
  have hsize : r.occupied + 2 ≤ UInt32.size := by
    unfold capacityLimit at hlimit
    omega
  -- There are more numbers in the search than are taken.
  have hsubset :
      ((List.range (r.occupied + 2)).map fun n => r.next + UInt32.ofNat n) ⊆ r.taken := by
    intro raw hraw
    obtain ⟨n, hn, rfl⟩ := List.mem_map.1 hraw
    exact mem_taken_of_candidate? (hnone n hn)
  have hlength := (List.subperm_of_subset (nodup_search hsize) hsubset).length_le
  rw [List.length_map, List.length_range, length_taken] at hlength
  exact Nat.not_succ_le_self _ hlength

/-- An allocation fails only at the capacity. -/
theorem allocate_eq_none_iff : r.allocate crtc event = none ↔ r.capacity ≤ r.occupied := by
  unfold allocate
  split_ifs with hfull
  · exact iff_of_true rfl hfull
  · obtain ⟨t, ht⟩ := exists_free (Nat.lt_of_not_le hfull)
    rw [ht]
    exact iff_of_false (by simp) hfull

end Registry

/-! ## What operations leave alone -/

namespace Screen

/-- What is settled for good: the configuration, and the most tokens that may be pending or
retired. -/
def settings (s : Screen) : Config × Nat := (s.config, s.registry.max)

variable {s : Screen} {next : Task}

/-- Dropping a hold is nothing to the registry. -/
theorem registry_settle {id : SwapId} {result : Except Violation (Barrier × Option Verdict)}
    {client : Client} : (s.settle id result client next).screen.registry = s.registry := by
  unfold settle
  split
  · rfl
  · rfl
  · rfl

/-- Resolving an event that was handed out is nothing to the registry. -/
theorem registry_deliver {event : Event} {stamp : Option Stamp} :
    (s.deliver event stamp next).screen.registry = s.registry := by
  cases event with
  | flip f =>
    show (s.settleFlip f stamp next).screen.registry = _
    unfold settleFlip
    split
    · rfl
    · exact registry_settle
  | plain client => rfl

/-- Dropping a hold leaves the settings alone. -/
theorem settings_settle {id : SwapId} {result : Except Violation (Barrier × Option Verdict)}
    {client : Client} : (s.settle id result client next).screen.settings = s.settings := by
  unfold settle
  split
  · rfl
  · rfl
  · rfl

/-- Resolving a flip leaves the settings alone. -/
theorem settings_settleFlip {f : Flip} {stamp : Option Stamp} :
    (s.settleFlip f stamp next).screen.settings = s.settings := by
  unfold settleFlip
  split
  · rfl
  · exact settings_settle

/-- Releasing the submitter's hold leaves the settings alone. -/
theorem settings_release {id : SwapId} : (s.release id next).screen.settings = s.settings := by
  unfold release
  split
  · rfl
  · exact settings_settle

/-- Resolving an event leaves the settings alone. -/
theorem settings_deliver {event : Event} {stamp : Option Stamp} :
    (s.deliver event stamp next).screen.settings = s.settings := by
  cases event with
  | flip f => exact settings_settleFlip
  | plain client => rfl

/-- Handing out the event of a token leaves the settings alone. -/
theorem settings_resolve {token : Token} {stamp : Option Stamp} :
    (s.resolve token stamp next).screen.settings = s.settings := by
  unfold resolve
  split
  · rfl
  · rename_i event r hr
    obtain ⟨p, -, -, rfl⟩ := Registry.of_resolve_eq_ok hr
    exact settings_deliver.trans rfl

/-- Dispatching a report leaves the settings alone. -/
theorem settings_dispatch {report : Report} :
    (s.dispatch report next).screen.settings = s.settings := by
  unfold dispatch
  split
  · rename_i r hr
    rw [Registry.of_forget?_eq_some hr]
    rfl
  · exact settings_resolve

/-- Giving up a framebuffer leaves the settings alone. -/
theorem settings_reclaim {id : SwapId} {verdict : Verdict} :
    (s.reclaim id verdict next).screen.settings = s.settings := by
  unfold reclaim
  split
  · rfl
  · dsimp only
    split
    · rfl
    · rfl

/-- Trying a pipe leaves the settings alone. -/
theorem settings_tryPipe {f : Fanout} {i : Nat} {p : Pipe} :
    (s.tryPipe f i p).screen.settings = s.settings := by
  unfold tryPipe
  split
  · rfl
  · rename_i token r hr
    obtain ⟨-, -, rfl⟩ := Registry.of_allocate_eq_some hr
    dsimp only
    split
    · rfl
    · split
      · rfl
      · rfl

/-- Going on to the next pipe leaves the settings alone. -/
theorem settings_fan {f : Fanout} : (s.fan f).screen.settings = s.settings := by
  unfold fan
  split
  · rfl
  · dsimp only
    split
    · rfl
    · split
      · exact settings_tryPipe
      · rfl

/-- Trying a flip again leaves the settings alone. -/
theorem settings_retry {a : Attempt} : (s.retry a).screen.settings = s.settings := by
  unfold retry
  dsimp only
  split
  · rw [Registry.forget_eq]
    rfl
  · split
    · exact settings_resolve
    · rfl

/-- No step changes the settings. -/
theorem settings_step (s : Screen) (t : Task) : (s.step t).screen.settings = s.settings := by
  cases t with
  | fan f => exact settings_fan
  | retry a => exact settings_retry
  | conclude f error => exact settings_release
  | dispatch reports next =>
    cases reports with
    | nil => rfl
    | cons report rest => exact settings_dispatch
  | abort events next =>
    cases events with
    | nil => rfl
    | cons event rest => exact settings_deliver
  | reclaim id verdict next => exact settings_reclaim
  | say notice next => rfl
  | finish outcome => rfl

/-- No part of an operation changes the settings. -/
theorem settings_proceed (p : Progress Follow) :
    (proceed p).screen.settings = p.screen.settings :=
  proceed_induct (P := fun s _ _ => s.settings = p.screen.settings)
    (fun s t _ h => (settings_step s t).trans h) (h := []) rfl

/-- No operation changes the settings when it starts. -/
theorem settings_start (s : Screen) (op : Operation) :
    (s.start op).screen.settings = s.settings := by
  cases op with
  | disable crtc =>
    show (s.disable crtc).screen.settings = _
    unfold disable
    split
    · rfl
    · rfl
  | enable crtc =>
    show (s.enable crtc).screen.settings = _
    unfold enable
    split
    · rfl
    · rfl
  | enqueue crtc client =>
    simp only [start, enqueue]
    cases hr : s.registry.allocate crtc (.plain client) with
    | none => rfl
    | some tr =>
      obtain ⟨-, -, hr⟩ := Registry.of_allocate_eq_some hr
      show (s.config, tr.2.max) = _
      rw [hr]
      rfl
  | resolve token stamp => exact settings_resolve
  | settle flip stamp => exact settings_settleFlip
  | release id => exact settings_release
  | _ => rfl

/-- No operation changes the settings when it has its answer. -/
theorem settings_resume {w : Wait} {a : Answer} {p : Progress Follow}
    (h : s.resume w a = some p) : p.screen.settings = s.settings := by
  unfold resume at h
  split at h <;> cases h
  · rfl
  · rfl
  · rename_i a now
    unfold accepted
    split
    · rfl
    · rfl
  · exact settings_resolve
  · rfl
  · rfl
  · rename_i a result
    rcases result with e | _ | reports
    · exact settings_resolve
    · unfold afterRead
      dsimp only
      split
      · rfl
      · exact settings_resolve
    · rfl
  · rename_i result
    rcases result with e | _ | reports
    · rfl
    · rfl
    · rfl
  · rfl
  · rfl
  · rfl

end Screen

namespace Session

/-- An operation that comes to rest leaves the screen as it is. -/
theorem screen_settle (waits : List Wait) (p : Progress Rest) :
    (settle waits p).session.screen = p.screen := by
  unfold settle
  split
  · rfl
  · rfl
  · rfl

variable {s s' : Session} {op : Operation} {a : Answer} {t : Turn} {act : Act}

/-- No call changes the settings. -/
theorem settings_call (h : s.call op = some t) :
    t.session.screen.settings = s.screen.settings := by
  obtain ⟨-, rfl⟩ := of_call_eq_some h
  rw [screen_settle, Screen.settings_proceed, Screen.settings_start]

/-- No answer changes the settings. -/
theorem settings_answer (h : s.answer a = some t) :
    t.session.screen.settings = s.screen.settings := by
  obtain ⟨w, waits, p, -, -, hp, rfl⟩ := of_answer_eq_some h
  rw [screen_settle, Screen.settings_proceed, Screen.settings_resume hp]

/-- No act changes the settings. -/
theorem settings_step (h : s.step act = some s') : s'.screen.settings = s.screen.settings := by
  cases act with
  | call op =>
    simp only [step] at h
    split_ifs at h
    obtain ⟨t, ht, rfl⟩ := Option.map_eq_some_iff.1 h
    exact settings_call ht
  | answer a =>
    obtain ⟨t, ht, rfl⟩ := Option.map_eq_some_iff.1 h
    exact settings_answer ht
  | reorder table =>
    obtain ⟨-, -, rfl⟩ := of_reorder? h
    rfl

/-- Whatever clients do, the registry has the capacity of the configuration. -/
theorem capacity_of_reaches {pipes : List Pipe} {slots : List Framebuffer} {config : Config}
    (hreaches : (new { Screen.new pipes config with slots := slots }).Reaches s) :
    s.screen.registry.capacity = min config.maxPending.toNat Registry.capacityLimit := by
  have hsettings : s.screen.settings = (config, config.maxPending.toNat) := by
    induction hreaches with
    | refl => rfl
    | act _ hstep ih => exact (settings_step hstep).trans ih
  have hmax : s.screen.registry.max = config.maxPending.toNat := congrArg Prod.snd hsettings
  rw [Registry.capacity, hmax]

end Session

end PageFlip
