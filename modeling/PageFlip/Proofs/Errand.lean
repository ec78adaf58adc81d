import PageFlip.Proofs.Continues
import PageFlip.Proofs.Disabled
import PageFlip.Proofs.Marks

/-!
# Swaps on their way from pipe to pipe

An `Errand` is a swap in the middle of its flips: between two pipes, or with the flip of one. What
is noted of the swap lies behind the flip that comes next (`Errand.Kept`), and no two errands are
about one swap (`Errands`). Each part of an operation keeps this: those that resolve flips, give up
holds and give up framebuffers leave the errands as they are (`Screen.Eases`), and a step from one
pipe to the next adds the marks of that pipe (`Errands.fan`).

Nothing is expected of the device or the channel here, nor of the numbers of tokens.
-/

namespace PageFlip

/-! ## Errands -/

/-- A swap in the middle of its flips. -/
inductive Errand
  /-- It goes on to the next pipe. -/
  | between (f : Fanout)
  /-- The flip on one pipe is being queued. -/
  | trying (a : Attempt)

namespace Errand

/-- The swap, with the pipes to come. -/
def fanout : Errand → Fanout
  | between f => f
  | trying a => a.fanout

/-- The swap. -/
def swap (e : Errand) : SwapId := e.fanout.swap

/-- The positions of the pipes that are or may be tried from now on. -/
def positions : Errand → List Nat
  | between f => f.rest
  | trying a => a.pipe :: a.fanout.rest

end Errand

/-- The swap that a task is on its way with. -/
def Task.errand? : Task → Option Errand
  | fan f => some (.between f)
  | retry a => some (.trying a)
  | conclude .. => none
  | dispatch _ next => next.errand?
  | abort _ next => next.errand?
  | reclaim _ _ next => next.errand?
  | say _ next => next.errand?
  | finish _ => none

/-- The swap that an operation at rest is on its way with. -/
def Wait.errand? : Wait → Option Errand
  | attempting a => some (.trying a)
  | reading (some a) => some (.trying a)
  | telling _ next => next.errand?
  | destroying _ next => next.errand?
  | _ => none

/-- The swap that an operation is on its way with, in the middle of it or at rest. -/
def Follow.errand? : Follow → Option Errand
  | .inl t => t.errand?
  | .inr (.waiting w) => w.errand?
  | .inr _ => none

/-- An operation that goes on with a task stays on the same way, if no rule is broken. -/
theorem Follow.Continues.errand? {next : Task} {f : Follow} (hf : f.Continues next) :
    f.errand? = next.errand? ∨ f.errand? = none := by
  cases hf with
  | violated v => exact .inr rfl
  | _ => exact .inl rfl

/-- The error that an operation goes on with is the one that it ends with, if it has one. -/
theorem Follow.Continues.error? {next : Task} {f : Follow} (hf : f.Continues next) :
    f.error? = next.ending.error? ∨ f.error? = none := by
  cases hf with
  | violated v => exact .inr rfl
  | _ => exact .inl rfl

/-- A part that is handed a task hands no flip to the channel. -/
theorem Follow.Continues.ne_attempting {next : Task} {f : Follow} (hf : f.Continues next)
    (a : Attempt) : f ≠ .inr (.waiting (.attempting a)) := by
  rintro rfl
  cases hf

/-- The same by what is submitted. -/
theorem Follow.Continues.submits {next : Task} {f : Follow} (hf : f.Continues next) :
    f.submits = [] := by
  cases hf <;> rfl

/-- A swap that reports how it went is on its way no longer. -/
theorem Task.errand?_report (f : Fanout) (error : Option SwapError) :
    (f.report error).errand? = none := by
  unfold Fanout.report
  split
  · cases error <;> rfl
  · rfl

/-! ## What changes on the screen -/

namespace Screen

/-- The controllers of the pipes and the configuration stay, and no swap goes. -/
structure Remains (s s' : Screen) : Prop where
  crtcs : s'.pipes.map Pipe.crtc = s.pipes.map Pipe.crtc
  config : s'.config = s.config
  length : s.swaps.length ≤ s'.swaps.length

/-- What stays is there. -/
theorem Remains.refl (s : Screen) : s.Remains s := ⟨rfl, rfl, Nat.le_refl _⟩

/-- No pipe and no setting changes, no swap comes or goes or gets another hold, and no token becomes
pending. -/
structure Eases (s s' : Screen) : Prop where
  pipes : s'.pipes = s.pipes
  config : s'.config = s.config
  length : s'.swaps.length = s.swaps.length
  holds : ∀ id, s'.holds id ≤ s.holds id
  pending : ∀ t p, s'.registry.pending.find? t = some p → s.registry.pending.find? t = some p

/-- Without a change nothing is added. -/
theorem Eases.refl (s : Screen) : s.Eases s :=
  ⟨rfl, rfl, rfl, fun _ => Nat.le_refl _, fun _ _ hp => hp⟩

/-- Two changes that add nothing add nothing. -/
theorem Eases.trans {s s' s'' : Screen} (h : s.Eases s') (h' : s'.Eases s'') : s.Eases s'' where
  pipes := h'.pipes.trans h.pipes
  config := h'.config.trans h.config
  length := h'.length.trans h.length
  holds := fun id => Nat.le_trans (h'.holds id) (h.holds id)
  pending := fun t p hp => h.pending t p (h'.pending t p hp)

/-- Where nothing is added the pipes and the configuration stay. -/
theorem Eases.remains {s s' : Screen} (h : s.Eases s') : s.Remains s' :=
  ⟨congrArg _ h.pipes, h.config, Nat.le_of_eq h.length.symm⟩

variable {s : Screen} {next : Task}

/-- The holds on a swap are those of its barrier. -/
theorem holds_of_getElem? {id : SwapId} {w : Swap} (hw : s.swaps[id]? = some w) :
    s.holds id = w.barrier.outstanding := by
  rw [holds, hw]
  rfl

/-- Another barrier changes the holds on its own swap. -/
theorem holds_setBarrier {id : SwapId} {w : Swap} (hw : s.swaps[id]? = some w) (b : Barrier)
    (j : SwapId) : (s.setBarrier id b).holds j = if j = id then b.outstanding else s.holds j := by
  rw [holds, getElem?_setBarrier hw]
  split_ifs
  · rfl
  · rfl

/-- A barrier is replaced by one with no more holds. -/
theorem eases_setBarrier {id : SwapId} {w : Swap} {b : Barrier} (hw : s.swaps[id]? = some w)
    (hb : b.outstanding ≤ w.barrier.outstanding) : s.Eases (s.setBarrier id b) where
  pipes := rfl
  config := rfl
  length := length_setBarrier _ _ _
  holds := by
    intro j
    rw [holds_setBarrier hw]
    split_ifs with hj
    · rw [hj, holds_of_getElem? hw]
      exact hb
    · exact Nat.le_refl _
  pending := fun _ _ hp => hp

/-- No token becomes pending. -/
theorem eases_setRegistry {r : Registry Event}
    (hr : ∀ t p, r.pending.find? t = some p → s.registry.pending.find? t = some p) :
    s.Eases (s.setRegistry r) :=
  ⟨rfl, rfl, rfl, fun _ => Nat.le_refl _, hr⟩

/-- A dropped hold adds none. -/
theorem outstanding_drop_le {b c : Barrier} {t : Tally} {v : Option Verdict}
    (hholds : b.outstanding = t.holds) (hc : b.drop t = (c, v)) :
    c.outstanding ≤ b.outstanding := by
  have hdrop := (Barrier.isFinal_drop b t).2
  rw [hc] at hdrop
  rw [hdrop, hholds]
  exact Nat.sub_le _ _

/-- Resolving a flip adds no hold. -/
theorem outstanding_resolve_le {b c : Barrier} {reference : Bool} {stamp : Option Stamp}
    {v : Option Verdict} (hc : b.resolve reference stamp = .ok (c, v)) :
    c.outstanding ≤ b.outstanding := by
  obtain ⟨t, ht, hdrop⟩ := Barrier.of_resolve_eq_ok hc
  refine outstanding_drop_le ?_ hdrop
  rw [Barrier.outstanding, ht, Tally.holds_record]
  rfl

/-- Releasing the submitter's hold adds none. -/
theorem outstanding_release_le {b c : Barrier} {v : Option Verdict}
    (hc : b.release = .ok (c, v)) : c.outstanding ≤ b.outstanding := by
  obtain ⟨t, ht, -, hdrop⟩ := Barrier.of_release_eq_ok hc
  refine outstanding_drop_le ?_ hdrop
  rw [Barrier.outstanding, ht]
  rfl

/-- A hold on a swap was dropped. -/
theorem eases_settle {id : SwapId} {w : Swap} {result : Except Violation (Barrier × Option Verdict)}
    {client : Client} (hw : s.swaps[id]? = some w)
    (hresult : ∀ b v, result = .ok (b, v) → b.outstanding ≤ w.barrier.outstanding) :
    s.Eases (s.settle id result client next).screen := by
  unfold settle
  split
  · exact .refl s
  · exact eases_setBarrier hw (hresult _ _ rfl)
  · exact eases_setBarrier hw (hresult _ _ rfl)

/-- A flip is resolved. -/
theorem eases_settleFlip {f : Flip} {stamp : Option Stamp} :
    s.Eases (s.settleFlip f stamp next).screen := by
  unfold settleFlip
  split
  · exact .refl s
  · rename_i w hw
    exact eases_settle hw fun _ _ => outstanding_resolve_le

/-- The submitter of a swap gives up its hold. -/
theorem eases_release {id : SwapId} : s.Eases (s.release id next).screen := by
  unfold release
  split
  · exact .refl s
  · rename_i w hw
    exact eases_settle hw fun _ _ => outstanding_release_le

/-- An event is resolved. -/
theorem eases_deliver {event : Event} {stamp : Option Stamp} :
    s.Eases (s.deliver event stamp next).screen := by
  cases event with
  | flip f => exact eases_settleFlip
  | plain client => exact .refl s

/-- The event of a token is handed out and resolved. -/
theorem eases_resolve {token : Token} {stamp : Option Stamp} :
    s.Eases (s.resolve token stamp next).screen := by
  unfold resolve
  split
  · exact .refl s
  · rename_i event r hr
    exact (eases_setRegistry fun t p hp => (Registry.find?_of_resolve hr hp).2).trans eases_deliver

/-- A report is dispatched, on time or late. -/
theorem eases_dispatch {report : Report} : s.Eases (s.dispatch report next).screen := by
  unfold dispatch
  split
  · rename_i r hr
    rw [Registry.of_forget?_eq_some hr]
    exact eases_setRegistry fun _ _ hp => hp
  · exact eases_resolve

/-- What a swap leaves over is given up. -/
theorem eases_reclaim {id : SwapId} {verdict : Verdict} :
    s.Eases (s.reclaim id verdict next).screen := by
  unfold reclaim
  split
  · exact .refl s
  · dsimp only
    split
    · exact ⟨rfl, rfl, rfl, fun _ => Nat.le_refl _, fun _ _ hp => hp⟩
    · exact ⟨rfl, rfl, rfl, fun _ => Nat.le_refl _, fun _ _ hp => hp⟩

/-- A flip that the channel rejects is given up. -/
theorem eases_fail {a : Attempt} {e : SwapError} : s.Eases (s.fail a e).screen :=
  eases_resolve

/-- Nothing is noted of the pipe at hand but a failure or an attempt. -/
theorem takes_of_eases {id : SwapId} {i : Nat} {p : Progress Follow} (h : s.Eases p.screen) :
    s.takes id i p = (if p.next.error?.isSome then [.failed id i] else []) ++ p.next.submits := by
  have hkeys : (p.screen.registry.pending.keys.filter fun t => !s.registry.isPending t) = [] := by
    rw [List.filter_eq_nil_iff]
    intro t ht
    obtain ⟨q, hq⟩ := Option.ne_none_iff_exists'.1 fun hnone => Table.find?_eq_none_iff.1 hnone ht
    simp [Registry.isPending_iff.2 ⟨q, h.pending t q hq⟩]
  rw [takes, hkeys, if_neg (Nat.not_lt.2 (h.holds id))]
  simp only [List.append_nil, List.map_nil]

end Screen

/-! ## Errands and marks -/

namespace Mark

/-- A mark that is not a failure may come before any mark at a later place. -/
theorem precedes_of_lt {m m' : Mark} (hm : m.isFailed = false) (hlt : m.place < m'.place) :
    m.Precedes m' :=
  ⟨hm, .inl hlt⟩

/-- A flip gets its token and its hold and is handed to the channel, if all that was noted of its
swap stands before. -/
theorem InOrder.register {l : List Mark} {id : SwapId} {i : Nat} (h : InOrder l)
    (hl : ∀ m ∈ l, m.swap = id → m.isFailed = false ∧ m.place ≤ 4 * i) (f : Submission) :
    InOrder (allocated id i f.token :: l) ∧
      InOrder (submitted id i f :: held id i :: allocated id i f.token :: l) ∧
      ∀ m ∈ submitted id i f :: held id i :: allocated id i f.token :: l, m.swap = id →
        m.Precedes (submitted id i f) := by
  have hallocated : InOrder (allocated id i f.token :: l) := by
    refine h.cons fun m hm hswap => ?_
    obtain ⟨hfailed, hplace⟩ := hl m hm hswap
    exact precedes_of_lt hfailed (Nat.lt_succ_of_le hplace)
  have hheld : InOrder (held id i :: allocated id i f.token :: l) := by
    refine hallocated.cons fun m hm hswap => ?_
    rcases List.mem_cons.1 hm with rfl | hm
    · exact precedes_of_lt rfl (Nat.lt_succ_self _)
    · obtain ⟨hfailed, hplace⟩ := hl m hm hswap
      exact precedes_of_lt hfailed (Nat.lt_succ_of_le (Nat.le_succ_of_le hplace))
  have hbehind : ∀ m ∈ held id i :: allocated id i f.token :: l, m.swap = id →
      m.Precedes (submitted id i f) := by
    intro m hm hswap
    rcases List.mem_cons.1 hm with rfl | hm
    · exact precedes_of_lt rfl (Nat.lt_succ_self _)
    · have hprecedes := (List.pairwise_cons.1 hheld).1 m hm hswap
      exact precedes_of_lt hprecedes.unfailed (Nat.lt_succ_of_le hprecedes.place_le)
  refine ⟨hallocated, hheld.cons hbehind, List.forall_mem_cons.2 ⟨fun _ => ?_, hbehind⟩⟩
  exact ⟨rfl, .inr ⟨id, i, f, rfl, rfl⟩⟩

end Mark

namespace Errand

/-- A mark of the swap lies behind what comes next: the token of the next flip, or an attempt. -/
def Behind (m : Mark) : Errand → Prop
  | between f => ∀ i ∈ f.rest, m.isFailed = false ∧ m.place ≤ 4 * i
  | trying a => m.Precedes (.submitted a.fanout.swap a.pipe a.submission)

/-- What is known of a swap in the middle of its flips, where `l` are the marks. -/
structure Kept (s : Screen) (l : List Mark) (e : Errand) : Prop where
  lt : e.swap < s.swaps.length
  /-- It flips the framebuffer that was imported for it, with the flags that were asked for. -/
  brought : ∃ r, .brought e.swap r e.fanout.fb ∈ l ∧ e.fanout.flags = s.flipFlags r
  ascending : e.positions.Pairwise (· < ·)
  behind : ∀ m ∈ l, m.swap = e.swap → e.Behind m
  /-- The flip that is being queued is for its pipe, and its token was allocated for it. -/
  flip : ∀ a, e = .trying a → a.Aims (s.pipes.map Pipe.crtc) ∧ a.submission.fb = a.fanout.fb ∧
    a.submission.flags = a.fanout.flags ∧
    .allocated a.fanout.swap a.pipe a.submission.token ∈ l

variable {s s' : Screen} {l k : List Mark} {e : Errand} {a : Attempt} {f : Fanout}

/-- Marks of other swaps make no difference. -/
theorem Kept.mono (h : e.Kept s l) (hs : s.Remains s')
    (hnew : ∀ m ∈ k, m.swap ≠ e.swap) : e.Kept s' (k ++ l) where
  lt := Nat.lt_of_lt_of_le h.lt hs.length
  brought := by
    obtain ⟨r, hr, hflags⟩ := h.brought
    refine ⟨r, List.mem_append_right _ hr, hflags.trans ?_⟩
    rw [Screen.flipFlags, Screen.flipFlags, hs.config]
  ascending := h.ascending
  behind := by
    intro m hm hswap
    rcases List.mem_append.1 hm with hm | hm
    · exact absurd hswap (hnew m hm)
    · exact h.behind m hm hswap
  flip := by
    intro a ha
    obtain ⟨haims, hfb, hflags, hmem⟩ := h.flip a ha
    refine ⟨?_, hfb, hflags, List.mem_append_right _ hmem⟩
    rw [hs.crtcs]
    exact haims

/-- How often the channel was read makes no difference to a flip that is being queued. -/
theorem Kept.idle (h : (trying a).Kept s l) (n : Nat) : (trying { a with idle := n }).Kept s l :=
  ⟨h.lt, h.brought, h.ascending, h.behind, fun b hb => by cases hb; exact h.flip a rfl⟩

/-- A mark of the swap makes no difference if it lies behind what comes next. -/
theorem Kept.note {m : Mark} (h : e.Kept s l) (hm : e.Behind m) : e.Kept s (m :: l) where
  lt := h.lt
  brought := by
    obtain ⟨r, hr, hflags⟩ := h.brought
    exact ⟨r, List.mem_cons_of_mem _ hr, hflags⟩
  ascending := h.ascending
  behind := List.forall_mem_cons.2 ⟨fun _ => hm, h.behind⟩
  flip := by
    intro a ha
    obtain ⟨haims, hfb, hflags, hmem⟩ := h.flip a ha
    exact ⟨haims, hfb, hflags, List.mem_cons_of_mem _ hmem⟩

/-- A pipe is left out. -/
theorem Kept.skip {i : Nat} {rest : List Nat} (h : (between f).Kept s l)
    (hrest : f.rest = i :: rest) : (between { f with rest := rest }).Kept s l where
  lt := h.lt
  brought := h.brought
  ascending := by
    have hascending : f.rest.Pairwise (· < ·) := h.ascending
    rw [hrest] at hascending
    exact hascending.of_cons
  behind := fun m hm hswap j hj =>
    h.behind m hm hswap j (hrest ▸ List.mem_cons_of_mem i hj)
  flip := fun b hb => by cases hb

/-- The swap goes on to the pipes behind the one at hand, where nothing was noted that stands behind
their flips. -/
theorem Kept.next {n : Nat} (h : (trying a).Kept s l) :
    (between { a.fanout with submitted := n }).Kept s l where
  lt := h.lt
  brought := h.brought
  ascending := h.ascending.of_cons
  behind := by
    intro m hm hswap i hi
    have hprecedes : m.Precedes (.submitted a.fanout.swap a.pipe a.submission) :=
      h.behind m hm hswap
    have hlt : a.pipe < i := (List.pairwise_cons.1 h.ascending).1 i hi
    have hplace : m.place ≤ 4 * a.pipe + 3 := hprecedes.place_le
    exact ⟨hprecedes.unfailed, by omega⟩
  flip := fun b hb => by cases hb

end Errand

/-- The marks come in order, each token that is handed to the channel was allocated, and the swaps
in the middle of their flips are known and different. -/
structure Errands (s : Screen) (es : List Errand) (l : List Mark) : Prop where
  order : Mark.InOrder l
  token : ∀ id i f, .submitted id i f ∈ l → .allocated id i f.token ∈ l
  known : ∀ m ∈ l, m.swap < s.swaps.length
  kept : ∀ e ∈ es, e.Kept s l
  apart : (es.map Errand.swap).Nodup

namespace Errands

variable {s s' : Screen} {es es' : List Errand} {l k : List Mark} {e : Errand} {a : Attempt}
  {f : Fanout} {i : Nat}

/-- Errands are given up, or go on as they were. -/
theorem mono (h : Errands s es l) (hs : s.Remains s') (hsub : es'.Sublist es) :
    Errands s' es' l where
  order := h.order
  token := h.token
  known := fun m hm => Nat.lt_of_lt_of_le (h.known m hm) hs.length
  kept := fun e he => (h.kept e (hsub.subset he)).mono (k := []) hs (List.forall_mem_nil _)
  apart := h.apart.sublist (hsub.map _)

/-- A swap takes its next step, and what it does is noted. -/
theorem advance {o : Option Errand} (h : Errands s (e :: es) l) (hs : s.Remains s')
    (hnew : ∀ m ∈ k, m.swap = e.swap) (horder : Mark.InOrder (k ++ l))
    (htoken : ∀ id i f, .submitted id i f ∈ k → .allocated id i f.token ∈ k ++ l)
    (ho : ∀ e' ∈ o, e'.swap = e.swap ∧ e'.Kept s' (k ++ l)) :
    Errands s' (o.toList ++ es) (k ++ l) := by
  obtain ⟨hne, hapart⟩ := List.nodup_cons.1 h.apart
  obtain ⟨he, hes⟩ := List.forall_mem_cons.1 h.kept
  -- What is noted now is about the swap that goes on, and the others are about other swaps.
  have hother : ∀ e' ∈ es, e'.Kept s' (k ++ l) := by
    intro e' he'
    refine (hes e' he').mono hs fun m hm hswap => hne ?_
    have hmem : e'.swap ∈ es.map Errand.swap := List.mem_map_of_mem he'
    rwa [← hswap, hnew m hm] at hmem
  refine ⟨horder, ?_, ?_, ?_, ?_⟩
  · intro id i f hf
    rcases List.mem_append.1 hf with hf | hf
    · exact htoken id i f hf
    · exact List.mem_append_right _ (h.token id i f hf)
  · intro m hm
    rcases List.mem_append.1 hm with hm | hm
    · rw [hnew m hm]
      exact Nat.lt_of_lt_of_le he.lt hs.length
    · exact Nat.lt_of_lt_of_le (h.known m hm) hs.length
  · cases o with
    | none => exact hother
    | some e' => exact List.forall_mem_cons.2 ⟨(ho e' rfl).2, hother⟩
  · cases o with
    | none => exact hapart
    | some e' =>
      refine List.nodup_cons.2 ⟨?_, hapart⟩
      rw [(ho e' rfl).1]
      exact hne

/-- A swap goes on, and nothing is noted. -/
theorem replace {e' : Errand} (h : Errands s (e :: es) l) (hs : s.Remains s')
    (hswap : e'.swap = e.swap) (he' : e'.Kept s' l) : Errands s' (e' :: es) l := by
  refine h.advance (k := []) (o := some e') hs (List.forall_mem_nil _) h.order ?_ ?_
  · exact fun _ _ _ hf => absurd hf List.not_mem_nil
  · rintro _ ⟨⟩
    exact ⟨hswap, he'⟩

/-- A pipe fails, and with it the swap. -/
theorem fail {m : Mark} (h : Errands s (e :: es) l) (hs : s.Remains s')
    (hm : m = .failed e.swap i) (hi : ∀ n ∈ l, n.swap = e.swap →
      n.isFailed = false ∧ n.place < 4 * i + 4) : Errands s' es (m :: l) := by
  refine h.advance (k := [m]) (o := none) hs ?_ ?_ ?_ fun e' he' => by cases he'
  · rintro n hn
    rw [List.mem_singleton.1 hn, hm]
    rfl
  · refine h.order.cons fun n hn hswap => ?_
    rw [hm] at hswap ⊢
    obtain ⟨hfailed, hplace⟩ := hi n hn hswap
    exact Mark.precedes_of_lt hfailed hplace
  · intro id j f hf
    rw [hm] at hf
    cases List.mem_singleton.1 hf

/-- An operation goes on with a task. -/
theorem pass {next : Task} {q : Progress Follow} (h : Errands s (next.errand?.toList ++ es) l)
    (hs : s.Remains q.screen) (hq : q.next.Continues next) :
    Errands q.screen (q.next.errand?.toList ++ es) l := by
  rcases hq.errand? with hsame | hnone
  · rw [hsame]
    exact h.mono hs (.refl _)
  · rw [hnone]
    exact h.mono hs (List.sublist_append_right _ _)

end Errands

/-- A flip that the channel has is noted, and its pipe is enabled. -/
def Follow.Ready (s : Screen) (l : List Mark) (f : Follow) : Prop :=
  ∀ a, f = .inr (.waiting (.attempting a)) →
    s.isEnabled a.pipe = true ∧ .submitted a.fanout.swap a.pipe a.submission ∈ l

/-- Where nothing is submitted the channel has no flip. -/
theorem Follow.Ready.of_submits {s : Screen} {l : List Mark} {f : Follow} (hf : f.submits = []) :
    f.Ready s l := by
  rintro a rfl
  cases hf

/-- What is known of a part of an operation above others, with the marks that it leaves. -/
def Progress.Orderly (es : List Errand) (l : List Mark) (p : Progress Follow) : Prop :=
  Errands p.screen (p.next.errand?.toList ++ es) l ∧ p.next.Ready p.screen l

namespace Registry

/-- The only token that becomes pending is the one that is handed out. -/
theorem keys_of_allocate {α : Type} {r r' : Registry α} {crtc : Crtc} {event : α} {t : Token}
    (h : r.allocate crtc event = some (t, r')) :
    (r'.pending.keys.filter fun u => !r.isPending u) = [t] := by
  obtain ⟨-, hfree, rfl⟩ := of_allocate_eq_some h
  have hnot : r.pending.contains t = false := by
    rw [occupies, Bool.or_eq_false_iff] at hfree
    exact hfree.1
  have hkeys : (r.pending.insert t ⟨crtc, event⟩).keys = r.pending.keys ++ [t] := by
    rw [Table.keys, Table.entries_insert, ← Table.entries_erase, Table.erase_eq_self hnot,
      List.map_append]
    rfl
  have hold : (r.pending.keys.filter fun u => !r.isPending u) = [] := by
    rw [List.filter_eq_nil_iff]
    intro u hu
    simp [isPending, Table.contains_iff.2 hu]
  have hnew : r.isPending t = false := hnot
  rw [hkeys, List.filter_append, hold, List.filter_singleton, hnew]
  rfl

end Registry

namespace Errands

variable {s s' : Screen} {es es' : List Errand} {l k : List Mark} {e : Errand} {a : Attempt}
  {f : Fanout} {i : Nat}

/-- Nothing but a failure is handed on by a part of an operation that goes on with a task. -/
theorem orderly_of_continues {next : Task} {q : Progress Follow}
    (h : Errands s (next.errand?.toList ++ es) l) (hs : s.Remains q.screen)
    (hq : q.next.Continues next) : q.Orderly es l :=
  ⟨h.pass hs hq, fun a ha => absurd ha (hq.ne_attempting a)⟩

/-- What is noted when a token becomes pending. -/
theorem takes_of_allocate {id : SwapId} {q : Progress Follow} {crtc : Crtc} {event : Event}
    {t : Token} {r : Registry Event} (halloc : s.registry.allocate crtc event = some (t, r))
    (hr : q.screen.registry = r) (herror : q.next.error? = none) :
    s.takes id i q = q.next.submits ++
      (if s.holds id < q.screen.holds id then [.held id i] else []) ++ [.allocated id i t] := by
  rw [Screen.takes, hr, Registry.keys_of_allocate halloc, herror]
  rfl

section Try

variable {rest : List Nat} {p : Pipe} {t : Token} {r : Registry Event} {event : Event} {w : Swap}

/-- All that was noted of a swap stands before the token of the next pipe. -/
theorem behind (h : Errands s (.between f :: es) l) (hrest : f.rest = i :: rest) :
    ∀ m ∈ l, m.swap = f.swap → m.isFailed = false ∧ m.place ≤ 4 * i :=
  fun m hm hswap =>
    (h.kept _ List.mem_cons_self).behind m hm hswap i (hrest ▸ List.mem_cons_self)

/-- The flip of a pipe is registered and handed to the channel. -/
theorem register {b : Barrier} (h : Errands s (.between f :: es) l) (hrest : f.rest = i :: rest)
    (hp : s.pipes[i]? = some p) (henabled : p.enabled = true)
    (halloc : s.registry.allocate p.crtc event = some (t, r)) (hw : s.swaps[f.swap]? = some w)
    (hb : w.barrier.hold = .ok b) {q : Progress Follow}
    (hq : q = ((s.setRegistry r).setBarrier f.swap b).halt []
      (.waiting (.attempting ⟨{ f with rest := rest }, i, ⟨p.crtc, f.fb, f.flags, t⟩, 0⟩))) :
    q.Orderly es (s.takes f.swap i q ++ l) := by
  have hf := h.kept _ List.mem_cons_self
  let g : Submission := ⟨p.crtc, f.fb, f.flags, t⟩
  obtain ⟨-, horder, hbehind⟩ := h.order.register (h.behind hrest) g
  have hw' : (s.setRegistry r).swaps[f.swap]? = some w := hw
  -- The hold is seen on the screen, and so it is noted.
  have hmore : s.holds f.swap < q.screen.holds f.swap := by
    rw [hq]
    show _ < ((s.setRegistry r).setBarrier f.swap b).holds f.swap
    rw [Screen.holds_setBarrier hw', if_pos rfl, Screen.holds_of_getElem? hw,
      Barrier.outstanding_of_hold hb]
    exact Nat.lt_succ_self _
  have htakes : s.takes f.swap i q =
      [.submitted f.swap i g, .held f.swap i, .allocated f.swap i t] := by
    rw [takes_of_allocate halloc (by rw [hq]; rfl) (by rw [hq]; rfl), if_pos hmore, hq]
    rfl
  have hremains : s.Remains q.screen := by
    rw [hq]
    exact ⟨rfl, rfl, Nat.le_of_eq (Screen.length_setBarrier (s.setRegistry r) _ _).symm⟩
  obtain ⟨request, hrequest, hflags⟩ := hf.brought
  have hascending : (i :: rest).Pairwise (· < ·) := by
    rw [← hrest]
    exact hf.ascending
  -- All that was noted of the swap up to now lies behind the submission.
  have hkept : (Errand.trying ⟨{ f with rest := rest }, i, g, 0⟩).Kept q.screen
      (.submitted f.swap i g :: .held f.swap i :: .allocated f.swap i t :: l) := by
    refine ⟨Nat.lt_of_lt_of_le hf.lt hremains.length, ⟨request, ?_, hflags.trans ?_⟩,
      hascending, hbehind, ?_⟩
    · exact List.mem_cons_of_mem _ (List.mem_cons_of_mem _ (List.mem_cons_of_mem _ hrequest))
    · rw [Screen.flipFlags, Screen.flipFlags, hremains.config]
    · rintro a ⟨⟩
      refine ⟨?_, rfl, rfl, List.mem_cons_of_mem _ (List.mem_cons_of_mem _ List.mem_cons_self)⟩
      rw [Attempt.Aims, hremains.crtcs, List.getElem?_map, hp, Option.map_some]
  rw [htakes]
  refine ⟨?_, ?_⟩
  · rw [hq]
    rw [hq] at hremains hkept
    refine h.advance (k := [_, _, _]) (o := some _) hremains ?_ horder ?_ ?_
    · simp [Mark.swap, Errand.swap, Errand.fanout]
    · rintro id j f' hf'
      simp only [List.mem_cons, List.not_mem_nil, or_false, reduceCtorEq, Mark.submitted.injEq]
        at hf'
      obtain ⟨rfl, rfl, rfl⟩ := hf'
      simp [g]
    · rintro e' ⟨⟩
      exact ⟨rfl, hkept⟩
  · rw [hq]
    rintro a ⟨⟩
    refine ⟨?_, List.mem_cons_self⟩
    show (s.pipes[i]?).any Pipe.enabled = true
    rw [hp]
    exact henabled

/-- A pipe is tried. -/
theorem tryPipe (h : Errands s (.between f :: es) l) (hrest : f.rest = i :: rest)
    (hp : s.pipes[i]? = some p) (henabled : p.enabled = true) :
    (s.tryPipe { f with rest := rest } i p).Orderly es
      (s.takes f.swap i (s.tryPipe { f with rest := rest } i p) ++ l) := by
  have hlt : f.swap < s.swaps.length := (h.kept _ List.mem_cons_self).lt
  obtain ⟨w, hw⟩ : ∃ w, s.swaps[f.swap]? = some w := ⟨_, List.getElem?_eq_getElem hlt⟩
  cases halloc : s.registry.allocate p.crtc (.flip ⟨f.swap, f.reference == some p.vblank⟩) with
  | none =>
    -- There is no token, and only the failure is noted.
    have hq : s.tryPipe { f with rest := rest } i p =
        s.work [.noToken] (.conclude { f with rest := rest } (some .sequenceExhausted)) := by
      simp only [Screen.tryPipe, halloc]
    rw [hq, Screen.takes_of_eases (.refl s)]
    refine ⟨h.fail (Screen.Remains.refl s) rfl fun n hn hswap => ?_, .of_submits rfl⟩
    obtain ⟨hfailed, hplace⟩ := h.behind hrest n hn hswap
    exact ⟨hfailed, by omega⟩
  | some tr =>
    obtain ⟨t, r⟩ := tr
    have hw' : (s.setRegistry r).swaps[f.swap]? = some w := hw
    cases hb : w.barrier.hold with
    | error v =>
      have hq : s.tryPipe { f with rest := rest } i p =
          (s.setRegistry r).halt [] (.violated v) := by
        simp only [Screen.tryPipe, halloc, hw', hb]
      -- The token is noted, but the barrier refused the hold.
      have hsame : ¬ s.holds f.swap < (s.setRegistry r).holds f.swap := Nat.lt_irrefl _
      have htakes : s.takes f.swap i ((s.setRegistry r).halt [] (.violated v)) =
          [.allocated f.swap i t] := by
        rw [takes_of_allocate halloc rfl rfl]
        show [] ++ (if s.holds f.swap < (s.setRegistry r).holds f.swap then _ else []) ++ _ = _
        rw [if_neg hsame]
        rfl
      obtain ⟨horder, -⟩ := h.order.register (h.behind hrest) ⟨p.crtc, f.fb, f.flags, t⟩
      rw [hq, htakes]
      refine ⟨h.advance (k := [_]) (o := none) ⟨rfl, rfl, Nat.le_refl _⟩ ?_ horder ?_ ?_,
        .of_submits rfl⟩
      · exact fun m hm => by rw [List.mem_singleton.1 hm]; rfl
      · exact fun id j g hg => by cases List.mem_singleton.1 hg
      · exact fun e' he' => by cases he'
    | ok b =>
      exact h.register hrest hp henabled halloc hw hb
        (by simp only [Screen.tryPipe, halloc, hw', hb])

end Try

/-- The swap goes on to the next pipe. -/
theorem fan (h : Errands s (.between f :: es) l) :
    (s.fan f).Orderly es (marking.step s (.fan f) ++ l) := by
  unfold marking Screen.step
  dsimp only
  cases hrest : f.rest with
  | nil =>
    have hq : s.fan f = s.work [] (.conclude f none) := by simp only [Screen.fan, hrest]
    rw [hq]
    exact ⟨h.mono (.refl s) (List.sublist_cons_self _ _), .of_submits rfl⟩
  | cons i rest =>
    -- A pipe that is not there or is disabled is left out.
    have hskip : (s.work [] (.fan { f with rest := rest })).Orderly es
        (s.takes f.swap i (s.work [] (.fan { f with rest := rest })) ++ l) := by
      rw [Screen.takes_of_eases (.refl s)]
      exact ⟨h.replace (.refl s) rfl ((h.kept _ List.mem_cons_self).skip hrest), .of_submits rfl⟩
    cases hp : s.pipes[i]? with
    | none =>
      have hq : s.fan f = s.work [] (.fan { f with rest := rest }) := by
        simp only [Screen.fan, hrest, hp]
      rw [hq]
      exact hskip
    | some p =>
      cases henabled : p.enabled with
      | false =>
        have hq : s.fan f = s.work [] (.fan { f with rest := rest }) := by
          simp only [Screen.fan, hrest, hp, henabled]
          rfl
        rw [hq]
        exact hskip
      | true =>
        have hq : s.fan f = s.tryPipe { f with rest := rest } i p := by
          simp only [Screen.fan, hrest, hp, henabled, if_true]
        rw [hq]
        exact h.tryPipe hrest hp henabled

/-- The swap goes on to the pipes behind the one at hand. -/
theorem next {n : Nat} (h : Errands s (.trying a :: es) l) (hs : s.Remains s') :
    Errands s' (.between { a.fanout with submitted := n } :: es) l := by
  have hkept := (h.kept _ List.mem_cons_self).next (n := n)
  exact h.replace hs rfl (hkept.mono (k := []) hs (List.forall_mem_nil _))

/-- A flip is tried again, or it is given up because its pipe is disabled. -/
theorem retry (h : Errands s (.trying a :: es) l) :
    (s.retry a).Orderly es (marking.step s (.retry a) ++ l) := by
  show (s.retry a).Orderly es (s.takes a.fanout.swap a.pipe (s.retry a) ++ l)
  unfold Screen.retry
  dsimp only
  split
  · -- The read resolved the flip.
    have heases : s.Eases (s.setRegistry (s.registry.forget a.submission.token)) := by
      rw [Registry.forget_eq]
      exact Screen.eases_setRegistry fun _ _ hp => hp
    rw [Screen.takes_of_eases heases]
    exact ⟨h.next heases.remains, .of_submits rfl⟩
  · split
    · -- The pipe is disabled.
      have hcontinues : (s.resolve a.submission.token none (.fan a.fanout)).next.Continues
          (.fan a.fanout) := Screen.continues_resolve
      have heases : s.Eases (s.resolve a.submission.token none (.fan a.fanout)).screen :=
        Screen.eases_resolve
      have herror : (s.resolve a.submission.token none (.fan a.fanout)).next.error? = none :=
        hcontinues.error?.elim id id
      rw [Screen.takes_of_eases heases, hcontinues.submits, herror]
      exact orderly_of_continues (h.next (.refl s)) heases.remains hcontinues
    · -- All that was noted of the swap may come before another attempt.
      rename_i hnot
      have henabled : s.isEnabled a.pipe = true := by simpa using hnot
      have hkept := h.kept _ List.mem_cons_self
      rw [Screen.takes_of_eases (.refl s)]
      refine ⟨?_, ?_⟩
      · refine h.advance (k := [_]) (o := some (.trying a)) (.refl s) ?_
          (h.order.cons hkept.behind) ?_ ?_
        · exact fun m hm => by rw [List.mem_singleton.1 hm]; rfl
        · rintro id i f hf
          cases List.mem_singleton.1 hf
          exact List.mem_cons_of_mem _ (hkept.flip a rfl).2.2.2
        · rintro e' ⟨⟩
          exact ⟨rfl, hkept.note ⟨rfl, .inr ⟨_, _, _, rfl, rfl⟩⟩⟩
      · rintro b ⟨⟩
        exact ⟨henabled, List.mem_cons_self⟩

/-- A step keeps the errands, its own and those of the operations below. -/
theorem step {t : Task} (h : Errands s (t.errand?.toList ++ es) l) :
    (s.step t).Orderly es (marking.step s t ++ l) := by
  cases t with
  | fan f => exact h.fan
  | retry a => exact h.retry
  | conclude f error =>
    refine orderly_of_continues ?_ Screen.eases_release.remains Screen.continues_release
    rw [Task.errand?_report]
    exact h
  | dispatch reports next =>
    cases reports with
    | nil => exact ⟨h, .of_submits rfl⟩
    | cons report rest =>
      have h : Errands s ((Task.dispatch rest next).errand?.toList ++ es) l := h
      exact orderly_of_continues h Screen.eases_dispatch.remains Screen.continues_dispatch
  | abort events next =>
    cases events with
    | nil => exact ⟨h, .of_submits rfl⟩
    | cons event rest =>
      have h : Errands s ((Task.abort rest next).errand?.toList ++ es) l := h
      exact orderly_of_continues h Screen.eases_deliver.remains Screen.continues_deliver
  | reclaim id verdict next =>
    have h : Errands s (next.errand?.toList ++ es) l := h
    exact orderly_of_continues h Screen.eases_reclaim.remains Screen.continues_reclaim
  | say notice next => exact ⟨h, .of_submits rfl⟩
  | finish outcome => exact ⟨h, .of_submits rfl⟩

end Errands

/-- The same until the operation comes to rest. -/
theorem Progress.Orderly.proceed {es : List Errand} {l : List Mark} {p : Progress Follow}
    (h : p.Orderly es l) :
    Progress.Orderly es (marking.notes p ++ l)
      ⟨(Screen.proceed p).screen, [], .inr (Screen.proceed p).next⟩ :=
  marking.notes_induct (P := fun s f l => Progress.Orderly es l ⟨s, [], f⟩)
    (fun _ _ _ ht => ht.1.step) h

end PageFlip
