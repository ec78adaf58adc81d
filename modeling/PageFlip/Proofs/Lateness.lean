import Mathlib.Data.List.Forall2
import PageFlip.Proofs.Capacity
import PageFlip.Proofs.Sparing

/-!
# Late reports make no difference

A report on a retired token is dropped. So it makes no difference to a drain whether such reports
stand among those that it reads, whatever its handlers do, as long as they only enable and disable
pipes: `Session.late_reports_make_no_difference` compares the drain of a batch with the drain of the
same batch without them. Also the reports that turn late while the drain is under way, because a
handler disables their pipe, could be left out from then on.

The two drains are compared turn by turn (`Turn.Alike`), over every row of acts that happen while
they are under way (`Turn.row`). Operations are stacked on them by handlers, and the operations on
the two stacks spare each other late reports one by one (`Pile`).
-/

namespace PageFlip

/-- Whether the operation enables or disables a pipe. -/
def Operation.toggles : Operation → Bool
  | disable _ | enable _ => true
  | _ => false

/-- What an operation asks of a handler or of the device. -/
def Wait.asks : Wait → Option (News ⊕ Framebuffer)
  | telling news _ => some (.inl news)
  | destroying fb _ => some (.inr fb)
  | _ => none

/-- A task without the reports on some tokens. -/
def Task.spare (late : List Token) : Task → Task
  | dispatch reports next =>
    dispatch (reports.filter fun report => !late.contains report.token) (next.spare late)
  | abort events next => abort events (next.spare late)
  | reclaim id v next => reclaim id v (next.spare late)
  | say notice next => say notice (next.spare late)
  | t => t

/-- An operation that will not dispatch the reports on some tokens. -/
def Wait.spare (late : List Token) : Wait → Wait
  | telling news next => telling news (next.spare late)
  | destroying fb next => destroying fb (next.spare late)
  | w => w

namespace Session

variable (s : Session) (depth : Nat)

/-- The turn that comes of an act while operations above `depth` others are unfinished: the one on
top is answered, its handler enables or disables a pipe, or the pending tokens come to be in another
order. -/
def attend : Act → Option Turn
  | .call op => if depth < s.waits.length && op.toggles && s.yields then s.call op else none
  | .answer a => if depth < s.waits.length then s.answer a else none
  | .reorder table =>
    if depth < s.waits.length then (s.reorder? table).map fun s => ⟨s, [], none⟩ else none

/-- The turns that come of a row of such acts; none if one of them is not possible. -/
def attends (s : Session) (depth : Nat) : List Act → Option (List Turn)
  | [] => some []
  | act :: acts =>
    (s.attend depth act).bind fun t => (t.session.attends depth acts).map fun ts => t :: ts

/-- The tokens of the reports that come late. -/
def late (reports : List Report) : List Token :=
  (reports.map Report.token).filter s.screen.registry.retired.contains

/-- The reports that do not come late. -/
def timely (reports : List Report) : List Report :=
  reports.filter fun report => !s.screen.registry.retired.contains report.token

/-- The operations above `depth` others. -/
def above : List Wait := s.waits.take (s.waits.length - depth)

/-- The tokens of the reports that these operations have left to dispatch and that come late. -/
def overdue : List Token :=
  (agendaOf (s.above depth)).coming.filter s.screen.registry.retired.contains

/-- The session in which these operations will not dispatch the reports on some tokens. -/
def spare (late : List Token) : Session :=
  { s with
    waits := (s.above depth).map (Wait.spare late) ++ s.waits.drop (s.waits.length - depth) }

end Session

/-- A turn and those that come of a row of acts. -/
def Turn.row (t : Turn) (depth : Nat) (acts : List Act) : Option (List Turn) :=
  (t.session.attends depth acts).map fun ts => t :: ts

/-- Two turns of drains above `base` that read `n` and `n'` reports, the second one without those on
some tokens, are the same but for what is said here. -/
structure Turn.Alike (late : List Token) (base : List Wait) (n n' : Nat) (t t' : Turn) : Prop where
  /-- Handlers are told the same and the device is asked for the same, by this operation and by
  those that its handlers have started. -/
  waits : ∃ top top', t.session.waits = top ++ base ∧ t'.session.waits = top' ++ base ∧
    top.map Wait.asks = top'.map Wait.asks
  violation : t.session.violation = t'.session.violation
  /-- The screens only differ in the retired tokens. -/
  screen : t.session.screen = t'.session.screen.withRetired t.session.screen.registry.retired
  /-- Only late tokens have left the retired ones, and only in the first drain. -/
  retired : ∀ u, t.session.screen.registry.retired.find? u =
      t'.session.screen.registry.retired.find? u ∨
    u ∈ late ∧ t.session.screen.registry.retired.find? u = none
  kept : ∀ u ∈ late, t'.session.screen.registry.retired.find? u ≠ none
  /-- The log of the first drain has more lines, all on late reports. -/
  notices : t'.notices = t.notices.filter fun notice => !notice.isLate late
  outcome : t.outcome = t'.outcome ∨ t.outcome = some (.drained (.ok (.handled n))) ∧
    t'.outcome = some (.drained (.ok (.handled n')))
  /-- When the drains have returned, all late tokens have left the retired ones. -/
  returned : t.session.waits = base → t.session.violation = none →
    t.outcome = some (.drained (.ok (.handled n))) ∧
      t'.outcome = some (.drained (.ok (.handled n'))) ∧
      ∀ u ∈ late, t.session.screen.registry.retired.find? u = none

/-! ## Stacks of operations -/

/-- Two stacks of operations above `base`, of which those on the second one are spared some reports.
There are reports on the tokens `coming` left to dispatch by the first one, and what is stacked
above returns `o` and `o'`. -/
inductive Pile (late : List Token) (base : List Wait) (n n' : Nat) :
    List Token → Outcome → Outcome → List Wait → List Wait → Prop
  | base : Pile late base n n' [] (.drained (.ok (.handled n))) (.drained (.ok (.handled n')))
      base base
  | push {coming : List Token} {o o' : Outcome} {ws ws' : List Wait} {w w' : Wait}
      (h : w.Spares late o o' w') (hrest : Pile late base n n' coming o o' ws ws') :
      Pile late base n n' (w.agenda.coming ++ coming) .done .done (w :: ws) (w' :: ws')

/-- Two sessions with such operations on their stacks. -/
structure Session.Spares (late : List Token) (base : List Wait) (n n' : Nat) (s s' : Session) :
    Prop where
  pile : ∃ coming o o', Pile late base n n' coming o o' s.waits s'.waits ∧
    ∃ all, Lags late all s.screen.registry.retired s'.screen.registry ∧ all.Nodup ∧
      (s.violation = none → all = coming)
  violation : s.violation = s'.violation
  screen : s.screen = s'.screen.withRetired s.screen.registry.retired

/-- Two turns of such sessions. -/
structure Turn.Spares (late : List Token) (base : List Wait) (n n' : Nat) (t t' : Turn) : Prop where
  session : t.session.Spares late base n n' t'.session
  notices : t'.notices = t.notices.filter fun notice => !notice.isLate late
  outcome : t.outcome = none ∧ t'.outcome = none ∧
      (t.session.violation = none → t.session.waits ≠ base) ∨
    ∃ coming o o', Pile late base n n' coming o o' t.session.waits t'.session.waits ∧
      t.outcome = some o ∧ t'.outcome = some o'

variable {late coming : List Token} {base ws ws' : List Wait} {n n' depth : Nat} {o o' : Outcome}
  {s s' : Session} {t t' : Turn}

namespace Pile

/-- Both stacks are of one height. -/
theorem length_eq (h : Pile late base n n' coming o o' ws ws') : ws.length = ws'.length := by
  induction h with
  | base => rfl
  | push _ _ ih => rw [List.length_cons, List.length_cons, ih]

/-- Both stacks stand on `base`. -/
theorem length_le (h : Pile late base n n' coming o o' ws ws') : base.length ≤ ws.length := by
  induction h with
  | base => exact Nat.le_refl _
  | push _ _ ih => exact Nat.le_succ_of_le ih

/-- The operations of both stacks ask for the same. -/
theorem asks (h : Pile late base n n' coming o o' ws ws') :
    ∃ top top', ws = top ++ base ∧ ws' = top' ++ base ∧ top.map Wait.asks = top'.map Wait.asks := by
  induction h with
  | base => exact ⟨[], [], rfl, rfl, rfl⟩
  | @push _ _ _ _ _ w w' hw _ ih =>
    obtain ⟨top, top', rfl, rfl, hasks⟩ := ih
    have hw : w.asks = w'.asks := by cases hw <;> rfl
    exact ⟨w :: top, w' :: top', rfl, rfl, by rw [List.map_cons, List.map_cons, hw, hasks]⟩

/-- Above nothing but `base` stand the drains. -/
theorem of_base (h : Pile late base n n' coming o o' ws ws') (hbase : ws = base) :
    coming = [] ∧ o = .drained (.ok (.handled n)) ∧ o' = .drained (.ok (.handled n')) := by
  cases h with
  | base => exact ⟨rfl, rfl, rfl⟩
  | push _ hrest =>
    have hlength := hrest.length_le
    rw [← hbase, List.length_cons] at hlength
    exact absurd hlength (Nat.not_succ_le_self _)

/-- All other operations return the same. -/
theorem outcome_eq (h : Pile late base n n' coming o o' ws ws') :
    o = o' ∨ o = .drained (.ok (.handled n)) ∧ o' = .drained (.ok (.handled n')) := by
  cases h with
  | base => exact .inr ⟨rfl, rfl⟩
  | push => exact .inl rfl

end Pile

/-- Turns of sessions that spare late reports look alike from the outside. -/
theorem Turn.Spares.alike (h : t.Spares late base n n' t') : t.Alike late base n n' t' := by
  obtain ⟨⟨⟨coming, o, o', hpile, all, hlags, -, hall⟩, hviolation, hscreen⟩, hnotices,
    houtcome⟩ := h
  refine ⟨hpile.asks, hviolation, hscreen, fun u => ?_, hlags.kept, hnotices, ?_,
    fun hbase hunbroken => ?_⟩
  · rw [hlags.agree]
    split_ifs with hu
    · exact .inr ⟨hu.1, rfl⟩
    · exact .inl rfl
  · rcases houtcome with ⟨hnone, hnone', -⟩ | ⟨_, o, o', hpile, ho, ho'⟩
    · exact .inl (hnone.trans hnone'.symm)
    · rw [ho, ho']
      exact hpile.outcome_eq.imp (congrArg some) fun h => ⟨congrArg some h.1, congrArg some h.2⟩
  · -- Nothing is left to dispatch when the drains have returned.
    obtain ⟨rfl, -⟩ := hpile.of_base hbase
    obtain rfl := hall hunbroken
    rcases houtcome with ⟨-, -, hwaits⟩ | ⟨_, o, o', hpile, ho, ho'⟩
    · exact absurd hbase (hwaits hunbroken)
    · obtain ⟨-, rfl, rfl⟩ := hpile.of_base hbase
      refine ⟨ho, ho', fun u hu => ?_⟩
      rw [hlags.agree, if_pos ⟨hu, List.not_mem_nil⟩]

/-- Two operations come to rest alike on stacks of others. -/
theorem Progress.Spares.settle {p p' : Progress Rest} (hp : p.Spares late o o' coming p')
    (hpile : Pile late base n n' coming o o' ws ws') :
    (Session.settle ws p).Spares late base n n' (Session.settle ws' p') := by
  obtain ⟨screen, notices, r⟩ := p
  obtain ⟨screen', notices', r'⟩ := p'
  obtain ⟨hnext, hscreen, hnotices, own, hlags, hnodup, hown⟩ := hp
  dsimp only at hnext hscreen hnotices hlags hown
  cases hnext with
  | @waiting w w' hw =>
    obtain rfl := hown fun v hv => by cases hv
    refine ⟨⟨⟨_, _, _, hpile.push hw, _, hlags, hnodup, fun _ => rfl⟩, rfl, hscreen⟩, hnotices,
      .inl ⟨rfl, rfl, fun _ hbase => ?_⟩⟩
    have hlength := hpile.length_le
    rw [← hbase] at hlength
    exact Nat.not_succ_le_self _ hlength
  | finished =>
    obtain rfl := hown fun v hv => by cases hv
    exact ⟨⟨⟨_, _, _, hpile, _, hlags, hnodup, fun _ => rfl⟩, rfl, hscreen⟩, hnotices,
      .inr ⟨_, _, _, hpile, rfl, rfl⟩⟩
  | violated v =>
    exact ⟨⟨⟨_, _, _, hpile, _, hlags, hnodup, fun h => by cases h⟩, rfl, hscreen⟩, hnotices,
      .inl ⟨rfl, rfl, fun h => by cases h⟩⟩

/-! ## Turns -/

/-- What two operations have carried out matches, with the next tasks and the same lines. -/
theorem Task.Spares.settle {next next' : Task} (h : next.Spares late o o' next')
    (hpile : Pile late base n n' coming o o' ws ws') {s : Screen} {retired : Table Token Crtc}
    (hlags : Lags late (next.agenda.coming ++ coming) retired s.registry)
    (hnodup : (next.agenda.coming ++ coming).Nodup) {notices : List Notice}
    (hnotices : ∀ notice ∈ notices, ∀ t, notice ≠ .lateEvent t) :
    (Session.settle ws (Screen.proceed ((s.withRetired retired).work notices next))).Spares late
      base n n' (Session.settle ws' (Screen.proceed (s.work notices next'))) :=
  ((h.run hlags hnodup).after fun notice hmem =>
    Notice.isLate_eq_false (hnotices notice hmem)).settle hpile

/-- What is left to do when a pipe is disabled and its events were handed out. -/
def Task.disabling (events : List Event) (crtc : Crtc) : Task :=
  .abort events
    (if 0 < events.length then .say (.flipsAborted events.length crtc) (.finish .done)
      else .finish .done)

/-- A pipe that exists is disabled, its tokens are retired, and their events are left to abort. -/
theorem Screen.disable_eq {s : Screen} {crtc : Crtc} {i : Nat} (hi : s.pipeOf? crtc = some i) :
    s.disable crtc =
      ((s.setEnabled i false).setRegistry (s.registry.retirePipe crtc).2).work []
        (.disabling (s.registry.retirePipe crtc).1 crtc) := by
  simp only [disable, hi]
  rfl

/-- Disabling a pipe leaves no report to dispatch. -/
theorem Task.coming_disabling (events : List Event) (crtc : Crtc) :
    (disabling events crtc).agenda.coming = [] := by
  unfold disabling
  split_ifs
  · rfl
  · rfl

/-- There is nothing to spare when a pipe is disabled. -/
theorem Task.spares_disabling (events : List Event) (crtc : Crtc) :
    (disabling events crtc).Spares late .done .done (disabling events crtc) := by
  unfold disabling
  split_ifs
  · exact .abort (.say (fun t ht => by cases ht) .finish)
  · exact .abort .finish

namespace Session.Spares

/-- Handlers run in both sessions or in neither. -/
theorem yields_eq (h : s.Spares late base n n' s') (hlength : base.length < s.waits.length) :
    s.yields = s'.yields := by
  obtain ⟨⟨_, _, _, hpile, -⟩, -, -⟩ := h
  unfold Session.yields
  generalize s.waits = ws, s'.waits = ws' at hpile hlength
  cases hpile with
  | base => exact absurd hlength (Nat.lt_irrefl _)
  | push hw => cases hw <;> rfl

/-- A handler enables or disables a pipe. -/
theorem call (h : s.Spares late base n n' s') (hlength : base.length < s.waits.length)
    {op : Operation} (hop : op.toggles = true) :
    Option.Rel (Turn.Spares late base n n') (s.call op) (s'.call op) := by
  obtain ⟨screen, ws, violation⟩ := s
  obtain ⟨screen', ws', violation'⟩ := s'
  obtain ⟨⟨coming, o, o', hpile, all, hlags, hnodup, hall⟩, rfl, hscreen⟩ := h
  dsimp only at hpile hlags hall hscreen hlength
  unfold Session.call
  cases violation with
  | some v => exact .none
  | none =>
    refine .some ?_
    obtain rfl := hall rfl
    generalize screen.registry.retired = retired at hscreen hlags
    obtain rfl := hscreen
    -- The handler that calls belongs to an operation, and its calls return nothing of interest.
    obtain ⟨rfl, rfl⟩ : o = .done ∧ o' = .done := by
      cases hpile with
      | base => exact absurd hlength (Nat.lt_irrefl _)
      | push => exact ⟨rfl, rfl⟩
    cases op with
    | disable crtc =>
      show (settle ws (Screen.proceed ((screen'.withRetired retired).disable crtc))).Spares _ _ _ _
        (settle ws' (Screen.proceed (screen'.disable crtc)))
      cases hi : screen'.pipeOf? crtc with
      | none =>
        have hsame : (screen'.withRetired retired).pipeOf? crtc = none := hi
        simp only [Screen.disable, hi, hsame]
        refine Progress.Spares.settle ⟨.finished, rfl, rfl, [], hlags, hnodup, fun _ => rfl⟩ hpile
      | some i =>
        rw [Screen.disable_eq hi, Screen.disable_eq (s := screen'.withRetired retired) hi]
        -- The pending tokens are the same on both sides, so the same events are handed out.
        have hcoming : (Task.disabling (screen'.registry.retirePipe crtc).1 crtc).agenda.coming ++
            all = all := congrArg (· ++ all) (Task.coming_disabling _ _)
        have hretired := hlags.retirePipe crtc
        rw [← hcoming] at hretired hnodup
        exact (Task.spares_disabling (screen'.registry.retirePipe crtc).1 crtc).settle hpile
          (s := (screen'.setEnabled i false).setRegistry (screen'.registry.retirePipe crtc).2)
          hretired hnodup fun _ hnotice => absurd hnotice List.not_mem_nil
    | enable crtc =>
      show (settle ws (Screen.proceed ((screen'.withRetired retired).enable crtc))).Spares _ _ _ _
        (settle ws' (Screen.proceed (screen'.enable crtc)))
      cases hi : screen'.pipeOf? crtc with
      | none =>
        have hsame : (screen'.withRetired retired).pipeOf? crtc = none := hi
        simp only [Screen.enable, hi, hsame]
        refine Progress.Spares.settle ⟨.finished, rfl, rfl, [], hlags, hnodup, fun _ => rfl⟩ hpile
      | some i =>
        have hsame : (screen'.withRetired retired).pipeOf? crtc = some i := hi
        simp only [Screen.enable, hi, hsame]
        refine Progress.Spares.settle ⟨.finished, rfl, rfl, [], hlags, hnodup, fun _ => rfl⟩ hpile
    | _ => cases hop

/-- A handler returns, or the device says how it gave up a framebuffer. -/
theorem answer (h : s.Spares late base n n' s') (hlength : base.length < s.waits.length)
    (a : Answer) : Option.Rel (Turn.Spares late base n n') (s.answer a) (s'.answer a) := by
  obtain ⟨screen, ws, violation⟩ := s
  obtain ⟨screen', ws', violation'⟩ := s'
  obtain ⟨⟨coming, o, o', hpile, all, hlags, hnodup, hall⟩, rfl, hscreen⟩ := h
  dsimp only at hpile hlags hall hscreen hlength
  unfold Session.answer
  cases violation with
  | some v => exact .none
  | none =>
    obtain rfl := hall rfl
    generalize screen.registry.retired = retired at hscreen hlags
    obtain rfl := hscreen
    cases hpile with
    | base => exact absurd hlength (Nat.lt_irrefl _)
    | push hw hrest =>
      cases hw with
      | telling hnext =>
        cases a with
        | returned =>
          exact .some (hnext.settle hrest hlags hnodup fun _ hnotice =>
            absurd hnotice List.not_mem_nil)
        | _ => exact .none
      | @destroying fb _ _ hnext =>
        -- A removal that fails is noticed, but the notice names no token.
        rcases a with _ | _ | _ | _ | e | _
        · exact .none
        · exact .none
        · exact .none
        · exact .none
        · refine .some (hnext.settle hrest hlags hnodup fun notice hnotice t => ?_)
          rw [List.mem_singleton.1 hnotice]
          exact Notice.noConfusion
        · exact .some (hnext.settle hrest hlags hnodup fun _ hnotice =>
            absurd hnotice List.not_mem_nil)

/-- The pending tokens are the same on both sides, so they can come to be in the same order. -/
theorem reorder (h : s.Spares late base n n' s') (hlength : base.length < s.waits.length)
    (table : Table Token (Pending Event)) :
    Option.Rel (Turn.Spares late base n n') ((s.reorder? table).map fun s => ⟨s, [], none⟩)
      ((s'.reorder? table).map fun s => ⟨s, [], none⟩) := by
  obtain ⟨screen, ws, violation⟩ := s
  obtain ⟨screen', ws', violation'⟩ := s'
  obtain ⟨⟨coming, o, o', hpile, all, hlags, hnodup, hall⟩, rfl, hscreen⟩ := h
  dsimp only at hpile hlags hall hscreen hlength
  generalize screen.registry.retired = retired at hscreen hlags
  obtain rfl := hscreen
  by_cases hallows :
      violation.isNone = true ∧ table.entries.Perm screen'.registry.pending.entries
  · have hsession : Session.reorder? ⟨screen'.withRetired retired, ws, violation⟩ table =
        some (Session.reorder ⟨screen'.withRetired retired, ws, violation⟩ table) := if_pos hallows
    have hsession' : Session.reorder? ⟨screen', ws', violation⟩ table =
        some (Session.reorder ⟨screen', ws', violation⟩ table) := if_pos hallows
    rw [hsession, hsession']
    -- A new order leaves every entry where a lookup finds it.
    have hfind := Registry.find?_reorder hallows.2
    refine .some ⟨⟨⟨coming, o, o', hpile, all, ?_, hnodup, hall⟩, rfl, rfl⟩, rfl,
      .inl ⟨rfl, rfl, fun _ hbase => ?_⟩⟩
    · exact { hlags with apart := fun t ht => (hfind t).trans (hlags.apart t ht) }
    · exact absurd (congrArg List.length hbase) (Nat.ne_of_gt hlength)
  · have hsession : Session.reorder? ⟨screen'.withRetired retired, ws, violation⟩ table = none :=
      if_neg hallows
    have hsession' : Session.reorder? ⟨screen', ws', violation⟩ table = none := if_neg hallows
    rw [hsession, hsession']
    exact .none

/-- One act. -/
theorem attend (h : s.Spares late base n n' s') (act : Act) :
    Option.Rel (Turn.Spares late base n n') (s.attend base.length act)
      (s'.attend base.length act) := by
  have hwaits : s.waits.length = s'.waits.length := by
    obtain ⟨⟨_, _, _, hpile, -⟩, -, -⟩ := h
    exact hpile.length_eq
  unfold Session.attend
  by_cases hlength : base.length < s.waits.length
  · cases act with
    | call op =>
      dsimp only
      rw [← hwaits, ← h.yields_eq hlength]
      split_ifs with hcall
      · simp only [Bool.and_eq_true] at hcall
        exact h.call hlength hcall.1.2
      · exact .none
    | answer a =>
      dsimp only
      rw [← hwaits, if_pos hlength, if_pos hlength]
      exact h.answer hlength a
    | reorder table =>
      dsimp only
      rw [← hwaits, if_pos hlength, if_pos hlength]
      exact h.reorder hlength table
  · cases act with
    | call op =>
      simp only [← hwaits, hlength, decide_false, Bool.false_and, Bool.false_eq_true, if_false]
      exact .none
    | _ =>
      simp only [← hwaits, hlength, if_false]
      exact .none

/-- A row of acts. -/
theorem attends (h : s.Spares late base n n' s') (acts : List Act) :
    Option.Rel (List.Forall₂ (Turn.Spares late base n n')) (s.attends base.length acts)
      (s'.attends base.length acts) := by
  -- Each act is possible in both sessions or in neither, and leads both on alike.
  induction acts generalizing s s' with
  | nil => exact .some .nil
  | cons act acts ih =>
    unfold Session.attends
    have hrel := h.attend act
    generalize s.attend base.length act = t, s'.attend base.length act = t' at hrel
    cases hrel with
    | none => exact .none
    | @some t t' ht =>
      have hrest := ih ht.session
      show Option.Rel _ (Option.map _ (t.session.attends base.length acts))
        (Option.map _ (t'.session.attends base.length acts))
      generalize t.session.attends base.length acts = ts,
        t'.session.attends base.length acts = ts' at hrest
      cases hrest with
      | none => exact .none
      | some hts => exact .some (.cons ht hts)

end Session.Spares

/-- A turn and those that come of a row of acts. -/
theorem Turn.Spares.row (h : t.Spares late base n n' t') (acts : List Act) :
    Option.Rel (List.Forall₂ (Turn.Spares late base n n')) (t.row base.length acts)
      (t'.row base.length acts) := by
  have hrest := h.session.attends acts
  unfold Turn.row
  generalize t.session.attends base.length acts = ts,
    t'.session.attends base.length acts = ts' at hrest
  cases hrest with
  | none => exact .none
  | some hts => exact .some (.cons h hts)

/-- Each turn of a row has its counterpart. -/
theorem Turn.Spares.exists_of_mem_row (h : t.Spares late base n n' t') {acts : List Act}
    {ts : List Turn} (hts : t.row base.length acts = some ts) {u : Turn} (hu : u ∈ ts) :
    ∃ u', u.Spares late base n n' u' := by
  have hrow := h.row acts
  rw [hts] at hrow
  generalize t'.row base.length acts = ts' at hrow
  cases hrow with
  | some hts =>
    obtain ⟨i, hi, rfl⟩ := List.mem_iff_getElem.1 hu
    exact ⟨_, List.Forall₂.get hts hi (hts.length_eq ▸ hi)⟩

/-- Rows of turns that spare late reports are alike. -/
theorem Turn.Spares.alike_row {ts ts' : Option (List Turn)}
    (h : Option.Rel (List.Forall₂ (Turn.Spares late base n n')) ts ts') :
    Option.Rel (List.Forall₂ (Turn.Alike late base n n')) ts ts' := by
  cases h with
  | none => exact .none
  | some hts => exact .some (hts.imp fun _ _ ht => ht.alike)

/-! ## Where late reports are left out -/

/-- At first all late tokens are retired, and their reports are still to come. -/
theorem Lags.start {r : Registry Event} (hdisjoint : r.Disjoint)
    (hlate : ∀ t ∈ late, t ∈ coming ∧ r.retired.find? t ≠ none) :
    Lags late coming r.retired r where
  agree := fun t => (if_neg fun ht => ht.2 (hlate t ht.1).1).symm
  kept := fun t ht => (hlate t ht).2
  apart := fun t ht => (hdisjoint t).resolve_right (hlate t ht).2

/-- More reports may be left out of a task at any time. -/
theorem Task.Spares.spare {next next' : Task} (h : next.Spares late o o' next')
    (late' : List Token) : next.Spares late' o o (next.spare late') := by
  induction h with
  | finish => exact .finish
  | say hnotice _ ih => exact .say hnotice ih
  | dispatch _ ih => exact .dispatch ih
  | abort _ ih => exact .abort ih
  | reclaim _ ih => exact .reclaim ih

/-- More reports may be left out of the operations at any time. -/
theorem Pile.spare (h : Pile late base n n' coming o o' ws ws') (late' : List Token) :
    ∃ top, ws = top ++ base ∧ coming = (Session.agendaOf top).coming ∧
      Pile late' base n n coming o o ws (top.map (Wait.spare late') ++ base) := by
  induction h with
  | base => exact ⟨[], rfl, rfl, .base⟩
  | @push coming o o' ws ws' w w' hw _ ih =>
    obtain ⟨top, rfl, rfl, hpile⟩ := ih
    have hspare : w.Spares late' o o (w.spare late') := by
      cases hw with
      | telling hnext => exact .telling (hnext.spare late')
      | destroying hnext => exact .destroying (hnext.spare late')
    refine ⟨w :: top, rfl, ?_, hpile.push hspare⟩
    exact List.map_append.symm

namespace Session

/-- In a session that is under way the overdue reports can be left out. -/
theorem Spares.spare (h : s.Spares late base n n' s') (hdisjoint : s.screen.registry.Disjoint)
    (hunbroken : s.violation = none) :
    s.Spares (s.overdue base.length) base n n (s.spare base.length (s.overdue base.length)) := by
  obtain ⟨⟨coming, o, o', hpile, all, hlags, hnodup, hall⟩, -, -⟩ := h
  obtain rfl := hall hunbroken
  obtain ⟨top, hwaits, rfl, hspare⟩ := hpile.spare (s.overdue base.length)
  have htop : s.waits.length - base.length = top.length := by
    rw [hwaits, List.length_append, Nat.add_sub_cancel]
  have habove : s.above base.length = top := by
    rw [above, htop, hwaits, List.take_left]
  have hbelow : s.waits.drop (s.waits.length - base.length) = base := by
    rw [htop, hwaits, List.drop_left]
  refine ⟨⟨_, o, o, ?_, _, Lags.start hdisjoint fun t ht => ?_, hnodup, fun _ => rfl⟩, rfl, rfl⟩
  · show Pile _ _ _ _ _ _ _ s.waits ((s.above base.length).map _ ++ s.waits.drop _)
    rw [habove, hbelow]
    exact hspare
  · unfold overdue at ht
    rw [habove] at ht
    obtain ⟨hcoming, hretired⟩ := List.mem_filter.1 ht
    refine ⟨hcoming, ?_⟩
    rwa [Table.contains_eq_isSome_find?, Option.isSome_iff_ne_none] at hretired

/-- Such a turn is one of an act. -/
theorem step_of_attend {act : Act} (h : s.attend depth act = some t) :
    s.step act = some t.session := by
  cases act with
  | call op =>
    simp only [attend, Bool.and_eq_true] at h
    split_ifs at h with hcall
    have hfair : op.isFair = true := by
      cases op with
      | disable => rfl
      | enable => rfl
      | _ => cases hcall.1.2
    simp only [step, hfair, hcall.2, Bool.and_self, if_true, h, Option.map_some]
  | answer a =>
    simp only [attend] at h
    split_ifs at h
    simp only [step, h, Option.map_some]
  | reorder table =>
    simp only [attend] at h
    split_ifs at h
    obtain ⟨u, hu, rfl⟩ := Option.map_eq_some_iff.1 h
    exact hu

/-- Acts only lead to sessions that can be reached. -/
theorem Reaches.attends {s₀ : Session} (h : s₀.Reaches s) {acts : List Act} {ts : List Turn}
    (hattends : s.attends depth acts = some ts) : ∀ t ∈ ts, s₀.Reaches t.session := by
  induction acts generalizing s ts with
  | nil =>
    obtain rfl := Option.some.inj hattends
    exact fun t ht => absurd ht List.not_mem_nil
  | cons act acts ih =>
    obtain ⟨t, ht, hrest⟩ := Option.bind_eq_some_iff.1 hattends
    obtain ⟨ts, hts, rfl⟩ := Option.map_eq_some_iff.1 hrest
    have hreaches := h.act (step_of_attend ht)
    intro u hu
    rcases List.mem_cons.1 hu with rfl | hu
    · exact hreaches
    · exact ih hreaches hts u hu

end Session

namespace Screen

variable {s : Screen} {next : Task}

/-- To abort events that were handed out changes nothing in the registry. -/
theorem registry_run_abort (hnext : ∀ s : Screen, (s.run next).screen.registry = s.registry)
    (events : List Event) : (s.run (.abort events next)).screen.registry = s.registry := by
  induction events generalizing s with
  | nil =>
    rw [run_eq]
    exact hnext s
  | cons event events ih =>
    rw [run_eq]
    show (proceed (s.deliver event none (.abort events next))).screen.registry = _
    have hregistry : (s.deliver event none (.abort events next)).screen.registry = s.registry :=
      registry_deliver
    have hcontinues : (s.deliver event none (.abort events next)).next.Continues
        (.abort events next) := continues_deliver
    generalize s.deliver event none (.abort events next) = p at hregistry hcontinues
    obtain ⟨s', notices, f⟩ := p
    cases hcontinues with
    | atOnce => exact ih.trans hregistry
    | _ => exact hregistry

/-- Until a handler runs or the operation returns, the registry stays as it is. -/
theorem registry_run_disabling (events : List Event) (crtc : Crtc) :
    (s.run (.disabling events crtc)).screen.registry = s.registry := by
  refine registry_run_abort (fun s => ?_) events
  split_ifs
  · rw [run_eq]
    show (s.run (.finish .done)).screen.registry = _
    rw [run_eq]
    rfl
  · rw [run_eq]
    rfl

end Screen

namespace Session

/-- When a pipe is disabled, all that is pending on its controller is retired before a handler
runs. -/
theorem retired_of_disable {crtc : Crtc} {i : Nat} (hi : s.screen.pipeOf? crtc = some i)
    (ht : s.attend depth (.call (.disable crtc)) = some t) {u : Token} {p : Pending Event}
    (hp : s.screen.registry.pending.find? u = some p) (hcrtc : p.crtc = crtc) :
    t.session.screen.registry.retired.find? u = some crtc := by
  simp only [attend] at ht
  split_ifs at ht
  obtain ⟨-, ht⟩ := of_call_eq_some ht
  have hregistry : t.session.screen.registry = (s.screen.registry.retirePipe crtc).2 := by
    rw [ht, screen_settle]
    show (Screen.proceed (s.screen.disable crtc)).screen.registry = _
    rw [Screen.disable_eq hi]
    exact Screen.registry_run_disabling _ _
  rw [hregistry, Registry.retired_retirePipe, if_pos ⟨p, hp, hcrtc⟩]

/-- The reports that do not come late are those on other tokens. -/
theorem timely_eq (s : Session) (reports : List Report) :
    s.timely reports = reports.filter fun report => !(s.late reports).contains report.token := by
  refine List.filter_congr fun report hreport => ?_
  have hmem : report.token ∈ s.late reports ↔
      s.screen.registry.retired.contains report.token = true := by
    rw [late, List.mem_filter, and_iff_right (List.mem_map_of_mem hreport)]
  rw [Bool.not_inj_iff, Bool.eq_iff_iff, List.contains_iff_mem, hmem]

variable {pipes : List Pipe} {slots : List Framebuffer} {config : Config} {reports : List Report}

/-- In every session, whatever clients did before, and also from handlers: a drain of a batch is the
same, turn by turn, as a drain of the batch without the reports on retired tokens, whatever the
device answers and its handlers do that only enable and disable pipes. At any time while it is under
way, the reports that come late by then could be left out from there on; all tokens come late whose
pipe a handler has disabled. -/
theorem late_reports_make_no_difference
    (hreaches : (new { Screen.new pipes config with slots := slots }).Reaches s)
    (hunbroken : s.violation = none) (hyields : s.yields = true)
    (hnodup : (reports.map Report.token).Nodup) :
    ∃ t u u', s.call .drain = some t ∧
      t.session.answer (.read (.ok (some reports))) = some u ∧
      t.session.answer (.read (.ok (some (s.timely reports)))) = some u' ∧
      (∀ acts, Option.Rel
        (List.Forall₂ (Turn.Alike (s.late reports) s.waits reports.length
          (s.timely reports).length))
        (u.row s.waits.length acts) (u'.row s.waits.length acts)) ∧
      ∀ acts turns, u.row s.waits.length acts = some turns →
        ∀ v ∈ turns, v.session.violation = none →
          (∀ acts', Option.Rel
            (List.Forall₂ (Turn.Alike (v.session.overdue s.waits.length) s.waits reports.length
              reports.length))
            (v.session.attends s.waits.length acts')
            ((v.session.spare s.waits.length (v.session.overdue s.waits.length)).attends
              s.waits.length acts')) ∧
          ∀ crtc i w, v.session.screen.pipeOf? crtc = some i →
            v.session.attend s.waits.length (.call (.disable crtc)) = some w →
            ∀ token p, v.session.screen.registry.pending.find? token = some p → p.crtc = crtc →
              w.session.screen.registry.retired.find? token = some crtc := by
  have hbacked := backed_of_reaches hreaches hunbroken
  let t : Turn := ⟨⟨s.screen, .reading none :: s.waits, none⟩, [], none⟩
  let drained (reports : List Report) : Turn :=
    settle s.waits (Screen.proceed (s.screen.work []
      (.dispatch reports (.finish (.drained (.ok (.handled reports.length)))))))
  have ht : s.call .drain = some t := by
    unfold call
    rw [hunbroken]
    rfl
  -- The two drains start on the same stack.
  have hspares : (drained reports).Spares (s.late reports) s.waits reports.length
      (s.timely reports).length (drained (s.timely reports)) := by
    have htask : (Task.dispatch reports (.finish (.drained (.ok (.handled reports.length))))).Spares
        (s.late reports) (.drained (.ok (.handled reports.length)))
        (.drained (.ok (.handled (s.timely reports).length)))
        (.dispatch (s.timely reports)
          (.finish (.drained (.ok (.handled (s.timely reports).length))))) := by
      rw [timely_eq]
      exact .dispatch .finish
    have hcoming : (Task.dispatch reports (.finish (.drained (.ok (.handled
        reports.length))))).agenda.coming ++ [] = reports.map Report.token := by
      simp [Agenda.coming, Task.agenda]
    rw [← hcoming] at hnodup
    have hlags : Lags (s.late reports) ((Task.dispatch reports (.finish (.drained (.ok (.handled
        reports.length))))).agenda.coming ++ []) s.screen.registry.retired s.screen.registry := by
      refine Lags.start hbacked.disjoint fun token htoken => ?_
      obtain ⟨hmem, hretired⟩ := List.mem_filter.1 htoken
      rw [Table.contains_eq_isSome_find?, Option.isSome_iff_ne_none] at hretired
      rw [hcoming]
      exact ⟨hmem, hretired⟩
    exact htask.settle .base hlags hnodup fun _ hnotice => absurd hnotice List.not_mem_nil
  refine ⟨t, drained reports, drained (s.timely reports), ht, rfl, rfl,
    fun acts => Turn.Spares.alike_row (hspares.row acts), fun acts turns hturns v hv hbroken =>
      ⟨fun acts' => ?_, fun crtc i w hi hw token p hp hcrtc => retired_of_disable hi hw hp hcrtc⟩⟩
  -- What is under way can be reached, and so no token is both pending and retired there.
  obtain ⟨rest, hattends, rfl⟩ := Option.map_eq_some_iff.1 hturns
  have hdrained : (new { Screen.new pipes config with slots := slots }).Reaches
      (drained reports).session := by
    have hcall : s.step (.call .drain) = some t.session := by
      simp only [step, hyields, ht]
      rfl
    exact (hreaches.act hcall).act (a := .answer (.read (.ok (some reports)))) rfl
  have hv' : (new { Screen.new pipes config with slots := slots }).Reaches v.session := by
    rcases List.mem_cons.1 hv with rfl | hv
    · exact hdrained
    · exact hdrained.attends hattends v hv
  obtain ⟨v', hspared⟩ := hspares.exists_of_mem_row hturns hv
  have hdisjoint := (backed_of_reaches hv' hbroken).disjoint
  exact Turn.Spares.alike_row ((hspared.session.spare hdisjoint hbroken).attends acts')

open Sample in
/-- A swap is accepted on both controllers, and a client waits for an event of its own on the second
one. Then the first one is disabled. -/
def lateFlip : List Act :=
  [swap 0, brings 100, accepts, accepts, .call (.enqueue ⟨32⟩ 5),
    .call (.disable ⟨31⟩)].filterMap Move.act?

open Sample in
/-- The report on the first flip comes late. The handler of the swap disables the second controller,
and so the report on the client's own event comes late, too. -/
theorem lateFlip_makes_no_difference :
    ∃ s t u u' v,
      (new { Screen.new Sample.pipes .default with slots := Sample.slots }).play lateFlip = some s ∧
      s.late [.complete first ⟨1, 10⟩, .complete second ⟨2, 20⟩, .complete third ⟨3, 30⟩] =
        [first] ∧
      s.call .drain = some t ∧
      t.session.answer (.read (.ok (some [.complete first ⟨1, 10⟩, .complete second ⟨2, 20⟩,
        .complete third ⟨3, 30⟩]))) = some u ∧
      t.session.answer (.read (.ok (some [.complete second ⟨2, 20⟩, .complete third ⟨3, 30⟩]))) =
        some u' ∧
      u.row 0 [.call (.disable ⟨32⟩)] = some [u, v] ∧ v.session.overdue 0 = [third] ∧
      (∀ acts, Option.Rel (List.Forall₂ (Turn.Alike [first] [] 3 2)) (u.row 0 acts)
        (u'.row 0 acts)) ∧
      ∀ acts, Option.Rel (List.Forall₂ (Turn.Alike [third] [] 3 3)) (v.session.attends 0 acts)
        ((v.session.spare 0 [third]).attends 0 acts) := by
  let reports : List Report :=
    [.complete first ⟨1, 10⟩, .complete second ⟨2, 20⟩, .complete third ⟨3, 30⟩]
  -- The runs themselves are computed; the rest is the theorem applied to them.
  have hruns : ∃ s, (new { Screen.new Sample.pipes .default with slots := Sample.slots }).play
      lateFlip = some s ∧ s.violation = none ∧ s.yields = true ∧ s.waits = [] ∧
      s.late reports = [first] ∧
      s.timely reports = [.complete second ⟨2, 20⟩, .complete third ⟨3, 30⟩] ∧
      ∃ t u v, s.call .drain = some t ∧ t.session.answer (.read (.ok (some reports))) = some u ∧
        u.row 0 [.call (.disable ⟨32⟩)] = some [u, v] ∧ v.session.violation = none ∧
        v.session.overdue 0 = [third] :=
    ⟨_, rfl, rfl, rfl, rfl, rfl, rfl, _, _, _, rfl, rfl, rfl, rfl, by decide⟩
  obtain ⟨s, hplay, hunbroken, hyields, hwaits, hlate, htimely, t, u, v, ht, hu, hv, hbroken,
    hoverdue⟩ := hruns
  have hnodup : (reports.map Report.token).Nodup := by decide
  obtain ⟨_, _, u', ht', hu', htimely', halike, hlater⟩ :=
    late_reports_make_no_difference (Reaches.refl.play hplay) hunbroken hyields hnodup
  cases ht.symm.trans ht'
  cases hu.symm.trans hu'
  rw [htimely] at htimely'
  rw [hlate, htimely, hwaits] at halike
  rw [hwaits] at hlater
  have hsparing := (hlater _ _ hv v (List.mem_cons_of_mem _ List.mem_cons_self) hbroken).1
  simp only [List.length_nil, hoverdue] at hsparing
  exact ⟨s, t, u, u', v, hplay, hlate, ht, hu, htimely', hv, hoverdue, halike, hsparing⟩

end Session

end PageFlip
