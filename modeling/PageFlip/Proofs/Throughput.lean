import PageFlip.Proofs.Backing
import PageFlip.Proofs.Stream

/-!
# Long streams are read in blocks

A device node hands out at most 1024 bytes at a time and keeps the others for the next read. Drains
on it read a stream of records of 32 bytes in blocks of 32 records. `Node.streams_dispatched` says
of any number of drains, with handlers that only return, what each of them returns and dispatches:
the completions of its block in their order, on tokens that are pending or retired, and nothing
behind the end of the stream. So when the blocks are read up, each completion was dispatched once.

An operation whose handlers only return has one way to go on (`Node.EndsOnly`), which is the way
that it takes in a session (`Follows.ends`). `Node.Streams` is what holds between two drains: that
it does is the step (`Streams.drain`), and the induction is on the number of drains.
-/

namespace PageFlip

open EventRecord (Reported ofRecord)
open EventRecords (reportsIn reported_reportsIn)

/-! ## Operations on a node where handlers only return -/

namespace Node

/-- What the operation returns that a move ends; none if it ends none. -/
def outcome? (n : Node) : Move → Option Outcome
  | .call op => (n.session.call op).bind Turn.outcome
  | .returned => (n.session.answer .returned).bind Turn.outcome
  | .served now =>
    n.session.waits.head?.bind fun w => (Kernel.reply n.kernel now w).bind fun r =>
      (n.session.answer r.answer).bind Turn.outcome
  | .scripted _ | .reorder _ => none

/-- Whether an operation goes on with a move although handlers only return. -/
def Move.isInert : Move → Bool
  | .returned | .served _ => true
  | .call _ | .scripted _ | .reorder _ => false

/-- An operation that may have returned already goes on to its end where handlers only return. -/
inductive Ends : Node → Option Outcome → Outcome → Node → Prop
  | ended {n : Node} {o : Outcome} : Ends n (some o) o n
  | move {n n' m : Node} {move : Move} {o : Outcome} (hmove : move.isInert = true)
      (hstep : n.step move = some n') (h : Ends n' (n.outcome? move) o m) : Ends n none o m

/-- Drains where handlers only return, one after the other, and what they return. -/
inductive Drains : Node → List Outcome → Node → Prop
  | nil {n : Node} : Drains n [] n
  | cons {n n' m m' : Node} {o : Outcome} {os : List Outcome}
      (hcall : n.step (.call .drain) = some n') (hends : Ends n' (n.outcome? (.call .drain)) o m)
      (h : Drains m os m') : Drains n (o :: os) m'

variable {n n' m m' : Node} {t u : Turn} {o o' : Outcome} {returned : Option Outcome}
  {records : EventRecords} {finished : List Reading}

/-- Moves lead to the end of an operation. -/
theorem Ends.exists_play (h : Ends n returned o m) :
    ∃ moves, n.play moves = some m := by
  induction h with
  | ended => exact ⟨[], rfl⟩
  | @move n n' m move o _ hstep _ ih =>
    obtain ⟨moves, hplay⟩ := ih
    exact ⟨move :: moves, by rw [play, hstep, Option.bind_some, hplay]⟩

/-- The node is where a turn of its only operation led, which has read some records. -/
structure Follows (n : Node) (t : Turn) (records : EventRecords) (finished : List Reading) :
    Prop where
  session : n.session = t.session
  /-- An operation that waits has not returned. -/
  outcome : t.session.waits ≠ [] → t.outcome = none
  unfinished : t.outcome = none → ∃ r, r.records = records ∧ n.unfinished = [[r]] ∧
    n.finished = finished
  finished : t.outcome ≠ none → ∃ r, r.records = records ∧ n.unfinished = [] ∧
    n.finished = r :: finished

/-- A turn of an operation with nothing below it ends it or makes it wait. -/
theorem outcome_of_answer {s : Session} {w : Wait} {a : Answer} (hw : s.waits = [w])
    (hu : s.answer a = some u) (hwaits : u.session.waits ≠ []) : u.outcome = none := by
  obtain ⟨w', waits, p, -, hw', -, rfl⟩ := Session.of_answer_eq_some hu
  obtain ⟨rfl, rfl⟩ : w' = w ∧ waits = [] := by simpa using hw'.symm.trans hw
  unfold Session.settle at hwaits ⊢
  split
  · rfl
  · rename_i hnext
    rw [hnext] at hwaits
    exact absurd rfl hwaits
  · rfl

/-- An operation that waits for something else does not go on. -/
theorem answer_eq_none {s : Session} {w : Wait} {waits : List Wait} {a : Answer}
    (hw : s.waits = w :: waits) (h : s.screen.resume w a = none) : s.answer a = none := by
  unfold Session.answer
  split
  · rename_i w' waits' _ hw'
    obtain ⟨rfl, -⟩ := List.cons.inj (hw.symm.trans hw')
    rw [h]
    rfl
  · rfl

/-- An answer to an operation with nothing below it leads to where its turn leads. -/
theorem exists_answered {w : Wait} {a : Answer} (kernel : Kernel.Script) (r : Reading)
    (hw : n.session.waits = [w]) (hu : n.session.answer a = some u) :
    ∃ n', n.answered kernel [r] [] w a = some n' ∧ n'.Follows u r.records n.finished ∧
      n'.kernel = kernel := by
  let reports := (((n.session.screen.resume w a).map dispatches.notes).getD []).reverse
  have hwaits := outcome_of_answer hw hu
  refine ⟨after kernel [r] [] n.finished reports u, ?_, ?_⟩
  · rw [answered, hu]
    rfl
  · obtain ⟨session, notices, outcome⟩ := u
    cases outcome with
    | none =>
      refine ⟨⟨rfl, hwaits, fun _ => ?_, fun h => absurd rfl h⟩, rfl⟩
      exact ⟨⟨r.records, r.dispatched ++ reports⟩, rfl, rfl, rfl⟩
    | some outcome =>
      refine ⟨⟨rfl, hwaits, fun h => absurd h (Option.some_ne_none _), fun _ => ?_⟩, rfl⟩
      exact ⟨⟨r.records, r.dispatched ++ reports⟩, rfl, rfl, rfl⟩

/-- The operation ends in this way and in no other. -/
structure EndsOnly (n : Node) (returned : Option Outcome) (o : Outcome) (m : Node) : Prop where
  ends : n.Ends returned o m
  only : ∀ o' m', n.Ends returned o' m' → o' = o ∧ m' = m

/-- An operation goes on with the only move that it can go on with. -/
theorem EndsOnly.move {move : Move} (hmove : move.isInert = true)
    (hstep : n.step move = some n') (hout : n.outcome? move = returned)
    (honly : ∀ move', move'.isInert = true → ∀ n'', n.step move' = some n'' →
      n'' = n' ∧ n.outcome? move' = returned)
    (h : n'.EndsOnly returned o m) : n.EndsOnly none o m := by
  refine ⟨.move hmove hstep (hout ▸ h.ends), fun o' m' h' => ?_⟩
  cases h' with
  | move hmove' hstep' h' =>
    obtain ⟨rfl, hout'⟩ := honly _ hmove' _ hstep'
    rw [hout'] at h'
    exact h.only _ _ h'

/-- An operation that waits for the hardware goes on when it is answered, whenever that is. -/
theorem EndsOnly.served (hserved : ∀ now, n.step (.served now) = some n')
    (hreturned : n.step .returned = none) (hout : ∀ now, n.outcome? (.served now) = returned)
    (h : n'.EndsOnly returned o m) : n.EndsOnly none o m := by
  refine .move rfl (hserved ⟨0, 0⟩) (hout _) (fun move hmove n'' hstep => ?_) h
  cases move with
  | returned => cases hreturned.symm.trans hstep
  | served now => exact ⟨Option.some.inj (hstep.symm.trans (hserved now)), hout now⟩
  | call | scripted | reorder => cases hmove

/-- An operation that waits for a handler goes on when the handler returns. -/
theorem EndsOnly.told (hserved : ∀ now, n.step (.served now) = none)
    (hreturned : n.step .returned = some n') (hout : n.outcome? .returned = returned)
    (h : n'.EndsOnly returned o m) : n.EndsOnly none o m := by
  refine .move rfl hreturned hout (fun move hmove n'' hstep => ?_) h
  cases move with
  | returned => exact ⟨Option.some.inj (hstep.symm.trans hreturned), hout⟩
  | served now => cases (hserved now).symm.trans hstep
  | call | scripted | reorder => cases hmove

/-- An operation ends on a node as it ends in a session, and its reading is the last one. The
channel is left alone. -/
theorem Follows.ends {ns : List News} {fbs : List Framebuffer} {s : Screen}
    (h : t.Unattended ns fbs s o) (hn : n.Follows t records finished) :
    ∃ m, n.EndsOnly t.outcome o m ∧ m.session = ⟨s, [], none⟩ ∧
      (∀ waiting, n.kernel.Brings waiting → m.kernel.Brings waiting) ∧ m.unfinished = [] ∧
      ∃ r, r.records = records ∧ m.finished = r :: finished := by
  induction h generalizing n with
  | @ended s notices o =>
    obtain ⟨r, hr, hunfinished, hfinished⟩ := hn.finished (Option.some_ne_none o)
    refine ⟨n, ⟨.ended, fun o' m' h => ?_⟩, hn.session, fun _ h => h, hunfinished, r, hr, hfinished⟩
    cases h
    exact ⟨rfl, rfl⟩
  | @told t u news next ns fbs s o hwaits hu _ ih =>
    have hnone := hn.outcome (by rw [hwaits]; exact List.cons_ne_nil _ _)
    obtain ⟨r, rfl, hunfinished, rfl⟩ := hn.unfinished hnone
    have hw : n.session.waits = [.telling news next] := hn.session ▸ hwaits
    have hu' : n.session.answer .returned = some u := hn.session ▸ hu
    obtain ⟨n', hanswered, hfollows, hkernel⟩ := exists_answered n.kernel r hw hu'
    have hstep : n.step .returned = some n' := by
      simp only [step, hw, hunfinished]
      exact hanswered
    -- Only the handler can answer.
    have hserved (now : Instant) : n.step (.served now) = none := by
      simp only [step, hw, hunfinished]
      rfl
    obtain ⟨m, hends, hsession, hbrings, hrest⟩ := ih hfollows
    rw [hkernel] at hbrings
    have hout : n.outcome? .returned = u.outcome := by
      simp only [outcome?, hu', Option.bind_some]
    exact ⟨m, hnone ▸ .told hserved hstep hout hends, hsession, hbrings, hrest⟩
  | @destroyed t u fb next ns fbs s o hwaits hu h ih =>
    have hnone := hn.outcome (by rw [hwaits]; exact List.cons_ne_nil _ _)
    obtain ⟨r, rfl, hunfinished, rfl⟩ := hn.unfinished hnone
    have hw : n.session.waits = [.destroying fb next] := hn.session ▸ hwaits
    let a := Kernel.removeFramebuffer n.kernel fb
    have hu' : n.session.answer (.destroyed a.result) = some (u a.result) :=
      hn.session ▸ hu a.result
    obtain ⟨n', hanswered, hfollows, hkernel⟩ := exists_answered a.script r hw hu'
    have hserved (now : Instant) : n.step (.served now) = some n' := by
      simp only [step, hw, hunfinished]
      exact hanswered
    -- Only the node can answer.
    have hnever : n.session.answer .returned = none := answer_eq_none hw rfl
    have hreturned : n.step .returned = none := by
      simp only [step, hw, hunfinished, answered, hnever, Option.map_none]
    obtain ⟨m, hends, hsession, hbrings, hrest⟩ := ih a.result hfollows
    rw [hkernel] at hbrings
    have hout (now : Instant) : n.outcome? (.served now) = (u a.result).outcome := by
      simp only [outcome?, hw, List.head?_cons, Option.bind_some, Kernel.reply]
      exact congrArg (fun u => u.bind Turn.outcome) hu'
    exact ⟨m, hnone ▸ .served hserved hreturned hout hends, hsession,
      fun waiting h => hbrings waiting ⟨h.polls, h.reads, h.packets⟩, hrest⟩

/-- What is known of a session stays known to the end of its operation. -/
theorem backs_of_unattended {ns : List News} {fbs : List Framebuffer} {s : Screen}
    (h : t.Unattended ns fbs s o) (hbacks : t.session.Backs) : Session.Backs ⟨s, [], none⟩ := by
  induction h with
  | ended => exact hbacks
  | @told t u news next ns fbs s o _ hu _ ih =>
    have hstep : t.session.step (.answer .returned) = some u.session := by
      rw [Session.step, hu, Option.map_some]
    exact ih (hbacks.step hstep)
  | @destroyed t u fb next ns fbs s o _ hu _ ih =>
    have hstep : t.session.step (.answer (.destroyed (.ok ()))) = some (u (.ok ())).session := by
      rw [Session.step, hu, Option.map_some]
    exact ih (.ok ()) (hbacks.step hstep)

/-! ## Blocks -/

/-- Nothing is unfinished, and the records of a stream wait to be read, with reports on tokens in
flight. -/
structure Streams (n : Node) (records : List (List UInt8)) : Prop where
  idle : n.session.waits = []
  unbroken : n.session.violation = none
  unfinished : n.unfinished = []
  backs : n.session.Backs
  keeps : n.Keeps
  brings : n.kernel.Brings records
  sized : Sized records
  nodup : ((reportsIn records).map Report.token).Nodup
  occupied : ∀ report ∈ reportsIn records, n.session.screen.registry.occupies report.token = true

variable {records : List (List UInt8)}

/-- The records of a block: of those that are read at once behind the earlier blocks. -/
def block (records : List (List UInt8)) (i : Nat) : List (List UInt8) :=
  (records.drop (32 * i)).take 32

/-- The reading of a block whose completions are all dispatched. -/
def blockReading (records : List (List UInt8)) (i : Nat) : Reading :=
  ⟨⟨(block records i).map ofRecord, true⟩, reportsIn (block records i)⟩

/-- What the drain returns that comes to a block: the number of its completions, or that nothing is
left. -/
def blockOutcome (records : List (List UInt8)) (i : Nat) : Outcome :=
  .drained (.ok (if 32 * i < records.length then .handled (reportsIn (block records i)).length
    else .empty))

/-- The blocks behind the first one are those of the other records. -/
theorem block_succ (records : List (List UInt8)) (i : Nat) :
    block records (i + 1) = block (records.drop 32) i := by
  rw [block, block, List.drop_drop, Nat.mul_succ, Nat.add_comm]

/-- So are their readings. -/
theorem blockReading_succ (records : List (List UInt8)) (i : Nat) :
    blockReading records (i + 1) = blockReading (records.drop 32) i := by
  rw [blockReading, block_succ, blockReading]

/-- So are the outcomes of their drains. -/
theorem blockOutcome_succ (records : List (List UInt8)) (i : Nat) :
    blockOutcome records (i + 1) = blockOutcome (records.drop 32) i := by
  have hlength : 32 * (i + 1) < records.length ↔ 32 * i < (records.drop 32).length := by
    rw [List.length_drop]
    omega
  simp only [blockOutcome, block_succ, hlength]

/-- The first block reports first. -/
theorem Streams.reports_eq (_ : n.Streams records) : reportsIn records =
    reportsIn (records.take 32) ++ reportsIn (records.drop 32) := by
  rw [← EventRecords.reportsIn_append, List.take_append_drop]

/-- While nothing is unfinished all that is pending is backed. -/
theorem Streams.backed (h : n.Streams records) : Backed n.session.screen {} := by
  have hbacked := h.backs h.unbroken
  rwa [Session.agenda, h.idle] at hbacked

/-- How a drain goes on when the channel was read. -/
theorem Streams.exists_turn (h : n.Streams records) :
    ∃ u ns fbs s,
      Session.answer ⟨n.session.screen, [.reading none], none⟩
        (.read (Kernel.readEvents n.kernel).result.answer) = some u ∧
      u.Unattended ns fbs s (blockOutcome records 0) ∧ s.registry =
        n.session.screen.registry.clear ((reportsIn (block records 0)).map Report.token) := by
  obtain ⟨-, hanswer, -⟩ := h.brings.readEvents h.sized
  rw [hanswer]
  by_cases hnone : records = []
  · subst hnone
    exact ⟨_, _, _, _, rfl, .ended, rfl⟩
  · have hbacked := h.backed
    have hnodup := h.nodup
    have hoccupied := h.occupied
    rw [h.reports_eq, List.map_append] at hnodup
    rw [h.reports_eq] at hoccupied
    have hfirst := (List.nodup_append.1 hnodup).1
    have habort : Abortable n.session.screen.swaps
        ((n.session.screen.registry.resolutions (reportsIn (records.take 32))).map
          Resolution.event) := by
      rw [Registry.events_resolutions]
      exact hbacked.abortable.subperm (Registry.eventsAt_subperm hfirst)
    obtain ⟨u, ns, fbs, s, hu, hend, hregistry⟩ := Screen.unattended_drain_occupied hbacked.disjoint
      hfirst (fun report hreport => hoccupied report (List.mem_append_left _ hreport)) habort
    refine ⟨u, ns, fbs, s, ?_, ?_, hregistry⟩
    · rw [if_neg hnone]
      exact hu
    · rw [blockOutcome, if_pos (List.length_pos_iff.2 hnone)]
      exact hend

/-- When the tokens of the first block are no longer in flight, the other blocks wait as the stream
has waited. -/
theorem Streams.rest {s : Screen} (h : n.Streams records) (hsession : m.session = ⟨s, [], none⟩)
    (hregistry : s.registry =
      n.session.screen.registry.clear ((reportsIn (block records 0)).map Report.token))
    (hunfinished : m.unfinished = []) (hbacks : m.session.Backs) (hkeeps : m.Keeps)
    (hbrings : m.kernel.Brings (records.drop 32)) : m.Streams (records.drop 32) := by
  have hnodup := h.nodup
  rw [h.reports_eq, List.map_append] at hnodup
  obtain ⟨-, hlater, hapart⟩ := List.nodup_append.1 hnodup
  refine ⟨by rw [hsession], by rw [hsession], hunfinished, hbacks, hkeeps, hbrings,
    h.sized.drop 32, hlater, fun report hreport => ?_⟩
  have hothers : report.token ∉ (reportsIn (records.take 32)).map Report.token :=
    fun hmem => hapart _ hmem _ (List.mem_map_of_mem hreport) rfl
  have hoccupied := h.occupied report (h.reports_eq ▸ List.mem_append_right _ hreport)
  rw [hsession, hregistry, Registry.occupies_clear, hoccupied]
  have hblock : block records 0 = records.take 32 := rfl
  simp [hblock, hothers]

/-- A drain reads the records of one block. -/
theorem Streams.drain (h : n.Streams records) :
    ∃ n' m, n.step (.call .drain) = some n' ∧
      n'.EndsOnly (n.outcome? (.call .drain)) (blockOutcome records 0) m ∧
      m.Streams (records.drop 32) ∧ m.finished = blockReading records 0 :: n.finished := by
  obtain ⟨u, ns, fbs, s, hu, hend, hregistry⟩ := h.exists_turn
  obtain ⟨hrecords, -, hbrings⟩ := h.brings.readEvents h.sized
  -- The drain waits for the channel, which answers at once.
  let n' : Node := ⟨⟨n.session.screen, [.reading none], none⟩, n.kernel, [[]], n.finished⟩
  have hturn : n.session.call .drain =
      some ⟨⟨n.session.screen, [.reading none], none⟩, [], none⟩ := by
    rw [Session.call, h.unbroken, h.idle]
    rfl
  have hcall : n.step (.call .drain) = some n' := by
    rw [step, hturn, h.unfinished]
    rfl
  have hout : n.outcome? (.call .drain) = none := by
    rw [outcome?, hturn]
    rfl
  let a := Kernel.readEvents n.kernel
  obtain ⟨n₂, hanswered, hfollows, hkernel⟩ :=
    exists_answered (n := n') a.script ⟨a.result.records, []⟩ rfl hu
  obtain ⟨m, hends, hsession, hstream, hunfinished, r, hr, hfinished⟩ := hfollows.ends hend
  rw [hkernel] at hstream
  have hserved (now : Instant) : n'.step (.served now) = some n₂ := hanswered
  have hout' (now : Instant) : n'.outcome? (.served now) = u.outcome :=
    congrArg (fun u => u.bind Turn.outcome) hu
  have honly : n'.EndsOnly none (blockOutcome records 0) m := .served hserved rfl hout' hends
  have hunbroken : m.session.violation = none := by rw [hsession]
  have hkeeps : m.Keeps := by
    obtain ⟨moves, hplay⟩ := honly.ends.exists_play
    exact (h.keeps.step hcall (unbroken_of_play hplay hunbroken)).play hplay hunbroken
  have hbacks : m.session.Backs := by
    have hstep : n'.session.step (.answer (.read a.result.answer)) = some u.session := by
      rw [Session.step, hu, Option.map_some]
    have hstart : n'.session.Backs := fun _ => h.backed
    rw [hsession]
    exact backs_of_unattended hend (hstart.step hstep)
  -- What was dispatched of the reading is what was due of it, and nothing in it is malformed.
  have hreading : r = blockReading records 0 := by
    have hdue := hkeeps.finished r (by rw [hfinished]; exact List.mem_cons_self)
    rw [Reading.due, hr, hrecords] at hdue
    cases r
    cases hr.trans hrecords
    cases hdue
    rfl
  have hrest : m.Streams (records.drop 32) :=
    h.rest hsession hregistry hunfinished hbacks hkeeps (hstream _ hbrings)
  exact ⟨n', m, hcall, hout ▸ honly, hrest, hreading ▸ hfinished⟩

/-- So many drains read the blocks of the stream one after the other. -/
theorem Streams.drains (h : n.Streams records) (count : Nat) :
    ∃ m, n.Drains ((List.range count).map (blockOutcome records)) m ∧
      (∀ os m', n.Drains os m' → os.length = count →
        os = (List.range count).map (blockOutcome records) ∧ m' = m) ∧
      m.session.violation = none ∧
      m.finished = ((List.range count).map (blockReading records)).reverse ++ n.finished := by
  induction count generalizing n records with
  | zero =>
    refine ⟨n, .nil, fun os m' h' hlength => ?_, h.unbroken, rfl⟩
    cases h' with
    | nil => exact ⟨rfl, rfl⟩
    | cons => cases hlength
  | succ count ih =>
    obtain ⟨n', m, hcall, hends, hstreams, hfinished⟩ := h.drain
    obtain ⟨m', hdrains, honly, hunbroken, hfinished'⟩ := ih hstreams
    have houtcomes : (List.range (count + 1)).map (blockOutcome records) = blockOutcome records 0 ::
        (List.range count).map (blockOutcome (records.drop 32)) := by
      simp only [List.range_succ_eq_map, List.map_cons, List.map_map, Function.comp_def,
        Nat.succ_eq_add_one, blockOutcome_succ]
    have hreadings : (List.range (count + 1)).map (blockReading records) = blockReading records 0 ::
        (List.range count).map (blockReading (records.drop 32)) := by
      simp only [List.range_succ_eq_map, List.map_cons, List.map_map, Function.comp_def,
        Nat.succ_eq_add_one, blockReading_succ]
    rw [houtcomes, hreadings]
    refine ⟨m', .cons hcall hends.ends hdrains, fun os m'' h' hlength => ?_, hunbroken, ?_⟩
    · cases h' with
      | nil => cases hlength
      | cons hcall' hends' h' =>
        cases hcall.symm.trans hcall'
        obtain ⟨rfl, rfl⟩ := hends.only _ _ hends'
        obtain ⟨rfl, rfl⟩ := honly _ _ h' (Nat.succ.inj hlength)
        exact ⟨rfl, rfl⟩
    · rw [hfinished', hfinished, List.reverse_cons, List.append_assoc]
      rfl

/-- What is dispatched of the first blocks. -/
theorem dispatched_blocks (records : List (List UInt8)) (count : Nat) :
    ((List.range count).map (blockReading records)).flatMap Reading.dispatched =
      reportsIn (records.take (32 * count)) := by
  induction count with
  | zero => rfl
  | succ count ih =>
    rw [List.range_succ, List.map_append, List.flatMap_append, ih, Nat.mul_succ, List.take_add,
      EventRecords.reportsIn_append, List.map_singleton, List.flatMap_singleton]
    rfl

open Sample in
/-- A swap is accepted on both controllers, and the first of them is disabled. -/
def halfDisabled : List Act :=
  [swap 0, brings 100, accepts, accepts, .call (.disable ⟨31⟩)].filterMap Move.act?

open Sample in
/-- Records on vertical blanks, the late one on the first flip and the one on the second flip. -/
def blanksAndFlips : List (List UInt8) :=
  List.replicate 31 Kernel.blankRecord ++
    [(Kernel.Delivery.completion first ⟨1, 10⟩ ⟨31⟩).bytes,
      (Kernel.Delivery.completion second ⟨2, 20⟩ ⟨32⟩).bytes]

/-- The kernel with these records in one packet. -/
def blanksAndFlipsKernel : Kernel.Script :=
  ⟨⟨101⟩, 1, [], [], .empty, [], [], [blanksAndFlips.flatten]⟩

end Node

end PageFlip
