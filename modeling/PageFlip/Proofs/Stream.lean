import PageFlip.Proofs.Clearing
import PageFlip.Proofs.Framing
import PageFlip.Proofs.Reordering

/-!
# Streams of records and the size of a read

A read takes at most 1024 bytes. In a stream of records of 32 bytes (`Sized`) the boundary of a read
is one between two records, so what is read at once are the first 32 records and nothing of the next
one. `Kernel.Script.Brings.readEvents` says so of a kernel whose polls and reads succeed and behind
whose node a stream waits.
-/

namespace PageFlip

open EventRecord (IsRecord Reported ofRecord)

/-! ## Bytes -/

namespace EventRecords

/-- The completions that well-formed records report. -/
def reportsIn (records : List (List UInt8)) : List Report :=
  reports ⟨records.map ofRecord, true⟩

variable {records more : List (List UInt8)}

/-- Records report one after the other. -/
theorem reportsIn_append (records more : List (List UInt8)) :
    reportsIn (records ++ more) = reportsIn records ++ reportsIn more := by
  simp only [reportsIn, reports, List.map_append, List.filterMap_append]

/-- What is reported of records is what they report. -/
theorem reported_reportsIn (records : List (List UInt8)) :
    Reported records (reportsIn records) := by
  induction records with
  | nil => exact .nil
  | cons record records ih =>
    have hcons := ih.cons record
    unfold reportsIn reports at hcons ⊢
    rw [List.map_cons, List.filterMap_cons]
    cases hmeaning : (ofRecord record).meaning with
    | _ =>
      rw [hmeaning] at hcons
      exact hcons

/-- Well-formed records are read to their end. -/
theorem ofBytes_flatten (h : ∀ record ∈ records, IsRecord record) :
    ofBytes records.flatten = ⟨records.map ofRecord, true⟩ := by
  induction records with
  | nil =>
    rw [List.flatten_nil, ofBytes, if_pos rfl]
    rfl
  | cons record records ih =>
    obtain ⟨hrecord, hrest⟩ := List.forall_mem_cons.1 h
    rw [List.flatten_cons, ofBytes_of_some (EventRecord.ofBytes?_append hrecord _), ih hrest]
    rfl

end EventRecords

open EventRecords (reportsIn reported_reportsIn)

/-- The records are 32 bytes long and say so. -/
def Sized (records : List (List UInt8)) : Prop :=
  ∀ record ∈ records, record.length = 32 ∧ LittleEndian.field record 4 4 = 32

namespace Sized

variable {records : List (List UInt8)}

/-- Records of this size are records. -/
theorem isRecord (h : Sized records) : ∀ record ∈ records, IsRecord record := by
  intro record hrecord
  obtain ⟨hlength, hfield⟩ := h record hrecord
  exact ⟨by omega, hfield.trans hlength.symm, fun _ => by omega⟩

/-- So are the first of them. -/
theorem take (h : Sized records) (n : Nat) : Sized (records.take n) :=
  fun record hrecord => h record (List.mem_of_mem_take hrecord)

/-- So are the others. -/
theorem drop (h : Sized records) (n : Nat) : Sized (records.drop n) :=
  fun record hrecord => h record (List.mem_of_mem_drop hrecord)

/-- All together have 32 bytes for each. -/
theorem length_flatten (h : Sized records) : records.flatten.length = 32 * records.length := by
  induction records with
  | nil => rfl
  | cons record records ih =>
    obtain ⟨⟨hlength, -⟩, hrest⟩ := List.forall_mem_cons.1 h
    rw [List.flatten_cons, List.length_append, ih hrest, hlength, List.length_cons]
    omega

/-- The bytes in front of a boundary between records, and those behind it. -/
theorem split_flatten (h : Sized records) (n : Nat) :
    records.flatten.take (32 * n) = (records.take n).flatten ∧
      records.flatten.drop (32 * n) = (records.drop n).flatten := by
  have hsplit : records.flatten = (records.take n).flatten ++ (records.drop n).flatten := by
    rw [← List.flatten_append, List.take_append_drop]
  have hlength := (h.take n).length_flatten
  rw [List.length_take] at hlength
  by_cases hn : n ≤ records.length
  · have hfront : (records.take n).flatten.length = 32 * n := by omega
    rw [hsplit]
    exact ⟨List.take_left' hfront, List.drop_left' hfront⟩
  · have hall : records.flatten.length ≤ 32 * n := by
      rw [h.length_flatten]
      omega
    rw [List.take_of_length_le hall, List.drop_of_length_le hall,
      List.take_of_length_le (by omega), List.drop_of_length_le (by omega)]
    exact ⟨rfl, rfl⟩

end Sized

/-! ## The channel -/

namespace Kernel

/-- The packets of a stream: one with all its bytes, until they are read. -/
def packetsOf (records : List (List UInt8)) : List (List UInt8) :=
  if records = [] then [] else [records.flatten]

/-- Polls and reads succeed, and the records wait to be read. -/
structure Script.Brings (k : Script) (records : List (List UInt8)) : Prop where
  polls : ∀ p ∈ k.polls, p = .natural
  reads : ∀ r ∈ k.reads, r = none
  packets : k.packets = packetsOf records

variable {k k' : Script} {records : List (List UInt8)}

/-- A read takes 32 records of a stream at most, and the others wait. -/
theorem takePacket_packetsOf (h : Sized records) :
    takePacket (packetsOf records) =
      ((records.take 32).flatten, packetsOf (records.drop 32)) := by
  cases hrecords : records with
  | nil => rfl
  | cons record rest =>
    rw [← hrecords]
    obtain ⟨htake, hdrop⟩ := h.split_flatten 32
    have hne : records ≠ [] := by
      rw [hrecords]
      exact List.cons_ne_nil _ _
    have hlength := h.length_flatten
    have hsize : readSize = 32 * 32 := rfl
    rw [packetsOf, if_neg hne, takePacket, hsize, htake, hdrop, packetsOf]
    by_cases hlast : records.length ≤ 32
    · rw [if_pos (by omega), if_pos (List.drop_of_length_le hlast)]
    · rw [if_neg (by omega), if_neg (by rw [List.drop_eq_nil_iff]; exact hlast)]

/-- A poll that cannot fail finds the channel readable if a packet waits. -/
theorem pollReadable_natural (h : ∀ p ∈ k.polls, p = .natural) :
    (pollReadable k).result = .ok (!k.packets.isEmpty) ∧
      ∃ polls, (pollReadable k).script = { k with polls := polls } ∧ ∀ p ∈ polls, p = .natural := by
  cases hpolls : k.polls with
  | nil =>
    refine ⟨?_, [], ?_, fun _ => nofun⟩ <;> simp [pollReadable, hpolls, settlePoll]
  | cons p polls =>
    rw [hpolls] at h
    obtain ⟨rfl, hrest⟩ := List.forall_mem_cons.1 h
    refine ⟨?_, polls, ?_, hrest⟩ <;> simp [pollReadable, hpolls, settlePoll]

/-- A read that cannot fail takes bytes from the first packet. -/
theorem read_natural (h : ∀ r ∈ k.reads, r = none) :
    (read k).result = .ok (takePacket k.packets).1 ∧
      ∃ reads, (read k).script = { k with reads := reads, packets := (takePacket k.packets).2 } ∧
        ∀ r ∈ reads, r = none := by
  cases hreads : k.reads with
  | nil =>
    refine ⟨?_, [], ?_, fun _ => nofun⟩ <;> simp [read, hreads]
  | cons r reads =>
    rw [hreads] at h
    obtain ⟨rfl, hrest⟩ := List.forall_mem_cons.1 h
    refine ⟨?_, reads, ?_, hrest⟩ <;> simp [read, hreads]

/-- A look at the channel reads the records of a block, or finds that nothing is ready. -/
theorem Script.Brings.readEvents (h : k.Brings records) (hsized : Sized records) :
    (readEvents k).result.records = ⟨(records.take 32).map ofRecord, true⟩ ∧
      (readEvents k).result.answer =
        .ok (if records = [] then none else some (reportsIn (records.take 32))) ∧
      (readEvents k).script.Brings (records.drop 32) := by
  obtain ⟨hpoll, polls, hpolled, hpolls⟩ := pollReadable_natural h.polls
  rw [h.packets] at hpoll
  by_cases hnone : records = []
  · subst hnone
    simp only [Kernel.readEvents, hpoll, hpolled]
    exact ⟨rfl, rfl, ⟨hpolls, h.reads, h.packets⟩⟩
  · obtain ⟨hread, reads, hscript, hreads⟩ := read_natural (k := { k with polls := polls }) h.reads
    have htaken : takePacket k.packets =
        ((records.take 32).flatten, packetsOf (records.drop 32)) := by
      rw [h.packets]
      exact takePacket_packetsOf hsized
    rw [htaken] at hread hscript
    have hbytes := EventRecords.ofBytes_flatten (hsized.take 32).isRecord
    have hwaiting : (!(packetsOf records).isEmpty) = true := by
      rw [packetsOf, if_neg hnone]
      rfl
    rw [hwaiting] at hpoll
    simp only [Kernel.readEvents, hpoll, hpolled, hread, hscript, Events.ofBytes, hbytes,
      if_neg hnone]
    exact ⟨trivial, rfl, ⟨hpolls, hreads, rfl⟩⟩

end Kernel

end PageFlip
