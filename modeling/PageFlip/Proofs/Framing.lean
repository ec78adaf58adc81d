import Mathlib.Algebra.Group.Nat.Defs
import PageFlip.Proofs.Reading

/-!
# The language of event records

Every byte string splits in exactly one way into well-formed records and a rest, which is empty or
malformed from its start on (`EventRecord.Split`). `Kernel.bytes_parsed_exactly` says of all byte
strings what is read: the completions that the records of this split report, in their order. The
bytes are accepted exactly if the rest is empty. So a list of completions that is written as
records, with any other records in between, is read back.

The grammar speaks of the bytes and of the numbers in them, and not of the reader.
-/

namespace PageFlip

namespace LittleEndian

/-- The number that was written first is read in front. -/
theorem field_front (width n : Nat) (back : List UInt8) :
    field (toBytes width n ++ back) 0 width = n % Nat.pow 256 width := by
  have htake : (toBytes width n ++ back).take width = toBytes width n :=
    List.take_left' (length_toBytes width n)
  rw [field, List.drop_zero, htake, ofBytes_toBytes]

/-- What was written behind a number is read from behind it. -/
theorem field_behind {width start : Nat} (h : width ≤ start) (n : Nat) (back : List UInt8)
    (size : Nat) :
    field (toBytes width n ++ back) start size = field back (start - width) size := by
  have hdrop : (toBytes width n ++ back).drop start = back.drop (start - width) := by
    rw [List.drop_append, length_toBytes, List.drop_eq_nil_of_le, List.nil_append]
    rwa [length_toBytes]
  rw [field, hdrop]
  rfl

/-- A number is less than its width allows. -/
theorem field_lt (bytes : List UInt8) (start width : Nat) :
    field bytes start width < Nat.pow 256 width := by
  have hlength : ((bytes.drop start).take width).length ≤ width := List.length_take_le _ _
  calc field bytes start width
      < Nat.pow 256 ((bytes.drop start).take width).length := ofBytes_lt _
    _ ≤ Nat.pow 256 width := Nat.pow_le_pow_right (by decide) hlength

/-- A number that is read from behind some bytes. -/
theorem field_drop (bytes : List UInt8) (front start width : Nat) :
    field (bytes.drop front) start width = field bytes (front + start) width := by
  rw [field, List.drop_drop]
  rfl

/-- A number in front of other bytes. -/
theorem field_append {bytes : List UInt8} {start width : Nat} (h : start + width ≤ bytes.length)
    (back : List UInt8) : field (bytes ++ back) start width = field bytes start width := by
  have hstart : start ≤ bytes.length := by omega
  have hwidth : width ≤ (bytes.drop start).length := by rw [List.length_drop]; omega
  rw [field, List.drop_append_of_le_length hstart, List.take_append_of_le_length hwidth]
  rfl

end LittleEndian

open LittleEndian (toBytes field_front field_behind field_lt field_drop field_append)

/-! ## The grammar -/

namespace EventRecord

/-- The bytes are one well-formed record: the header says how many they are, and a record on a flip
has room for all that it reports. -/
structure IsRecord (bytes : List UInt8) : Prop where
  header : 8 ≤ bytes.length
  length : LittleEndian.field bytes 4 4 = bytes.length
  flip : LittleEndian.field bytes 0 4 = flipKind → 32 ≤ bytes.length

/-- No well-formed record stands in front: the header is cut short, its length is less than its own
or more than there is, or a record on a flip is too short. -/
def Malformed (bytes : List UInt8) : Prop :=
  bytes.length < 8 ∨ LittleEndian.field bytes 4 4 < 8 ∨
    bytes.length < LittleEndian.field bytes 4 4 ∨
    (LittleEndian.field bytes 0 4 = flipKind ∧ LittleEndian.field bytes 4 4 < 32)

/-- The bytes are some well-formed records, one behind the other, up to their end or to a malformed
record. -/
structure Split (bytes : List UInt8) (records : List (List UInt8)) (rest : List UInt8) : Prop where
  bytes_eq : bytes = records.flatten ++ rest
  records : ∀ record ∈ records, IsRecord record
  rest : rest = [] ∨ Malformed rest

/-- The completions that some records report, in their order: one for each record on a flip whose
user's field is the number of a token. -/
inductive Reported : List (List UInt8) → List Report → Prop
  | nil : Reported [] []
  | completion {record : List UInt8} {records : List (List UInt8)} {reports : List Report}
      {t : Token} {stamp : Stamp} (hkind : LittleEndian.field record 0 4 = flipKind)
      (htoken : LittleEndian.field record 8 8 = t.raw.toNat)
      (hframe : LittleEndian.field record 24 4 = stamp.frame.toNat)
      (husec : LittleEndian.field record 16 4 * 1000000 + LittleEndian.field record 20 4 =
        stamp.usec.toNat)
      (h : Reported records reports) :
      Reported (record :: records) (.complete t stamp :: reports)
  | silent {record : List UInt8} {records : List (List UInt8)} {reports : List Report}
      (hsilent : LittleEndian.field record 0 4 = flipKind →
        LittleEndian.field record 8 8 = 0 ∨ 2 ^ 32 ≤ LittleEndian.field record 8 8)
      (h : Reported records reports) : Reported (record :: records) reports

variable {bytes rest rest' record : List UInt8} {records records' : List (List UInt8)}
  {reports reports' : List Report}

/-- The records say what is reported. -/
theorem Reported.unique (h : Reported records reports) (h' : Reported records reports') :
    reports = reports' := by
  -- A record that reports has a token's number in it, and a silent one has not.
  have hnever {record : List UInt8} {t : Token}
      (htoken : LittleEndian.field record 8 8 = t.raw.toNat)
      (hsilent : LittleEndian.field record 8 8 = 0 ∨ 2 ^ 32 ≤ LittleEndian.field record 8 8) :
      False := by
    have hpos : t.raw.toNat ≠ 0 := fun hzero => t.raw_ne_zero (UInt32.toNat_inj.1 hzero)
    have hlt : t.raw.toNat < 2 ^ 32 := t.raw.toNat_lt
    omega
  induction h generalizing reports' with
  | nil => cases h'; rfl
  | completion hkind htoken hframe husec _ ih =>
    cases h' with
    | completion _ htoken' hframe' husec' h' =>
      have ht := Token.ext (UInt32.toNat_inj.1 (htoken.symm.trans htoken'))
      have hframe := UInt64.toNat_inj.1 (hframe.symm.trans hframe')
      have husec := UInt64.toNat_inj.1 (husec.symm.trans husec')
      rw [ht, ih h']
      congr 2
      exact Stamp.mk.injEq .. ▸ ⟨hframe, husec⟩
    | silent hsilent => exact (hnever htoken (hsilent hkind)).elim
  | silent hsilent _ ih =>
    cases h' with
    | completion hkind htoken => exact (hnever htoken (hsilent hkind)).elim
    | silent _ h' => exact ih h'

/-- A well-formed record is not empty. -/
theorem IsRecord.ne_nil (h : IsRecord record) : record ≠ [] := by
  rintro rfl
  exact absurd h.header (by decide)

/-- No well-formed record stands where one is malformed. -/
theorem IsRecord.not_malformed (h : IsRecord record) (rest : List UInt8) :
    ¬ Malformed (record ++ rest) := by
  have hlength : LittleEndian.field (record ++ rest) 4 4 = record.length :=
    (field_append h.header rest).trans h.length
  have hkind : LittleEndian.field (record ++ rest) 0 4 = LittleEndian.field record 0 4 :=
    field_append (by have := h.header; omega) rest
  rintro (hshort | hshort | hshort | ⟨hflip, hshort⟩)
  · have := h.header
    rw [List.length_append] at hshort
    omega
  · have := h.header
    omega
  · rw [hlength, List.length_append] at hshort
    omega
  · have := h.flip (hkind ▸ hflip)
    omega

/-- What a well-formed record stands in front of is not split at once. -/
theorem Split.not_at_once (hrecord : IsRecord record) {back : List UInt8} :
    ¬ Split (record ++ back) [] rest := by
  intro h
  obtain rfl : record ++ back = rest := h.bytes_eq
  rcases h.rest with hnil | hmalformed
  · exact hrecord.ne_nil (List.append_eq_nil_iff.1 hnil).1
  · exact hrecord.not_malformed back hmalformed

/-- Behind the first record the split goes on. -/
theorem Split.tail (h : Split bytes (record :: records) rest) :
    ∃ back, bytes = record ++ back ∧ IsRecord record ∧ Split back records rest := by
  obtain ⟨hrecord, hrecords⟩ := List.forall_mem_cons.1 h.records
  refine ⟨records.flatten ++ rest, ?_, hrecord, rfl, hrecords, h.rest⟩
  rw [h.bytes_eq, List.flatten_cons, List.append_assoc]

/-- There is only one way to split some bytes. -/
theorem Split.unique (h : Split bytes records rest) (h' : Split bytes records' rest') :
    records = records' ∧ rest = rest' := by
  induction records generalizing bytes records' with
  | nil =>
    cases records' with
    | nil => exact ⟨rfl, h.bytes_eq.symm.trans h'.bytes_eq⟩
    | cons record' records' =>
      obtain ⟨back, rfl, hrecord, -⟩ := h'.tail
      exact absurd h (not_at_once hrecord)
  | cons record records ih =>
    obtain ⟨back, rfl, hrecord, hback⟩ := h.tail
    cases records' with
    | nil => exact absurd h' (not_at_once hrecord)
    | cons record' records' =>
      obtain ⟨back', hsame, hrecord', hback'⟩ := h'.tail
      -- The same header stands in front, so both first records have the same length.
      have hlength : record.length = record'.length := by
        rw [← hrecord.length, ← hrecord'.length, ← field_append hrecord.header back, hsame,
          field_append hrecord'.header back']
      obtain ⟨rfl, rfl⟩ := List.append_inj hsame hlength
      obtain ⟨rfl, rfl⟩ := ih hback hback'
      exact ⟨rfl, rfl⟩

/-- A split has no more records than there is room for headers. -/
theorem Split.length_le (h : Split bytes records rest) : 8 * records.length ≤ bytes.length := by
  rw [h.bytes_eq, List.length_append, List.length_flatten]
  have hsum : 8 * records.length ≤ (records.map List.length).sum := by
    have hrecords := h.records
    clear h
    induction records with
    | nil => exact Nat.zero_le _
    | cons record records ih =>
      obtain ⟨hrecord, hrest⟩ := List.forall_mem_cons.1 hrecords
      have := ih hrest
      have := hrecord.header
      rw [List.length_cons, List.map_cons, List.sum_cons]
      omega
  omega

/-! ## The reader -/

/-- The record that well-formed bytes hold. -/
def ofRecord (bytes : List UInt8) : EventRecord :=
  ⟨LittleEndian.field bytes 0 4, bytes.drop headerLength⟩

/-- A well-formed record is read from in front of other bytes. -/
theorem ofBytes?_append (h : IsRecord record) (back : List UInt8) :
    ofBytes? (record ++ back) = some (ofRecord record, back) := by
  have hlength : LittleEndian.field (record ++ back) 4 4 = record.length :=
    (field_append h.header back).trans h.length
  have hkind : LittleEndian.field (record ++ back) 0 4 = LittleEndian.field record 0 4 :=
    field_append (by have := h.header; omega) back
  have hcomplete : (ofRecord record).isComplete = true := by
    rw [isComplete, Bool.or_eq_true, bne_iff_ne, decide_eq_true_eq, or_iff_not_imp_left, not_not]
    intro hflip
    have hlong := h.flip hflip
    show 24 ≤ (record.drop 8).length
    rw [List.length_drop]
    omega
  have hfits : headerLength ≤ record.length ∧ record.length ≤ (record ++ back).length :=
    ⟨h.header, by rw [List.length_append]; omega⟩
  simp only [ofBytes?, hlength, hkind, List.take_left, List.drop_left]
  exact if_pos ⟨hfits.1, hfits.2, hcomplete⟩

/-- Nothing is read where a record is malformed. -/
theorem ofBytes?_of_malformed (h : Malformed bytes) : ofBytes? bytes = none := by
  refine if_neg fun ⟨hheader, hlength, hcomplete⟩ => ?_
  change 8 ≤ LittleEndian.field bytes 4 4 at hheader
  rcases h with hshort | hshort | hshort | ⟨hflip, hshort⟩
  · omega
  · omega
  · omega
  · rw [isComplete, Bool.or_eq_true, bne_iff_ne, decide_eq_true_eq] at hcomplete
    have hlong : 24 ≤ ((bytes.take (LittleEndian.field bytes 4 4)).drop 8).length :=
      hcomplete.resolve_left (not_not.2 hflip)
    rw [List.length_drop, List.length_take] at hlong
    omega

/-- Bytes are empty, malformed, or start with a well-formed record. -/
theorem malformed_or_exists (bytes : List UInt8) :
    Malformed bytes ∨ ∃ record back, bytes = record ++ back ∧ IsRecord record := by
  by_cases h : Malformed bytes
  · exact .inl h
  · simp only [Malformed, not_or, not_and, Nat.not_lt] at h
    obtain ⟨hheader, hleast, hmost, hflip⟩ := h
    let length := LittleEndian.field bytes 4 4
    have hlength : (bytes.take length).length = length := List.length_take_of_le hmost
    have hfield (start : Nat) (hstart : start + 4 ≤ 8) :
        LittleEndian.field (bytes.take length) start 4 = LittleEndian.field bytes start 4 := by
      have hroom : start + 4 ≤ (bytes.take length).length := by omega
      rw [← field_append hroom (bytes.drop length), List.take_append_drop]
    refine .inr ⟨bytes.take length, bytes.drop length, (List.take_append_drop _ _).symm, ?_⟩
    refine ⟨by omega, ?_, fun hkind => ?_⟩
    · rw [hfield 4 (by decide), hlength]
    · rw [hlength]
      exact hflip (hfield 0 (by decide) ▸ hkind)

/-- A number of a token is one from 1 on that fits 32 bits. -/
theorem ofUInt64?_field_cases {n : Nat} (hn : n < 2 ^ 64) :
    (∃ t, Token.ofUInt64? (UInt64.ofNat n) = some t ∧ n = t.raw.toNat) ∨
      (Token.ofUInt64? (UInt64.ofNat n) = none ∧ (n = 0 ∨ 2 ^ 32 ≤ n)) := by
  have hfield : (UInt64.ofNat n).toNat = n := UInt64.toNat_ofNat_of_lt' hn
  unfold Token.ofUInt64?
  split_ifs with hfits
  · have hsmall : (UInt64.ofNat n).toUInt32.toNat = n := by
      rw [← UInt32.toNat_toUInt64, hfits, hfield]
    cases htoken : Token.ofUInt32? (UInt64.ofNat n).toUInt32 with
    | none =>
      rw [Token.ofUInt32?_eq_none_iff] at htoken
      rw [htoken] at hsmall
      exact .inr ⟨rfl, .inl hsmall.symm⟩
    | some t =>
      rw [Token.ofUInt32?_eq_some_iff] at htoken
      exact .inl ⟨t, rfl, by rw [← htoken, hsmall]⟩
  · refine .inr ⟨rfl, .inr (Nat.le_of_not_lt fun hlt => hfits ?_)⟩
    refine UInt64.toNat_inj.1 ?_
    rw [UInt32.toNat_toUInt64, UInt64.toNat_toUInt32, hfield, Nat.mod_eq_of_lt hlt]

/-- The numbers of a record, read from its body. -/
theorem field_body (record : List UInt8) (start width : Nat) :
    LittleEndian.field (ofRecord record).body start width =
      LittleEndian.field record (8 + start) width :=
  field_drop record 8 start width

/-- What a record means is what is reported of it. -/
theorem Reported.cons (h : Reported records reports) (record : List UInt8) :
    Reported (record :: records) ((match (ofRecord record).meaning with
      | .report report => [report]
      | _ => []) ++ reports) := by
  -- Seconds and microseconds come to a number that fits one word.
  have htv :
      LittleEndian.field record 16 4 * 1000000 + LittleEndian.field record 20 4 < 2 ^ 64 := by
    have hsec := field_lt record 16 4
    have husec := field_lt record 20 4
    have hsize : Nat.pow 256 4 = 4294967296 := rfl
    omega
  unfold meaning
  split_ifs with hkind
  · have hlt : LittleEndian.field record 8 8 < 2 ^ 64 := field_lt record 8 8
    have hfield : (ofRecord record).field = UInt64.ofNat (LittleEndian.field record 8 8) :=
      congrArg UInt64.ofNat (field_body record 0 8)
    rw [hfield]
    rcases ofUInt64?_field_cases hlt with ⟨t, ht, htoken⟩ | ⟨hnone, hsilent⟩
    · rw [ht]
      refine .completion hkind htoken ?_ ?_ h
      · have hframe : LittleEndian.field record 24 4 < 2 ^ 64 :=
          Nat.lt_trans (field_lt record 24 4) (by decide)
        show _ = (UInt64.ofNat (LittleEndian.field (ofRecord record).body 16 4)).toNat
        rw [field_body, UInt64.toNat_ofNat_of_lt' hframe]
      · show _ = (UInt64.ofNat (LittleEndian.field (ofRecord record).body 8 4 * 1000000 +
          LittleEndian.field (ofRecord record).body 12 4)).toNat
        rw [field_body, field_body, UInt64.toNat_ofNat_of_lt' htv]
    · rw [hnone]
      exact .silent (fun _ => hsilent) h
  · exact .silent (fun hflip => absurd hflip hkind) h

end EventRecord

namespace EventRecords

open EventRecord (IsRecord Malformed Split Reported)

/-- Reading follows the split of the bytes. -/
theorem exists_split (bytes : List UInt8) :
    ∃ records rest, Split bytes records rest ∧ ((ofBytes bytes).intact = true ↔ rest = []) ∧
      Reported records (ofBytes bytes).reports := by
  fun_induction ofBytes bytes with
  | case1 => exact ⟨[], [], ⟨rfl, List.forall_mem_nil _, .inl rfl⟩, iff_of_true rfl rfl, .nil⟩
  | case2 bytes hnil hnone =>
    rcases EventRecord.malformed_or_exists bytes with hmalformed | ⟨record, back, rfl, hrecord⟩
    · exact ⟨[], bytes, ⟨rfl, List.forall_mem_nil _, .inr hmalformed⟩,
        iff_of_false Bool.false_ne_true hnil, .nil⟩
    · rw [EventRecord.ofBytes?_append hrecord] at hnone
      cases hnone
  | case3 bytes hnil r back hread hshorter tail ih =>
    rcases EventRecord.malformed_or_exists bytes with hmalformed | ⟨record, back, rfl, hrecord⟩
    · rw [EventRecord.ofBytes?_of_malformed hmalformed] at hread
      cases hread
    · rw [EventRecord.ofBytes?_append hrecord] at hread
      cases hread
      obtain ⟨records, rest, hsplit, hintact, hreported⟩ := ih
      refine ⟨record :: records, rest, ⟨?_, ?_, hsplit.rest⟩, hintact, ?_⟩
      · rw [List.flatten_cons, List.append_assoc, ← hsplit.bytes_eq]
      · exact List.forall_mem_cons.2 ⟨hrecord, hsplit.records⟩
      · -- What the front record reports is put before what the rest reports.
        have hcons := hreported.cons record
        unfold reports
        rw [List.filterMap_cons]
        cases hmeaning : (EventRecord.ofRecord record).meaning with
        | report report =>
          rw [hmeaning] at hcons
          exact hcons
        | tokenless crtc =>
          rw [hmeaning] at hcons
          exact hcons
        | other =>
          rw [hmeaning] at hcons
          exact hcons

end EventRecords

/-! ## Deliveries -/

namespace Kernel

open EventRecord (IsRecord Split Reported flipKind)

/-- What the kernel delivers: a record on a completed flip, or the bytes of some other record. -/
inductive Delivery
  | completion (token : Token) (stamp : Stamp) (crtc : Crtc)
  | other (record : List UInt8)

namespace Delivery

/-- The bytes of the record. -/
def bytes : Delivery → List UInt8
  | completion token stamp crtc =>
    (EventRecord.ofFlip token.raw.toUInt64 stamp.usec.toNat stamp.frame.toNat crtc.id.toNat).bytes
  | other record => record

/-- The count of vertical blanks and the seconds fit their 32 bits. Any other record is well-formed,
and not on a flip. -/
def Fits : Delivery → Prop
  | completion _ stamp _ => stamp.frame.toNat < 2 ^ 32 ∧ stamp.usec.toNat < 2 ^ 32 * 1000000
  | other record => IsRecord record ∧ LittleEndian.field record 0 4 ≠ flipKind

/-- The completion that is delivered. -/
def report? : Delivery → Option Report
  | completion token stamp _ => some (.complete token stamp)
  | other _ => none

/-- The record on a completion, number by number. -/
theorem bytes_completion (token : Token) (stamp : Stamp) (crtc : Crtc) :
    (completion token stamp crtc).bytes =
      toBytes 4 2 ++ (toBytes 4 32 ++ (toBytes 8 token.raw.toNat ++
        (toBytes 4 (stamp.usec.toNat / 1000000) ++ (toBytes 4 (stamp.usec.toNat % 1000000) ++
          (toBytes 4 stamp.frame.toNat ++ (toBytes 4 crtc.id.toNat ++ [])))))) := by
  have hlength : (EventRecord.ofFlip token.raw.toUInt64 stamp.usec.toNat stamp.frame.toNat
      crtc.id.toNat).length = 32 := by
    simp [EventRecord.length, EventRecord.ofFlip, EventRecord.headerLength]
  simp only [bytes, EventRecord.bytes, hlength, List.append_nil]
  simp only [EventRecord.ofFlip, EventRecord.flipKind, List.append_assoc, UInt32.toNat_toUInt64]

/-- The record on a completion is well-formed, and its completion is reported. -/
theorem reported_completion {token : Token} {stamp : Stamp} {crtc : Crtc}
    (hfits : (completion token stamp crtc).Fits) {records : List (List UInt8)}
    {reports : List Report} (h : Reported records reports) :
    IsRecord (completion token stamp crtc).bytes ∧
      Reported ((completion token stamp crtc).bytes :: records)
        (.complete token stamp :: reports) := by
  obtain ⟨hframe, husec⟩ := hfits
  have htoken : token.raw.toNat < 2 ^ 32 := token.raw.toNat_lt
  have hlength : (completion token stamp crtc).bytes.length = 32 := by
    simp only [bytes_completion, List.length_append, LittleEndian.length_toBytes, List.length_nil]
  have hword : Nat.pow 256 4 = 2 ^ 32 := rfl
  have hlong : Nat.pow 256 8 = 2 ^ 64 := rfl
  -- Each number is read where it was written.
  have hkind : LittleEndian.field (completion token stamp crtc).bytes 0 4 = 2 := by
    simp only [bytes_completion]
    exact field_front _ _ _
  have hheader : LittleEndian.field (completion token stamp crtc).bytes 4 4 = 32 := by
    simp (disch := decide) only [bytes_completion, field_behind]
    exact field_front _ _ _
  refine ⟨⟨by omega, by omega, fun _ => by omega⟩, .completion hkind ?_ ?_ ?_ h⟩
  · simp (disch := decide) only [bytes_completion, field_behind]
    rw [field_front, hlong]
    omega
  · simp (disch := decide) only [bytes_completion, field_behind]
    rw [field_front, hword]
    omega
  · simp (disch := decide) only [bytes_completion, field_behind]
    rw [field_front, field_front, hword]
    omega

/-- Of deliveries that fit, all records are well-formed and just the completions are reported. -/
theorem reported_deliveries {ds : List Delivery} (hfits : ∀ d ∈ ds, d.Fits) :
    (∀ record ∈ ds.map bytes, IsRecord record) ∧
      Reported (ds.map bytes) (ds.filterMap report?) := by
  induction ds with
  | nil => exact ⟨List.forall_mem_nil _, .nil⟩
  | cons d ds ih =>
    obtain ⟨hd, hrest⟩ := List.forall_mem_cons.1 hfits
    obtain ⟨hrecords, hreported⟩ := ih hrest
    cases d with
    | completion token stamp crtc =>
      obtain ⟨hrecord, hcons⟩ := reported_completion hd hreported
      exact ⟨List.forall_mem_cons.2 ⟨hrecord, hrecords⟩, hcons⟩
    | other record =>
      exact ⟨List.forall_mem_cons.2 ⟨hd.1, hrecords⟩,
        .silent (fun hflip => absurd hflip hd.2) hreported⟩

end Delivery

/-- What is read from all byte strings, in three statements. The bytes split in one way into records
and a rest; what is read are the completions that these records report, and the reading ends well
exactly if there is no rest. So the bytes that are accepted are those that consist of well-formed
records. And completions that are written as records, with any other records in between, are read
back. -/
theorem bytes_parsed_exactly :
    (∀ bytes, ∃ records rest, Split bytes records rest ∧
      (∀ records' rest', Split bytes records' rest' → records' = records ∧ rest' = rest) ∧
      8 * records.length ≤ bytes.length ∧
      (Events.ofBytes bytes).outcome = (if rest = [] then .ok true else .error .invalidRead) ∧
      ∀ reports, Reported records reports ↔ reports = (Events.ofBytes bytes).records.reports) ∧
    (∀ bytes, (Events.ofBytes bytes).outcome = .ok true ↔
      ∃ records : List (List UInt8),
        bytes = records.flatten ∧ ∀ record ∈ records, IsRecord record) ∧
    ∀ ds : List Delivery, (∀ d ∈ ds, d.Fits) →
      (Events.ofBytes (ds.flatMap Delivery.bytes)).outcome = .ok true ∧
        (Events.ofBytes (ds.flatMap Delivery.bytes)).records.reports =
          ds.filterMap Delivery.report? := by
  -- There is one way to split bytes, so it is the one that the parser goes.
  have hread (bytes : List UInt8) {records : List (List UInt8)} {rest : List UInt8}
      (h : Split bytes records rest) :
      (Events.ofBytes bytes).outcome = (if rest = [] then .ok true else .error .invalidRead) ∧
        Reported records (Events.ofBytes bytes).records.reports := by
    obtain ⟨records', rest', hsplit, hintact, hreported⟩ := EventRecords.exists_split bytes
    obtain ⟨rfl, rfl⟩ := h.unique hsplit
    exact ⟨if_congr hintact rfl rfl, hreported⟩
  -- Records in a row are split into themselves.
  have hwhole (records : List (List UInt8)) (h : ∀ record ∈ records, IsRecord record) :
      Split records.flatten records [] :=
    ⟨(List.append_nil _).symm, h, .inl rfl⟩
  refine ⟨fun bytes => ?_, fun bytes => ⟨fun hok => ?_, ?_⟩, fun ds hfits => ?_⟩
  · obtain ⟨records, rest, hsplit, -, -⟩ := EventRecords.exists_split bytes
    obtain ⟨houtcome, hreported⟩ := hread bytes hsplit
    refine ⟨records, rest, hsplit, fun _ _ h => h.unique hsplit, hsplit.length_le, houtcome,
      fun reports => ⟨fun h => h.unique hreported, ?_⟩⟩
    rintro rfl
    exact hreported
  · obtain ⟨records, rest, hsplit, -, -⟩ := EventRecords.exists_split bytes
    rw [(hread bytes hsplit).1] at hok
    split_ifs at hok with hrest
    subst hrest
    exact ⟨records, hsplit.bytes_eq.trans (List.append_nil _), hsplit.records⟩
  · rintro ⟨records, rfl, hrecords⟩
    exact (hread _ (hwhole records hrecords)).1
  · obtain ⟨hrecords, hreported⟩ := Delivery.reported_deliveries hfits
    obtain ⟨houtcome, hreports⟩ := hread _ (hwhole _ hrecords)
    rw [List.flatMap_def]
    exact ⟨houtcome, hreports.unique hreported⟩

/-- A record on a vertical blank. -/
def blankRecord : List UInt8 := (EventRecord.mk 1 (List.replicate 24 0)).bytes

/-- Two completions with a record of another kind between them. The second one has the largest
token and the latest stamp that can be reported. -/
def mixedDeliveries : List Delivery :=
  [.completion Sample.first ⟨1, 10⟩ ⟨31⟩, .other blankRecord,
    .completion ⟨4294967295, by decide⟩ ⟨4294967295, 4294967295999999⟩ ⟨32⟩]

/-- In a row of records of all kinds those on flips of the library are reported, in their order. -/
theorem mixedDeliveries_parsed :
    (∀ d ∈ mixedDeliveries, d.Fits) ∧
      (Events.ofBytes (mixedDeliveries.flatMap Delivery.bytes)).outcome = .ok true ∧
      (Events.ofBytes (mixedDeliveries.flatMap Delivery.bytes)).records.reports =
        [.complete Sample.first ⟨1, 10⟩,
          .complete ⟨4294967295, by decide⟩ ⟨4294967295, 4294967295999999⟩] := by
  have hblank : IsRecord blankRecord := ⟨by decide, by decide, by decide⟩
  have hfits : ∀ d ∈ mixedDeliveries, d.Fits := by
    simp only [mixedDeliveries, List.forall_mem_cons]
    exact ⟨⟨by decide, by decide⟩, ⟨hblank, by decide⟩, ⟨by decide, by decide⟩,
      List.forall_mem_nil _⟩
  exact ⟨hfits, bytes_parsed_exactly.2.2 mixedDeliveries hfits⟩

end Kernel

end PageFlip
