import AerialBridge.Indication.RecordWire

/-!
# Decoding undoes encoding for CRC, RACH and SRS

A turn over an encoded record makes one notifier call and ends where the next record starts, whatever
the lengths of the arrays inside; the walk over a message is then an induction over its records.
-/

namespace AerialBridge

open Bytes Bytes.Parser

section Turns

variable {buf rest : List UInt8} (sp : SlotPoint) {p : Nat}

/-! ## CRC -/

theorem WireCrc.header_parses (r : WireCrc) :
    Parses scfCrcPdu r.header
      ⟨r.handle, r.rnti, r.harqId, r.tbCrcStatus, UInt16.ofNat r.cbCrcStatus.length⟩ :=
  .bind (.u32 _) (.bind (.u16 _) (.bind (.u8 _) (.bind (.u8 _) (.last (.u16 _)))))

theorem WireCrc.numCb_toNat (r : WireCrc) :
    (UInt16.ofNat r.cbCrcStatus.length).toNat = r.cbCrcStatus.length := by
  rw [UInt16.toNat_ofNat', Nat.mod_eq_of_lt r.numCb_lt]

theorem crcTurn_encoded (r : WireCrc) (hb : buf.drop p = r.encode ++ rest) :
    ∃ out, crcTurn buf sp p = .ok (.next (p + r.encode.length) out) ∧
      notifications out = [.onCrcIndication sp r.deliver] := by
  have hlen := congrArg List.length hb
  rw [List.length_drop, List.length_append, r.encode_length] at hlen
  simp only [WireCrc.encode, List.append_assoc] at hb
  have hhdr := readAt_parses r.header_parses hb
  -- the measurements stand behind the status bytes
  have hb1 := drop_past hb r.header_length
  have hb2 := drop_past hb1 rfl
  have hend : readAt scfCrcEnd buf (p + 10 + r.cbCrcStatus.length) =
      .ok ⟨r.ulCqi, none, r.rssi, 0⟩ := by
    have hparse : Parses scfCrcEnd ([r.ulCqi] ++ (le16 r.timingAdvance ++ le16 r.rssi))
        ⟨r.ulCqi, none, r.rssi, 0⟩ := .bind (.u8 _) (.bind (.u16 _) (.last (.u16 _)))
    apply readAt_parses hparse
    simp only [List.append_assoc]
    exact hb2
  unfold crcTurn
  rw [if_neg (by omega), hhdr, ok_bind]
  simp only [r.numCb_toNat]
  rw [crcMeasurements, if_pos (by omega), hend, r.encode_length,
    show p + (15 + r.cbCrcStatus.length) = p + 10 + r.cbCrcStatus.length + 5 by omega]
  exact ⟨_, rfl, rfl⟩

/-! ## RACH -/

theorem WirePreamble.parses (w : WirePreamble) : Parses scfRachPreamble w.encode w.deliver :=
  .bind (.u8 _) (.bind (.u16 _) (.last (.u32 _)))

theorem rachPreambleTurn_encoded (w : WirePreamble) (hb : buf.drop p = w.encode ++ rest) :
    rachPreambleTurn buf p = .ok (.next (p + 7) [w.deliver]) := by
  have hlen := congrArg List.length hb
  rw [List.length_drop, List.length_append, w.encode_length] at hlen
  unfold rachPreambleTurn
  rw [if_neg (by omega), readAt_parses w.parses hb]
  rfl

theorem WireRach.header_parses (r : WireRach) :
    Parses scfRachPdu r.header ⟨r.symbolIndex, r.slotIndex, r.freqIndex, r.avgRssi, r.avgSnr,
      UInt8.ofNat r.preambles.length⟩ :=
  .bind (.bytes rfl) (.bind (.u8 _) (.bind (.u8 _) (.bind (.u8 _) (.bind (.u8 _) (.bind (.u8 _)
    (.last (.u8 _)))))))

theorem WireRach.numPreamble_toNat (r : WireRach) :
    (UInt8.ofNat r.preambles.length).toNat = r.preambles.length := by
  rw [UInt8.toNat_ofNat', Nat.mod_eq_of_lt r.numPreamble_lt]

theorem rachTurn_encoded (ocudu : Ocudu) (r : WireRach) (hb : buf.drop p = r.encode ++ rest) :
    ∃ out, rachTurn ocudu buf sp p = .ok (.next (p + r.encode.length) out) ∧
      notifications out = [.onRachIndication sp (r.deliver ocudu)] := by
  have hlen := congrArg List.length hb
  rw [List.length_drop, List.length_append, r.encode_length] at hlen
  rw [WireRach.encode, List.append_assoc] at hb
  have hhdr := readAt_parses r.header_parses hb
  have hb1 := drop_past hb r.header_length
  -- the inner loop walks the preambles and stops behind the last
  obtain ⟨preambles, hloop, hout⟩ := loop_encoded (f := id) rfl (fun _ _ ↦ rfl) r.preambles
    (fun w _ i rest hw ↦ ⟨_, rachPreambleTurn_encoded w hw, rfl⟩) hb1
  unfold rachTurn
  rw [if_neg (by omega), hhdr, ok_bind]
  simp only [r.numPreamble_toNat]
  rw [hloop, ok_bind, WireRach.encode, List.length_append, r.header_length, ← Nat.add_assoc]
  refine ⟨_, rfl, ?_⟩
  rw [notifications_notify, notifications_fetchAdd, notifications_nil]
  simp only [WireRach.deliver, WireRach.deliverWith, ← hout, id]

/-! ## SRS -/

theorem WireSrsReport.numRbs_toNat (s : WireSrsReport) :
    (UInt16.ofNat s.rbSnr.length).toNat = s.rbSnr.length := by
  rw [UInt16.toNat_ofNat', Nat.mod_eq_of_lt s.numRbs_lt]

theorem srsReportTurn_encoded (s : WireSrsReport) (hb : buf.drop p = s.encode ++ rest) :
    srsReportTurn buf p = .ok (.next (p + s.encode.length) []) := by
  have hlen := congrArg List.length hb
  simp only [WireSrsReport.encode, List.length_drop, List.length_append, le16_length] at hlen
  rw [WireSrsReport.encode, List.append_assoc] at hb
  unfold srsReportTurn
  rw [if_neg (by omega), readAt_parses (.u16 _) hb, ok_bind]
  simp only [s.numRbs_toNat]
  rw [if_neg (by omega), WireSrsReport.encode, List.length_append, le16_length, Nat.add_assoc]
  rfl

theorem WireSrs.header_parses (r : WireSrs) :
    Parses scfSrsIndPduStart r.header ⟨r.handle, r.rnti, r.timingAdvance, r.numSymbols,
      r.wideBandSnr, UInt8.ofNat r.reports.length⟩ :=
  .bind (.u32 _) (.bind (.u16 _) (.bind (.u16 _) (.bind (.u8 _) (.bind (.u8 _) (.last (.u8 _))))))

theorem WireSrs.numReportedSymbols_toNat (r : WireSrs) :
    (UInt8.ofNat r.reports.length).toNat = r.reports.length := by
  rw [UInt8.toNat_ofNat', Nat.mod_eq_of_lt r.numReportedSymbols_lt]

theorem loop_srsReportTurn (reports : List WireSrsReport)
    (hb : buf.drop p = reports.flatMap WireSrsReport.encode ++ rest) :
    loop (srsReportTurn buf) reports.length p =
      .ok (p + (reports.flatMap WireSrsReport.encode).length, []) := by
  induction reports generalizing p with
  | nil => rfl
  | cons s reports ih =>
      rw [List.flatMap_cons, List.append_assoc] at hb
      have hturn := srsReportTurn_encoded s hb
      have hrest := ih (drop_past hb rfl)
      rw [List.length_cons, loop_next hturn hrest, List.flatMap_cons, List.length_append,
        Nat.add_assoc]
      rfl

theorem srsTurn_encoded (ocudu : Ocudu) (r : WireSrs) (hb : buf.drop p = r.encode ++ rest) :
    ∃ out, srsTurn ocudu buf sp p = .ok (.next (p + r.encode.length) out) ∧
      notifications out = [.onSrsIndication sp (r.deliver ocudu sp.numerology)] := by
  have hlen := congrArg List.length hb
  rw [WireSrs.encode, List.length_drop, List.length_append, List.length_append,
    r.header_length] at hlen
  rw [WireSrs.encode, List.append_assoc] at hb
  have hhdr := readAt_parses r.header_parses hb
  have hloop := loop_srsReportTurn r.reports (drop_past hb r.header_length)
  unfold srsTurn
  rw [if_neg (by omega), hhdr, ok_bind]
  simp only [r.numReportedSymbols_toNat]
  rw [hloop, ok_bind, WireSrs.encode, List.length_append, r.header_length, ← Nat.add_assoc]
  exact ⟨_, rfl, rfl⟩

end Turns

/-! ## Messages -/

section Messages

variable {hdr : List UInt8} (hhdr : hdr.length = 8) (sfn slot : UInt16) (numerology : Nat)

include hhdr

theorem dispatchCrcIndication_encoded {records : List WireCrc} (hn : records.length ≤ 65535) :
    ∃ trace, dispatchCrcIndication (encodeCrcIndication hdr sfn slot records) numerology =
        .ok trace ∧
      notifications trace =
        records.map fun r ↦ .onCrcIndication ⟨numerology, sfn, slot⟩ r.deliver := by
  apply dispatchPdus_records hhdr rfl (count16_parses hn)
  intro r _ i rest hb
  exact crcTurn_encoded ⟨numerology, sfn, slot⟩ r hb

theorem dispatchRachIndication_encoded (ocudu : Ocudu) {records : List WireRach}
    (hn : records.length ≤ 255) :
    ∃ trace, dispatchRachIndication ocudu (encodeRachIndication hdr sfn slot records) numerology =
        .ok trace ∧
      notifications trace =
        records.map fun r ↦ .onRachIndication ⟨numerology, sfn, slot⟩ (r.deliver ocudu) := by
  apply dispatchPdus_records hhdr rfl (count8_parses hn)
  intro r _ i rest hb
  exact rachTurn_encoded ⟨numerology, sfn, slot⟩ ocudu r hb

theorem dispatchSrsIndication_encoded (ocudu : Ocudu) {records : List WireSrs}
    (hn : records.length ≤ 255) :
    ∃ trace, dispatchSrsIndication ocudu (encodeSrsIndication hdr sfn slot records) numerology =
        .ok trace ∧
      notifications trace = records.map fun r ↦
        .onSrsIndication ⟨numerology, sfn, slot⟩ (r.deliver ocudu numerology) := by
  apply dispatchPdus_records hhdr rfl (count8_parses hn)
  intro r _ i rest hb
  exact srsTurn_encoded ⟨numerology, sfn, slot⟩ ocudu r hb

end Messages

theorem WireRach.deliver_eq {ocudu : Ocudu} (hkeeps : ocudu.KeepsPreambles) {r : WireRach}
    (hroom : r.preambles.length ≤ ocudu.maxNumPreambles) :
    r.deliver ocudu = ⟨r.symbolIndex, r.slotIndex, r.freqIndex, r.avgRssi, r.avgSnr,
      r.preambles.map WirePreamble.deliver⟩ := by
  rw [WireRach.deliver, WireRach.deliverWith,
    hkeeps.pushPreambles_eq (by rw [List.length_map]; exact hroom)]

/-- Every CRC, RACH and SRS record makes one notifier call, in order, with all its fields but the
timing advances of CRC records and of preambles; no RACH record has more preambles than OCUDU's
container holds. -/
theorem dispatchRecords_encoded (ocudu : Ocudu) (numerology : Nat) (hdr : List UInt8)
    (hhdr : hdr.length = 8) (sfn slot : UInt16) :
    (∀ records : List WireCrc, records.length ≤ 65535 → ∃ trace,
      dispatchCrcIndication (encodeCrcIndication hdr sfn slot records) numerology = .ok trace ∧
      notifications trace =
        records.map fun r ↦ .onCrcIndication ⟨numerology, sfn, slot⟩ r.deliver) ∧
    (∀ records : List WireRach, records.length ≤ 255 → ocudu.KeepsPreambles →
      (∀ r ∈ records, r.preambles.length ≤ ocudu.maxNumPreambles) → ∃ trace,
      dispatchRachIndication ocudu (encodeRachIndication hdr sfn slot records) numerology =
        .ok trace ∧
      notifications trace = records.map fun r ↦ .onRachIndication ⟨numerology, sfn, slot⟩
        ⟨r.symbolIndex, r.slotIndex, r.freqIndex, r.avgRssi, r.avgSnr,
          r.preambles.map WirePreamble.deliver⟩) ∧
    (∀ records : List WireSrs, records.length ≤ 255 → ∃ trace,
      dispatchSrsIndication ocudu (encodeSrsIndication hdr sfn slot records) numerology =
        .ok trace ∧
      notifications trace = records.map fun r ↦
        .onSrsIndication ⟨numerology, sfn, slot⟩ (r.deliver ocudu numerology)) := by
  refine ⟨fun _ hn ↦ dispatchCrcIndication_encoded hhdr sfn slot numerology hn, ?_,
    fun _ hn ↦ dispatchSrsIndication_encoded hhdr sfn slot numerology ocudu hn⟩
  intro records hn hkeeps hroom
  obtain ⟨trace, htrace, hcalls⟩ :=
    dispatchRachIndication_encoded hhdr sfn slot numerology ocudu hn
  refine ⟨trace, htrace, hcalls.trans (List.map_congr_left fun r hr ↦ ?_)⟩
  rw [WireRach.deliver_eq hkeeps (hroom r hr)]

/-- Two records of each kind, the first with a longer inner array than the second. -/
theorem dispatchRecords_encoded_two :
    (∃ trace, dispatchCrcIndication (encodeCrcIndication (List.replicate 8 0) 5 3
        [⟨7, 0x4601, 2, 0, [0, 1, 1], by decide, 90, 31, 100⟩,
          ⟨8, 0x4602, 5, 1, [1], by decide, 80, 30, 90⟩]) 1 = .ok trace ∧
      notifications trace =
        [.onCrcIndication ⟨1, 5, 3⟩ ⟨7, 0x4601, 2, true, some ⟨90, none, 100, 0⟩⟩,
          .onCrcIndication ⟨1, 5, 3⟩ ⟨8, 0x4602, 5, false, some ⟨80, none, 90, 0⟩⟩]) ∧
    (∃ trace, dispatchRachIndication ⟨1, 4, 2, fun ta _ ↦ ta.toNat, 2, List.concat⟩
        (encodeRachIndication (List.replicate 8 0) 5 3
          [⟨500, 0, 3, 1, 9, 8, [⟨17, 31, 60⟩, ⟨18, 32, 61⟩], by decide⟩,
            ⟨500, 1, 4, 2, 7, 6, [⟨19, 33, 62⟩], by decide⟩]) 1 = .ok trace ∧
      notifications trace =
        [.onRachIndication ⟨1, 5, 3⟩ ⟨0, 3, 1, 9, 8, [⟨17, none, 60, 0⟩, ⟨18, none, 61, 0⟩]⟩,
          .onRachIndication ⟨1, 5, 3⟩ ⟨1, 4, 2, 7, 6, [⟨19, none, 62, 0⟩]⟩]) ∧
    ∃ trace, dispatchSrsIndication ⟨1, 4, 2, fun ta _ ↦ ta.toNat, 2, List.concat⟩
        (encodeSrsIndication (List.replicate 8 0) 5 3
          [⟨7, 0x4601, 31, 2, 20, [⟨[4, 5, 6], by decide⟩, ⟨[7], by decide⟩], by decide⟩,
            ⟨8, 0x4602, 30, 1, 19, [⟨[8, 9], by decide⟩], by decide⟩]) 1 = .ok trace ∧
      notifications trace = [.onSrsIndication ⟨1, 5, 3⟩ ⟨7, 0x4601, some 31⟩,
        .onSrsIndication ⟨1, 5, 3⟩ ⟨8, 0x4602, some 30⟩] := by
  have h := dispatchRecords_encoded ⟨1, 4, 2, fun ta _ ↦ ta.toNat, 2, List.concat⟩ 1
    (List.replicate 8 0) rfl 5 3
  refine ⟨h.1 [⟨7, 0x4601, 2, 0, [0, 1, 1], by decide, 90, 31, 100⟩,
      ⟨8, 0x4602, 5, 1, [1], by decide, 80, 30, 90⟩] (by decide),
    h.2.1 [⟨500, 0, 3, 1, 9, 8, [⟨17, 31, 60⟩, ⟨18, 32, 61⟩], by decide⟩,
      ⟨500, 1, 4, 2, 7, 6, [⟨19, 33, 62⟩], by decide⟩] (by decide)
      (fun xs x _ ↦ List.concat_eq_append) ?_,
    h.2.2 [⟨7, 0x4601, 31, 2, 20, [⟨[4, 5, 6], by decide⟩, ⟨[7], by decide⟩], by decide⟩,
      ⟨8, 0x4602, 30, 1, 19, [⟨[8, 9], by decide⟩], by decide⟩] (by decide)⟩
  intro r hr
  rcases List.mem_pair.mp hr with rfl | rfl <;> decide

/-- The timing advance that a CRC record or a preamble measures is lost: the record is delivered
without it. -/
theorem dispatchCrcIndication_dropsTimingAdvance :
    ¬ ∀ (ocudu : Ocudu) (numerology : Nat) (hdr : List UInt8) (sfn slot : UInt16)
      (records : List WireCrc), hdr.length = 8 → records.length ≤ 65535 → ∃ trace,
        dispatchCrcIndication (encodeCrcIndication hdr sfn slot records) numerology = .ok trace ∧
        notifications trace = records.map fun r ↦ .onCrcIndication ⟨numerology, sfn, slot⟩
          ⟨r.handle, r.rnti, r.harqId, r.tbCrcStatus == 0,
            some ⟨r.ulCqi, wireTimingAdvance ocudu numerology r.timingAdvance, r.rssi, 0⟩⟩ := by
  intro h
  obtain ⟨trace, htrace, hcarried⟩ := h
    ⟨1, 4, 2, fun ta _ ↦ ta.toNat, 2, List.concat⟩ 1 (List.replicate 8 0) 5 3
    [⟨7, 0x4601, 2, 0, [], by decide, 90, 31, 100⟩] rfl (by decide)
  obtain ⟨trace', htrace', hnot⟩ := @dispatchCrcIndication_encoded (List.replicate 8 0) rfl 5 3 1
    [⟨7, 0x4601, 2, 0, [], by decide, 90, 31, 100⟩] (by decide)
  rw [htrace', Except.ok.injEq] at htrace
  rw [← htrace, hnot] at hcarried
  exact absurd hcarried (by decide)

end AerialBridge
