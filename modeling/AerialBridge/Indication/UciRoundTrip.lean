import AerialBridge.Indication.RecordWire

/-!
# Decoding undoes encoding for UCI

Each section is decoded from its encoding and leaves the cursor behind it, delivered or not, so the
sections of a PDU and the PDUs of a message do not disturb each other.
-/

namespace AerialBridge

open Bytes Bytes.Parser

/-! ## Payload bits -/

theorem readPayloadBit_eq {buf : List UInt8} {q i : Nat} (h : q + i / 8 + 1 ≤ buf.length) :
    readPayloadBit buf q i = .ok (streamBit .lsbFirst (buf.drop q) i) := by
  have hpeek : peek8 buf (q + i / 8) = (buf.drop q).getD (i / 8) 0 := by
    rw [peek8, List.getD_eq_getElem?_getD, List.getD_eq_getElem?_getD, List.getElem?_drop]
  rw [readPayloadBit, readAt_u8 h, ok_bind, hpeek]
  rfl

-- The loop over the bits of a payload reads back what was packed.
theorem mapM_readPayloadBit {buf rest : List UInt8} {q : Nat} (bits : List Bool)
    (h : buf.drop q = packBytes .lsbFirst (bitAt bits) ((bits.length + 7) / 8) ++ rest) :
    (List.range bits.length).mapM (readPayloadBit buf q) = .ok bits := by
  have hlen := congrArg List.length h
  rw [List.length_drop, List.length_append, packBytes_length] at hlen
  -- the encoding is in the buffer, so each bit's byte is
  have hread : ∀ i ∈ List.range bits.length,
      readPayloadBit buf q i = .ok (streamBit .lsbFirst (buf.drop q) i) := by
    intro i hi
    rw [List.mem_range] at hi
    exact readPayloadBit_eq (by omega)
  rw [mapM_ok hread, h]
  exact congrArg Except.ok (streamBits_packBytes .lsbFirst bits rest (by omega))

section Sections

variable {ocudu : Ocudu} {fr : UciFrame} {q : Nat} {rest : List UInt8}

/-- A payload is decoded if it is within the limit and dropped with a log line otherwise. -/
theorem decodePayloadBits_encoded (rnti : UInt16) (name : String) (max : Nat) (bits : List Bool)
    (h : fr.buf.drop q = packBytes .lsbFirst (bitAt bits) ((bits.length + 7) / 8) ++ rest) :
    ∃ lines, decodePayloadBits fr rnti name max q bits.length =
        .ok (if bits.length ≤ max then some bits else none, lines) ∧ notifications lines = [] := by
  unfold decodePayloadBits
  by_cases hmax : max < bits.length
  · rw [if_pos hmax, if_neg (not_le.mpr hmax)]
    exact ⟨_, rfl, rfl⟩
  · rw [if_neg hmax, if_pos (not_lt.mp hmax), mapM_readPayloadBit bits h]
    exact ⟨[], rfl, rfl⟩

theorem logMalformedUciBytes_line (reason : String) (hq : q ≤ fr.pEnd) :
    ∃ line, logMalformedUciBytes fr reason q = .ok line ∧ notifications [line] = [] := by
  have hin := fr.pEnd_le
  obtain ⟨raw, hraw⟩ := @readAt_fixed _ _ _ (.bytes (min (fr.pEnd - q) 16)) fr.buf q (by omega)
  rw [logMalformedUciBytes, hraw, ok_bind]
  exact ⟨_, rfl, rfl⟩

theorem logDropped_lines {α : Type} (reason : Option String) (hq : q ≤ fr.pEnd)
    (decoded : Option α) :
    ∃ lines, logDropped fr reason q decoded = .ok lines ∧ notifications lines = [] := by
  unfold logDropped
  split
  · next reason =>
    obtain ⟨line, hline, hnot⟩ := logMalformedUciBytes_line reason hq
    rw [hline]
    exact ⟨[line], rfl, hnot⟩
  · exact ⟨[], rfl, rfl⟩

/-- The payload of a section: its bits if they are within the limit, and nothing but log lines. -/
theorem payload_encoded (rnti : UInt16) (name : String) (reason : Option String) (max : Nat)
    (b : UciBits) {start : Nat} (hstart : start ≤ fr.pEnd)
    (h : fr.buf.drop q = packBytes .lsbFirst (bitAt b.bits) ((b.bits.length + 7) / 8) ++ rest) :
    ∃ lines malformed, decodePayloadBits fr rnti name max q b.bits.length =
        .ok (b.deliver max, lines) ∧
      logDropped fr reason start (b.deliver max) = .ok malformed ∧
      notifications (lines ++ malformed) = [] := by
  obtain ⟨lines, hdec, hlines⟩ := decodePayloadBits_encoded rnti name max b.bits h
  obtain ⟨malformed, hlog, hmalformed⟩ := logDropped_lines reason hstart (b.deliver max)
  refine ⟨lines, malformed, hdec, hlog, ?_⟩
  rw [notifications_append, hlines, hmalformed]
  rfl

theorem uciPart_encoded (rnti : UInt16) (name : String) (reason : Option String)
    (s : Option UciSection) (hb : fr.buf.drop q = encodeOpt UciSection.encode s ++ rest)
    (hend : q + (encodeOpt UciSection.encode s).length ≤ fr.pEnd) :
    ∃ lines, uciPart ocudu fr rnti s.isSome name reason q =
        .ok (q + (encodeOpt UciSection.encode s).length,
          s.bind fun s ↦ s.deliver ocudu.maxNofPayloadBits, lines) ∧ notifications lines = [] := by
  unfold uciPart
  cases s with
  | none => exact ⟨[], if_neg (by simp), rfl⟩
  | some s =>
      have hlt := UInt16.toNat_ofNat_of_lt' s.length_lt
      simp only [encodeOpt, UciSection.encode_length] at hb hend ⊢
      have hhdr : readAt scfUciPart fr.buf q =
          .ok ⟨s.code, UInt16.ofNat s.bits.length⟩ := by
        simp [readAt, hb, UciSection.encode, UciBits.encode, scfUciPart]
      have hbits : fr.buf.drop (q + 3) =
          packBytes .lsbFirst (bitAt s.bits) ((s.bits.length + 7) / 8) ++ rest := by
        refine @drop_past fr.buf ([s.code] ++ le16 (UInt16.ofNat s.bits.length)) _ q 3 ?_ rfl
        rw [hb, UciSection.encode, UciBits.encode]
        simp only [List.append_assoc]
      obtain ⟨lines, malformed, hdec, hlog, hlines⟩ := payload_encoded rnti name reason
        ocudu.maxNofPayloadBits s.toUciBits (by omega : q ≤ fr.pEnd) hbits
      refine ⟨lines ++ malformed, ?_, hlines⟩
      rw [if_pos ⟨rfl, by omega⟩, hhdr, ok_bind]
      simp only [hlt]
      rw [if_pos (by omega), hdec, ok_bind]
      simp only
      -- the announced size moves the cursor whether or not the bits are delivered
      rw [hlog, ok_bind, decodeDetectionStatus_hasCode s.hasCode, Nat.add_assoc]
      rfl

theorem uciSrF234_encoded (rnti : UInt16) (b : Option UciBits)
    (hb : fr.buf.drop q = encodeOpt UciBits.encode b ++ rest)
    (hend : q + (encodeOpt UciBits.encode b).length ≤ fr.pEnd) :
    ∃ lines, uciSrF234 ocudu fr rnti b.isSome q =
        .ok (q + (encodeOpt UciBits.encode b).length,
          b.bind fun b ↦ b.deliver ocudu.maxSrPayloadSizeBits, lines) ∧ notifications lines = [] := by
  unfold uciSrF234
  cases b with
  | none => exact ⟨[], if_neg (by simp), rfl⟩
  | some b =>
      have hlt := UInt16.toNat_ofNat_of_lt' b.length_lt
      simp only [encodeOpt, UciBits.encode_length] at hb hend ⊢
      have hhdr : readAt u16 fr.buf q = .ok (UInt16.ofNat b.bits.length) := by
        simp [readAt, hb, UciBits.encode]
      have hbits : fr.buf.drop (q + 2) =
          packBytes .lsbFirst (bitAt b.bits) ((b.bits.length + 7) / 8) ++ rest := by
        refine @drop_past fr.buf (le16 (UInt16.ofNat b.bits.length)) _ q 2 ?_ rfl
        rw [hb, UciBits.encode, List.append_assoc]
      obtain ⟨lines, malformed, hdec, hlog, hlines⟩ := payload_encoded rnti "UCI SR"
        (some "PUCCH234-SR") ocudu.maxSrPayloadSizeBits b (by omega : q ≤ fr.pEnd) hbits
      refine ⟨lines ++ malformed, ?_, hlines⟩
      rw [if_pos ⟨rfl, by omega⟩, hhdr, ok_bind]
      simp only [hlt]
      rw [if_pos (by omega), hdec, ok_bind]
      simp only
      rw [hlog, ok_bind, Nat.add_assoc]
      rfl

theorem uciSrF01_encoded (s : Option UciSr)
    (hb : fr.buf.drop q = encodeOpt UciSr.encode s ++ rest)
    (hend : q + (encodeOpt UciSr.encode s).length ≤ fr.pEnd) :
    uciSrF01 fr s.isSome q =
      .ok (q + (encodeOpt UciSr.encode s).length, s.map fun s ↦ s.indication != 0) := by
  unfold uciSrF01
  cases s with
  | none => exact if_neg (by simp)
  | some s =>
      have hhdr : readAt scfUciSrF0F1 fr.buf q = .ok ⟨s.indication, s.confidence⟩ := by
        simp [readAt, hb, encodeOpt, UciSr.encode, scfUciSrF0F1]
      rw [if_pos ⟨rfl, hend⟩, hhdr]
      rfl

theorem uciHarqF01_encoded (rnti : UInt16) (s : Option UciHarqValues)
    (hb : fr.buf.drop q = encodeOpt UciHarqValues.encode s ++ rest)
    (hend : q + (encodeOpt UciHarqValues.encode s).length ≤ fr.pEnd) :
    ∃ lines, uciHarqF01 ocudu fr rnti s.isSome q =
        .ok (q + (encodeOpt UciHarqValues.encode s).length,
          s.bind fun s ↦ s.deliver ocudu.maxNumHarq, lines) ∧ notifications lines = [] := by
  unfold uciHarqF01
  cases s with
  | none => exact ⟨[], if_neg (by simp), rfl⟩
  | some s =>
      have hlt : (UInt8.ofNat s.values.length).toNat = s.values.length := by
        rw [UInt8.toNat_ofNat', Nat.mod_eq_of_lt s.length_lt]
      simp only [encodeOpt, UciHarqValues.encode_length] at hb hend ⊢
      have hhdr : readAt scfUciHarqF0F1 fr.buf q =
          .ok ⟨UInt8.ofNat s.values.length, s.confidence⟩ := by
        simp [readAt, hb, UciHarqValues.encode, scfUciHarqF0F1]
      have hvalues : fr.buf.drop (q + 2) = s.values ++ rest :=
        @drop_past fr.buf [UInt8.ofNat s.values.length, s.confidence] _ q 2 hb rfl
      rw [if_pos ⟨rfl, by omega⟩, hhdr, ok_bind]
      simp only [hlt]
      rw [if_pos (by omega), Nat.add_assoc]
      by_cases hmax : s.values.length ≤ ocudu.maxNumHarq
      -- within the limit the values are delivered, otherwise only log lines are left
      · have hread : readAt (bytes s.values.length) fr.buf (q + 2) = .ok s.values := by
          rw [readAt, hvalues, bytes_append s.values rest rfl]
        rw [if_pos hmax, hread, Option.bind_some, UciHarqValues.deliver, if_pos hmax]
        exact ⟨[], rfl, rfl⟩
      · obtain ⟨line, hline, hnot⟩ :=
          @logMalformedUciBytes_line fr q "PUCCH01-HARQ" (by omega)
        rw [if_neg hmax, hline, Option.bind_some, UciHarqValues.deliver, if_neg hmax]
        exact ⟨[line, _], rfl, by rw [← List.singleton_append, notifications_append, hnot]; rfl⟩

end Sections

/-! ## PDUs -/

section Pdus

variable (ocudu : Ocudu) {fr : UciFrame} {q : Nat} {rest : List UInt8}

theorem uciPusch_encoded (w : WireUciPusch) (hb : fr.buf.drop q = w.encode ++ rest)
    (hend : q + w.encode.length ≤ fr.pEnd) :
    ∃ out, uciPusch ocudu fr q = .ok out ∧ notifications out =
      [.onUciIndication fr.sp ((WireUciPdu.pusch w).deliver ocudu fr.sp.numerology)] := by
  simp only [WireUciPusch.encode, List.append_assoc] at hb
  simp only [WireUciPusch.encode, List.length_append, WireUciPusch.header_length] at hend
  have hhdr : readAt scfUciPuschPdu fr.buf q =
      .ok ⟨uciBitmap false w.harq.isSome w.csi1.isSome w.csi2.isSome, w.handle, w.rnti, w.ulCqi,
        w.timingAdvance, w.rssi⟩ := by
    simp [readAt, hb, WireUciPusch.header, scfUciPuschPdu]
  obtain ⟨-, hflag1, hflag2, hflag3⟩ :=
    uciBitmap_testBit false w.harq.isSome w.csi1.isSome w.csi2.isSome
  -- each section starts where the one before it ended
  have hb1 := drop_past hb w.header_length
  have hb2 := drop_past hb1 rfl
  have hb3 := drop_past hb2 rfl
  obtain ⟨lines1, hharq, hlines1⟩ :=
    @uciPart_encoded ocudu fr _ _ w.rnti "UCI HARQ" none w.harq hb1 (by omega)
  obtain ⟨lines2, hcsi1, hlines2⟩ :=
    @uciPart_encoded ocudu fr _ _ w.rnti "UCI CSI-Part1" none w.csi1 hb2 (by omega)
  obtain ⟨lines3, hcsi2, hlines3⟩ :=
    @uciPart_encoded ocudu fr _ _ w.rnti "UCI CSI-Part2" none w.csi2 hb3 (by omega)
  unfold uciPusch
  rw [if_neg (by omega), hhdr, ok_bind]
  simp only [hflag1, hflag2, hflag3, hharq, hcsi1, hcsi2, ok_bind]
  refine ⟨_, rfl, ?_⟩
  simp only [notifications_append, hlines1, hlines2, hlines3]
  rfl

theorem uciPucchFormat01_encoded (w : WireUciPucch01) (hb : fr.buf.drop q = w.encode ++ rest)
    (hend : q + w.encode.length ≤ fr.pEnd) :
    ∃ out, uciPucchFormat01 ocudu fr q = .ok out ∧ notifications out =
      [.onUciIndication fr.sp ((WireUciPdu.pucch01 w).deliver ocudu fr.sp.numerology)] := by
  simp only [WireUciPucch01.encode, List.append_assoc] at hb
  simp only [WireUciPucch01.encode, List.length_append, WireUciPucch01.header_length] at hend
  have hhdr : readAt scfUciPucchPdu fr.buf q =
      .ok ⟨uciBitmap w.sr.isSome w.harq.isSome false false, w.handle, w.rnti, w.format.code,
        w.ulCqi, w.timingAdvance, w.rssi⟩ := by
    simp [readAt, hb, WireUciPucch01.header, scfUciPucchPdu]
  have hformat : toPucchFormat01 w.format.code = w.format := by cases w.format <;> rfl
  obtain ⟨hflag0, hflag1, -, -⟩ := uciBitmap_testBit w.sr.isSome w.harq.isSome false false
  have hb1 := drop_past hb w.header_length
  have hb2 := drop_past hb1 rfl
  have hsr := @uciSrF01_encoded fr _ _ w.sr hb1 (by omega)
  obtain ⟨lines, hharq, hlines⟩ :=
    @uciHarqF01_encoded ocudu fr _ _ w.rnti w.harq hb2 (by omega)
  unfold uciPucchFormat01
  rw [if_neg (by omega), hhdr, ok_bind]
  simp only [hflag0, hflag1, hsr, hharq, ok_bind, hformat]
  refine ⟨_, rfl, ?_⟩
  simp only [notifications_append, hlines]
  rfl

theorem uciPucchFormat234_encoded (w : WireUciPucch234) (hb : fr.buf.drop q = w.encode ++ rest)
    (hend : q + w.encode.length ≤ fr.pEnd) :
    ∃ out, uciPucchFormat234 ocudu fr q = .ok out ∧ notifications out =
      [.onUciIndication fr.sp ((WireUciPdu.pucch234 w).deliver ocudu fr.sp.numerology)] := by
  simp only [WireUciPucch234.encode, List.append_assoc] at hb
  simp only [WireUciPucch234.encode, List.length_append, WireUciPucch234.header_length] at hend
  have hhdr : readAt scfUciPucchPdu fr.buf q =
      .ok ⟨uciBitmap w.sr.isSome w.harq.isSome w.csi1.isSome w.csi2.isSome, w.handle, w.rnti,
        w.format.code, w.ulCqi, w.timingAdvance, w.rssi⟩ := by
    simp [readAt, hb, WireUciPucch234.header, scfUciPucchPdu]
  have hformat : toPucchFormat234 w.format.code = w.format := by cases w.format <;> rfl
  obtain ⟨hflag0, hflag1, hflag2, hflag3⟩ :=
    uciBitmap_testBit w.sr.isSome w.harq.isSome w.csi1.isSome w.csi2.isSome
  have hb1 := drop_past hb w.header_length
  have hb2 := drop_past hb1 rfl
  have hb3 := drop_past hb2 rfl
  have hb4 := drop_past hb3 rfl
  obtain ⟨lines0, hsr, hlines0⟩ := @uciSrF234_encoded ocudu fr _ _ w.rnti w.sr hb1 (by omega)
  obtain ⟨lines1, hharq, hlines1⟩ := @uciPart_encoded ocudu fr _ _ w.rnti "UCI HARQ"
    (some "PUCCH234-HARQ") w.harq hb2 (by omega)
  obtain ⟨lines2, hcsi1, hlines2⟩ :=
    @uciPart_encoded ocudu fr _ _ w.rnti "UCI CSI-Part1" none w.csi1 hb3 (by omega)
  obtain ⟨lines3, hcsi2, hlines3⟩ :=
    @uciPart_encoded ocudu fr _ _ w.rnti "UCI CSI-Part2" none w.csi2 hb4 (by omega)
  unfold uciPucchFormat234
  rw [if_neg (by omega), hhdr, ok_bind]
  simp only [hflag0, hflag1, hflag2, hflag3, hsr, hharq, hcsi1, hcsi2, ok_bind, hformat]
  refine ⟨_, rfl, ?_⟩
  simp only [notifications_append, hlines0, hlines1, hlines2, hlines3]
  rfl

/-- A turn over an encoded PDU delivers it and moves behind it. -/
theorem uciTurn_encoded {buf : List UInt8} (sp : SlotPoint) (w : WireUciPdu) {p : Nat}
    (hb : buf.drop p = w.encode ++ rest) :
    ∃ out, uciTurn ocudu buf sp p = .ok (.next (p + w.encode.length) out) ∧
      notifications out = [.onUciIndication sp (w.deliver ocudu sp.numerology)] := by
  have hsize := w.body_length_le
  have hlen : w.encode.length = 4 + w.body.length := by
    rw [WireUciPdu.encode, List.length_append]
    rfl
  have hsizeNat : (UInt16.ofNat (4 + w.body.length)).toNat = 4 + w.body.length :=
    UInt16.toNat_ofNat_of_lt' (show 4 + w.body.length < 2 ^ 16 by omega)
  have hbuf := congrArg List.length hb
  rw [List.length_drop, List.length_append, hlen] at hbuf
  have hhdr : readAt scfUciPdu buf p = .ok ⟨w.pduType, UInt16.ofNat (4 + w.body.length)⟩ := by
    simp [readAt, hb, WireUciPdu.encode, scfUciPdu]
  have hbody : buf.drop (p + 4) = w.body ++ rest := by
    refine @drop_past buf (le16 w.pduType ++ le16 (UInt16.ofNat (4 + w.body.length))) _ p 4 ?_ rfl
    rw [hb, WireUciPdu.encode, List.append_assoc]
  -- the announced size is exact, so the PDU neither is too short nor leaves the message
  have hin : ¬ (UInt16.ofNat (4 + w.body.length) < 4 ∨
      buf.length < p + (UInt16.ofNat (4 + w.body.length)).toNat) := by
    rw [UInt16.lt_iff_toNat_lt, hsizeNat, not_or]
    exact ⟨by simp, by omega⟩
  -- the type selects the decoder of the kind that was encoded
  have hpdu : ∀ fr : UciFrame, fr.buf = buf → fr.hdr.pduType = w.pduType →
      fr.pEnd = p + 4 + w.body.length → ∃ out, uciPdu ocudu fr (p + 4) = .ok out ∧
        notifications out = [.onUciIndication fr.sp (w.deliver ocudu fr.sp.numerology)] := by
    intro fr hfbuf hftype hfend
    rw [← hfbuf] at hbody
    unfold uciPdu
    rw [hftype]
    cases w with
    | pusch w => exact uciPusch_encoded ocudu w hbody (le_of_eq hfend.symm)
    | pucch01 w => exact uciPucchFormat01_encoded ocudu w hbody (le_of_eq hfend.symm)
    | pucch234 w => exact uciPucchFormat234_encoded ocudu w hbody (le_of_eq hfend.symm)
  unfold uciTurn
  rw [if_neg (by omega), hhdr, ok_bind, dif_neg hin]
  obtain ⟨out, hout, hnot⟩ := hpdu ⟨buf, sp, ⟨w.pduType, UInt16.ofNat (4 + w.body.length)⟩,
    p + (UInt16.ofNat (4 + w.body.length)).toNat, by omega⟩ rfl rfl
    (by show p + _ = _; rw [hsizeNat, Nat.add_assoc])
  simp only [hout, ok_bind]
  refine ⟨out, ?_, hnot⟩
  rw [hsizeNat, hlen]
  rfl

end Pdus

/-! ## Messages -/

/-- Every encoded UCI PDU is delivered once, in order, and sections OCUDU cannot hold are dropped
alone. -/
theorem dispatchUciIndication_encoded (ocudu : Ocudu) (numerology : Nat) (hdr : List UInt8)
    (hhdr : hdr.length = 8) (sfn slot : UInt16) (pdus : List WireUciPdu)
    (hpdus : pdus.length ≤ 65535) :
    ∃ trace, dispatchUciIndication ocudu (encodeUciIndication hdr sfn slot pdus) numerology =
        .ok trace ∧
      notifications trace = pdus.map fun w ↦
        .onUciIndication ⟨numerology, sfn, slot⟩ (w.deliver ocudu numerology) := by
  rw [encodeUciIndication_eq]
  apply dispatchPdus_records hhdr rfl (count16_parses hpdus)
  intro w _ i rest hb
  exact uciTurn_encoded ocudu ⟨numerology, sfn, slot⟩ w hb

/-- A HARQ section of two bits where OCUDU holds one: it is dropped, the CSI behind it is not. -/
theorem dispatchUciIndication_encoded_oversize :
    ∃ trace, dispatchUciIndication ⟨1, 4, 2, fun ta _ ↦ ta.toNat, 64, List.concat⟩
        (encodeUciIndication (List.replicate 8 0) 5 3 [.pusch ⟨7, 0x4601, 0, 31, 100,
          some ⟨⟨[true, true], by decide⟩, .crcPass, 0, rfl⟩,
          some ⟨⟨[true], by decide⟩, .noDtx, 3, rfl⟩, none⟩]) 1 = .ok trace ∧
      notifications trace = [.onUciIndication ⟨1, 5, 3⟩ (.pusch ⟨7, 0x4601, -32768, some 31, 100,
        0xFFFF, none, some ⟨.noDtx, 1, [true]⟩, none⟩)] :=
  dispatchUciIndication_encoded ⟨1, 4, 2, fun ta _ ↦ ta.toNat, 64, List.concat⟩ 1
    (List.replicate 8 0) rfl 5 3
    [.pusch ⟨7, 0x4601, 0, 31, 100, some ⟨⟨[true, true], by decide⟩, .crcPass, 0, rfl⟩,
      some ⟨⟨[true], by decide⟩, .noDtx, 3, rfl⟩, none⟩] (by decide)

end AerialBridge
