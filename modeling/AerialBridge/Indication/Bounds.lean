import AerialBridge.Indication.Uci

/-!
# The decoders read inside the message

No turn of a decoder faults, whatever the cursor is and whatever counts and lengths the message
claims, so neither does a decoder.  A cursor may run past the end of the message or of its PDU;
the test before the next read then ends the loop or skips the section.
-/

namespace AerialBridge

open Bytes Bytes.Parser

/-! ## The fixed records -/

theorem count8_sized : Sized count8 1 := Sized.bind .u8 fun _ ↦ .pure _

theorem count16_sized : Sized count16 2 := Sized.bind .u16 fun _ ↦ .pure _

theorem scfCrcPdu_sized : Sized scfCrcPdu 10 :=
  Sized.bind .u32 fun _ ↦ .bind .u16 fun _ ↦ .bind .u8 fun _ ↦ .bind .u8 fun _ ↦
    .bind .u16 fun _ ↦ .pure _

theorem scfCrcEnd_sized : Sized scfCrcEnd 5 :=
  Sized.bind .u8 fun _ ↦ .bind .u16 fun _ ↦ .bind .u16 fun _ ↦ .pure _

theorem scfRxDataPdu_sized : Sized scfRxDataPdu 16 :=
  Sized.bind .u32 fun _ ↦ .bind .u16 fun _ ↦ .bind .u8 fun _ ↦ .bind .u32 fun _ ↦
    .bind (.bytes 5) fun _ ↦ .pure _

theorem scfRachPdu_sized : Sized scfRachPdu 8 :=
  Sized.bind (.bytes 2) fun _ ↦ .bind .u8 fun _ ↦ .bind .u8 fun _ ↦ .bind .u8 fun _ ↦
    .bind .u8 fun _ ↦ .bind .u8 fun _ ↦ .bind .u8 fun _ ↦ .pure _

theorem scfRachPreamble_sized : Sized scfRachPreamble 7 :=
  Sized.bind .u8 fun _ ↦ .bind .u16 fun _ ↦ .bind .u32 fun _ ↦ .pure _

theorem scfSrsIndPduStart_sized : Sized scfSrsIndPduStart 11 :=
  Sized.bind .u32 fun _ ↦ .bind .u16 fun _ ↦ .bind .u16 fun _ ↦ .bind .u8 fun _ ↦
    .bind .u8 fun _ ↦ .bind .u8 fun _ ↦ .pure _

theorem scfUciPdu_sized : Sized scfUciPdu 4 :=
  Sized.bind .u16 fun _ ↦ .bind .u16 fun _ ↦ .pure _

theorem scfUciPuschPdu_sized : Sized scfUciPuschPdu 12 :=
  Sized.bind .u8 fun _ ↦ .bind .u32 fun _ ↦ .bind .u16 fun _ ↦ .bind .u8 fun _ ↦
    .bind .u16 fun _ ↦ .bind .u16 fun _ ↦ .pure _

theorem scfUciPucchPdu_sized : Sized scfUciPucchPdu 13 :=
  Sized.bind .u8 fun _ ↦ .bind .u32 fun _ ↦ .bind .u16 fun _ ↦ .bind .u8 fun _ ↦
    .bind .u8 fun _ ↦ .bind .u16 fun _ ↦ .bind .u16 fun _ ↦ .pure _

theorem scfUciSrF0F1_sized : Sized scfUciSrF0F1 2 :=
  Sized.bind .u8 fun _ ↦ .bind .u8 fun _ ↦ .pure _

theorem scfUciHarqF0F1_sized : Sized scfUciHarqF0F1 2 :=
  Sized.bind .u8 fun _ ↦ .bind .u8 fun _ ↦ .pure _

theorem scfUciPart_sized : Sized scfUciPart 3 :=
  Sized.bind .u8 fun _ ↦ .bind .u16 fun _ ↦ .pure _

/-! ## CRC, RX_DATA, RACH and SRS -/

theorem deserializeSlotIndication_succeeds (buf : List UInt8) (numerology : Nat) (now : Int) :
    Succeeds (deserializeSlotIndication buf numerology now) := by
  refine .ite (fun _ ↦ .pure _) fun h ↦ ?_
  have hlen : 12 ≤ buf.length := by simp only [scfHdrSize] at h; omega
  refine .bind (readAt_fixed .u16 (by simp only [scfHdrSize]; omega)) fun sfn _ ↦ ?_
  refine .bind (readAt_fixed .u16 (by simp only [scfHdrSize]; omega)) fun slot _ ↦ ?_
  exact .ite (fun _ ↦ .pure _) fun _ ↦ .ite (fun _ ↦ .pure _) fun _ ↦ .pure _

/-- The common walk succeeds when its turns do. -/
theorem dispatchPdus_succeeds {σ : Type} {count : Parser Nat} {countSize : Nat}
    (hcount : Sized count countSize) {buf : List UInt8} {numerology : Nat} {start : Nat → σ}
    {turn : SlotPoint → σ → Except ReadFault (Turn σ Effect)}
    (hturn : ∀ sp s, Succeeds (turn sp s)) :
    Succeeds (dispatchPdus count countSize buf numerology start turn) := by
  refine .ite (fun _ ↦ .pure _) fun h ↦ ?_
  simp only [scfHdrSize] at h ⊢
  refine .bind (readAt_fixed .u16 (by omega)) fun sfn _ ↦ ?_
  refine .bind (readAt_fixed .u16 (by omega)) fun slot _ ↦ ?_
  refine .bind (readAt_fixed hcount.fixed (by omega)) fun numPdus _ ↦ ?_
  exact .bind (loop_succeeds (hturn _) _ _) fun _ _ ↦ .pure _

theorem crcTurn_succeeds (buf : List UInt8) (sp : SlotPoint) (p : Nat) :
    Succeeds (crcTurn buf sp p) := by
  refine .ite (fun _ ↦ .pure _) fun h ↦ ?_
  refine .bind (readAt_fixed scfCrcPdu_sized.fixed (by omega)) fun hdr _ ↦ ?_
  -- the code block skip may leave the message; the tail is read only when it is inside
  refine .bind ?_ fun _ _ ↦ .pure _
  refine .ite (fun hq ↦ ?_) fun _ ↦ .pure _
  exact .bind (readAt_fixed scfCrcEnd_sized.fixed hq) fun _ _ ↦ .pure _

theorem rxDataTurn_succeeds (buf : List UInt8) (hasData : Bool) (dataLen : Nat) (sp : SlotPoint)
    (c : RxDataCursor) : Succeeds (rxDataTurn buf hasData dataLen sp c) := by
  refine .ite (fun _ ↦ .pure _) fun h ↦ ?_
  exact .bind (readAt_fixed scfRxDataPdu_sized.fixed (by omega)) fun _ _ ↦ .pure _

theorem rachPreambleTurn_succeeds (buf : List UInt8) (p : Nat) :
    Succeeds (rachPreambleTurn buf p) := by
  refine .ite (fun _ ↦ .pure _) fun h ↦ ?_
  exact .bind (readAt_fixed scfRachPreamble_sized.fixed (by omega)) fun _ _ ↦ .pure _

theorem rachTurn_succeeds (ocudu : Ocudu) (buf : List UInt8) (sp : SlotPoint) (p : Nat) :
    Succeeds (rachTurn ocudu buf sp p) := by
  refine .ite (fun _ ↦ .pure _) fun h ↦ ?_
  refine .bind (readAt_fixed scfRachPdu_sized.fixed (by omega)) fun hdr _ ↦ ?_
  -- the preambles are walked from wherever the cursor stands
  exact .bind (loop_succeeds (rachPreambleTurn_succeeds buf) _ _) fun _ _ ↦ .pure _

theorem srsReportTurn_succeeds (buf : List UInt8) (p : Nat) : Succeeds (srsReportTurn buf p) := by
  refine .ite (fun _ ↦ .pure _) fun h ↦ ?_
  refine .bind (readAt_fixed .u16 (by omega)) fun numRbs _ ↦ ?_
  exact .ite (fun _ ↦ .pure _) fun _ ↦ .pure _

theorem srsTurn_succeeds (ocudu : Ocudu) (buf : List UInt8) (sp : SlotPoint) (p : Nat) :
    Succeeds (srsTurn ocudu buf sp p) := by
  refine .ite (fun _ ↦ .pure _) fun h ↦ ?_
  refine .bind (readAt_fixed scfSrsIndPduStart_sized.fixed (by omega)) fun hdr _ ↦ ?_
  exact .bind (loop_succeeds (srsReportTurn_succeeds buf) _ _) fun _ _ ↦ .pure _

/-! ## UCI -/

section Uci

variable (ocudu : Ocudu) (fr : UciFrame)

theorem decodePayloadBits_succeeds (rnti : UInt16) (name : String) (max : Nat) {q bitLen : Nat}
    (h : q + (bitLen + 7) / 8 ≤ fr.buf.length) :
    Succeeds (decodePayloadBits fr rnti name max q bitLen) := by
  refine .ite (fun _ ↦ .pure _) fun _ ↦ ?_
  refine .bind (.mapM fun i hi ↦ ?_) fun _ _ ↦ .pure _
  rw [List.mem_range] at hi
  -- bit `i` stands in byte `i / 8` of the payload
  exact .bind (readAt_fixed .u8 (by omega)) fun _ _ ↦ .pure _

theorem logMalformedUciBytes_succeeds (reason : String) {q : Nat} (h : q ≤ fr.pEnd) :
    Succeeds (logMalformedUciBytes fr reason q) := by
  have hin := fr.pEnd_le
  exact .bind (readAt_fixed (.bytes _) (by omega)) fun _ _ ↦ .pure _

theorem logDropped_succeeds {α : Type} (reason : Option String) {q : Nat} (h : q ≤ fr.pEnd)
    (decoded : Option α) : Succeeds (logDropped fr reason q decoded) := by
  unfold logDropped
  split
  · exact .bind (logMalformedUciBytes_succeeds fr _ h) fun _ _ ↦ .pure _
  · exact .pure _

theorem uciPart_succeeds (rnti : UInt16) (flag : Bool) (name : String) (reason : Option String)
    (q : Nat) : Succeeds (uciPart ocudu fr rnti flag name reason q) := by
  have hin := fr.pEnd_le
  refine .ite (fun h ↦ ?_) fun _ ↦ .pure _
  refine .bind (readAt_fixed scfUciPart_sized.fixed (by omega)) fun hdr _ ↦ ?_
  -- the bits are read only when all their bytes are inside the PDU
  refine .ite (fun hbytes ↦ ?_) fun _ ↦ .pure _
  refine .bind (decodePayloadBits_succeeds fr _ _ _ (by omega)) fun _ _ ↦ ?_
  exact .bind (logDropped_succeeds fr _ (by omega) _) fun _ _ ↦ .pure _

theorem uciSrF234_succeeds (rnti : UInt16) (flag : Bool) (q : Nat) :
    Succeeds (uciSrF234 ocudu fr rnti flag q) := by
  have hin := fr.pEnd_le
  refine .ite (fun h ↦ ?_) fun _ ↦ .pure _
  refine .bind (readAt_fixed .u16 (by omega)) fun srBitLen _ ↦ ?_
  refine .ite (fun hbytes ↦ ?_) fun _ ↦ .pure _
  refine .bind (decodePayloadBits_succeeds fr _ _ _ (by omega)) fun _ _ ↦ ?_
  exact .bind (logDropped_succeeds fr _ (by omega) _) fun _ _ ↦ .pure _

theorem uciSrF01_succeeds (flag : Bool) (q : Nat) : Succeeds (uciSrF01 fr flag q) := by
  have hin := fr.pEnd_le
  refine .ite (fun h ↦ ?_) fun _ ↦ .pure _
  exact .bind (readAt_fixed scfUciSrF0F1_sized.fixed (by omega)) fun _ _ ↦ .pure _

theorem uciHarqF01_succeeds (rnti : UInt16) (flag : Bool) (q : Nat) :
    Succeeds (uciHarqF01 ocudu fr rnti flag q) := by
  have hin := fr.pEnd_le
  refine .ite (fun h ↦ ?_) fun _ ↦ .pure _
  refine .bind (readAt_fixed scfUciHarqF0F1_sized.fixed (by omega)) fun hdr _ ↦ ?_
  -- values inside the PDU: within the limit they are read, otherwise logged
  refine .ite (fun hvalues ↦ .ite (fun _ ↦ ?_) fun _ ↦ ?_) fun _ ↦ .pure _
  · exact .bind (readAt_fixed (.bytes _) (by omega)) fun _ _ ↦ .pure _
  · exact .bind (logMalformedUciBytes_succeeds fr _ (by omega)) fun _ _ ↦ .pure _

theorem uciPusch_succeeds (q : Nat) : Succeeds (uciPusch ocudu fr q) := by
  have hin := fr.pEnd_le
  refine .ite (fun _ ↦ .pure _) fun hq ↦ ?_
  refine .bind (readAt_fixed scfUciPuschPdu_sized.fixed (by omega)) fun hdr _ ↦ ?_
  refine .bind (uciPart_succeeds ocudu fr _ _ _ _ _) fun _ _ ↦ ?_
  refine .bind (uciPart_succeeds ocudu fr _ _ _ _ _) fun _ _ ↦ ?_
  exact .bind (uciPart_succeeds ocudu fr _ _ _ _ _) fun _ _ ↦ .pure _

theorem uciPucchFormat01_succeeds (q : Nat) : Succeeds (uciPucchFormat01 ocudu fr q) := by
  have hin := fr.pEnd_le
  refine .ite (fun _ ↦ .pure _) fun hq ↦ ?_
  refine .bind (readAt_fixed scfUciPucchPdu_sized.fixed (by omega)) fun hdr _ ↦ ?_
  refine .bind (uciSrF01_succeeds fr _ _) fun _ _ ↦ ?_
  exact .bind (uciHarqF01_succeeds ocudu fr _ _ _) fun _ _ ↦ .pure _

theorem uciPucchFormat234_succeeds (q : Nat) : Succeeds (uciPucchFormat234 ocudu fr q) := by
  have hin := fr.pEnd_le
  refine .ite (fun _ ↦ .pure _) fun hq ↦ ?_
  refine .bind (readAt_fixed scfUciPucchPdu_sized.fixed (by omega)) fun hdr _ ↦ ?_
  refine .bind (uciSrF234_succeeds ocudu fr _ _ _) fun _ _ ↦ ?_
  refine .bind (uciPart_succeeds ocudu fr _ _ _ _ _) fun _ _ ↦ ?_
  refine .bind (uciPart_succeeds ocudu fr _ _ _ _ _) fun _ _ ↦ ?_
  exact .bind (uciPart_succeeds ocudu fr _ _ _ _ _) fun _ _ ↦ .pure _

theorem uciPdu_succeeds (q : Nat) : Succeeds (uciPdu ocudu fr q) := by
  unfold uciPdu
  split
  · exact uciPusch_succeeds ocudu fr q
  · exact uciPucchFormat01_succeeds ocudu fr q
  · exact uciPucchFormat234_succeeds ocudu fr q
  · exact .pure _

theorem uciTurn_succeeds (buf : List UInt8) (sp : SlotPoint) (p : Nat) :
    Succeeds (uciTurn ocudu buf sp p) := by
  refine .ite (fun _ ↦ .pure _) fun h ↦ ?_
  refine .bind (readAt_fixed scfUciPdu_sized.fixed (by omega)) fun hdr _ ↦ ?_
  split
  -- a PDU whose size leaves the message is not entered
  · exact .pure _
  · exact .bind (uciPdu_succeeds ocudu _ _) fun _ _ ↦ .pure _

end Uci

end AerialBridge
