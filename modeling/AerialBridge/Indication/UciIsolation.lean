import AerialBridge.Indication.Bounds
import AerialBridge.Indication.PerPdu

/-!
# The PDUs of a UCI.indication do not influence each other

What a UCI PDU is decoded to depends on the bytes between its start and the end its header announces,
and the next PDU starts at that end.  Both are shown by running the decoder on two messages side by
side.
-/

namespace AerialBridge

open Bytes Bytes.Parser

/-! ## The body of a PDU -/

/-- The rest of a PDU from a cursor on, in two messages. -/
structure SameBody (fr fr' : UciFrame) (q q' : Nat) : Prop where
  sp : fr.sp = fr'.sp
  hdr : fr.hdr = fr'.hdr
  bytes : window fr.buf q fr.pEnd = window fr'.buf q' fr'.pEnd

namespace SameBody

variable {fr fr' : UciFrame} {q q' : Nat}

theorem room (h : SameBody fr fr' q q') : fr.pEnd - q = fr'.pEnd - q' := by
  have hlen := congrArg List.length h.bytes
  rw [length_window fr.pEnd_le, length_window fr'.pEnd_le] at hlen
  exact hlen

theorem le_iff (h : SameBody fr fr' q q') {n : Nat} (hn : 0 < n) :
    q + n ≤ fr.pEnd ↔ q' + n ≤ fr'.pEnd := by
  have hroom := h.room
  omega

theorem add (h : SameBody fr fr' q q') (n : Nat) : SameBody fr fr' (q + n) (q' + n) := by
  refine ⟨h.sp, h.hdr, ?_⟩
  rw [window_add, window_add, h.bytes]

theorem read (h : SameBody fr fr' q q') {α : Type} {p : Parser α} {n : Nat} (hp : Sized p n)
    (hq : q + n ≤ fr.pEnd) (hq' : q' + n ≤ fr'.pEnd) :
    Related (readAt p fr.buf q) (readAt p fr'.buf q') Eq := by
  apply Related.readAt hp h.bytes
  · rw [length_window fr.pEnd_le]
    omega
  · omega
  · omega

end SameBody

section Body

variable (ocudu : Ocudu) {fr fr' : UciFrame} {q q' : Nat}

theorem decodePayloadBits_same (h : SameBody fr fr' q q') (rnti : UInt16) (name : String)
    (max : Nat) {bitLen : Nat} (hq : q + (bitLen + 7) / 8 ≤ fr.pEnd)
    (hq' : q' + (bitLen + 7) / 8 ≤ fr'.pEnd) :
    Related (decodePayloadBits fr rnti name max q bitLen)
      (decodePayloadBits fr' rnti name max q' bitLen) Eq := by
  apply Related.ite Iff.rfl
  · intro _ _
    rw [h.sp]
    exact .pure rfl
  · intro _ _
    apply Related.bind (Q := Eq)
    · apply Related.mapM
      intro i hi
      rw [List.mem_range] at hi
      -- bit `i` stands in byte `i / 8` of the payload
      apply Related.bind ((h.add (i / 8)).read .u8 (by omega) (by omega))
      rintro byte _ rfl
      exact .pure rfl
    · rintro bits _ rfl
      exact .pure rfl

theorem logMalformedUciBytes_same (h : SameBody fr fr' q q') (reason : String) (hq : q ≤ fr.pEnd)
    (hq' : q' ≤ fr'.pEnd) :
    Related (logMalformedUciBytes fr reason q) (logMalformedUciBytes fr' reason q') Eq := by
  unfold logMalformedUciBytes
  rw [h.room, h.sp, h.hdr]
  have hroom := h.room
  apply Related.bind (h.read (.bytes _) (by omega) (by omega))
  rintro raw _ rfl
  exact .pure rfl

theorem logDropped_same (h : SameBody fr fr' q q') {α : Type} (reason : Option String)
    (hq : q ≤ fr.pEnd) (hq' : q' ≤ fr'.pEnd) (decoded : Option α) :
    Related (logDropped fr reason q decoded) (logDropped fr' reason q' decoded) Eq := by
  unfold logDropped
  split
  · apply Related.bind (logMalformedUciBytes_same h _ hq hq')
    rintro line _ rfl
    exact .pure rfl
  · exact .pure rfl

/-- What the sections give: their values and log lines agree and the cursors stay level. -/
def SameSection (fr fr' : UciFrame) {α : Type} (r r' : Nat × α) : Prop :=
  SameBody fr fr' r.1 r'.1 ∧ r.2 = r'.2

theorem uciPart_same (h : SameBody fr fr' q q') (rnti : UInt16) (flag : Bool) (name : String)
    (reason : Option String) :
    Related (uciPart ocudu fr rnti flag name reason q) (uciPart ocudu fr' rnti flag name reason q')
      (SameSection fr fr') := by
  apply Related.ite (and_congr_right' (h.le_iff (by omega)))
  · intro hq hq'
    apply Related.bind (h.read scfUciPart_sized hq.2 hq'.2)
    rintro hdr _ rfl
    apply Related.ite
    · rw [Nat.add_assoc, Nat.add_assoc]
      exact h.le_iff (by omega)
    · intro hin hin'
      apply Related.bind (decodePayloadBits_same (h.add 3) rnti name _ hin hin')
      rintro ⟨payload, lines⟩ _ rfl
      apply Related.bind (logDropped_same h reason (by omega) (by omega) payload)
      rintro malformed _ rfl
      exact .pure ⟨(h.add 3).add _, rfl⟩
    -- the cursor passes a section that leaves the PDU by the same size in both
    · intro _ _
      exact .pure ⟨(h.add 3).add _, rfl⟩
  · intro _ _
    exact .pure ⟨h, rfl⟩

theorem uciSrF234_same (h : SameBody fr fr' q q') (rnti : UInt16) (flag : Bool) :
    Related (uciSrF234 ocudu fr rnti flag q) (uciSrF234 ocudu fr' rnti flag q')
      (SameSection fr fr') := by
  apply Related.ite (and_congr_right' (h.le_iff (by omega)))
  · intro hq hq'
    apply Related.bind (h.read .u16 hq.2 hq'.2)
    rintro srBitLen _ rfl
    apply Related.ite
    · rw [Nat.add_assoc, Nat.add_assoc]
      exact h.le_iff (by omega)
    · intro hin hin'
      apply Related.bind (decodePayloadBits_same (h.add 2) rnti _ _ hin hin')
      rintro ⟨payload, lines⟩ _ rfl
      apply Related.bind (logDropped_same h _ (by omega) (by omega) payload)
      rintro malformed _ rfl
      exact .pure ⟨(h.add 2).add _, rfl⟩
    · intro _ _
      exact .pure ⟨(h.add 2).add _, rfl⟩
  · intro _ _
    exact .pure ⟨h, rfl⟩

theorem uciSrF01_same (h : SameBody fr fr' q q') (flag : Bool) :
    Related (uciSrF01 fr flag q) (uciSrF01 fr' flag q') (SameSection fr fr') := by
  apply Related.ite (and_congr_right' (h.le_iff (by omega)))
  · intro hq hq'
    apply Related.bind (h.read scfUciSrF0F1_sized hq.2 hq'.2)
    rintro sr _ rfl
    exact .pure ⟨h.add 2, rfl⟩
  · intro _ _
    exact .pure ⟨h, rfl⟩

theorem uciHarqF01_same (h : SameBody fr fr' q q') (rnti : UInt16) (flag : Bool) :
    Related (uciHarqF01 ocudu fr rnti flag q) (uciHarqF01 ocudu fr' rnti flag q')
      (SameSection fr fr') := by
  apply Related.ite (and_congr_right' (h.le_iff (by omega)))
  · intro hq hq'
    apply Related.bind (h.read scfUciHarqF0F1_sized hq.2 hq'.2)
    rintro hdr _ rfl
    apply Related.ite
    · rw [Nat.add_assoc, Nat.add_assoc]
      exact h.le_iff (by omega)
    · intro hin hin'
      apply Related.ite Iff.rfl
      · intro _ _
        apply Related.bind ((h.add 2).read (.bytes _) hin hin')
        rintro values _ rfl
        exact .pure ⟨(h.add 2).add _, rfl⟩
      -- too many values: the line that is logged holds the same bytes
      · intro _ _
        apply Related.bind (logMalformedUciBytes_same h _ (by omega) (by omega))
        rintro line _ rfl
        rw [h.sp]
        exact .pure ⟨(h.add 2).add _, rfl⟩
    · intro _ _
      exact .pure ⟨(h.add 2).add _, rfl⟩
  · intro _ _
    exact .pure ⟨h, rfl⟩

theorem uciPusch_same (h : SameBody fr fr' q q') :
    Related (uciPusch ocudu fr q) (uciPusch ocudu fr' q') Eq := by
  have hfits := h.le_iff (n := 12) (by omega)
  apply Related.ite (by omega)
  · intro _ _
    exact .pure rfl
  · intro hq hq'
    apply Related.bind (h.read scfUciPuschPdu_sized (by omega) (by omega))
    rintro hdr _ rfl
    apply Related.bind (uciPart_same ocudu (h.add 12) _ _ _ _)
    rintro ⟨q1, harq, harqLines⟩ ⟨q1', _, _⟩ ⟨h1, ⟨⟩⟩
    apply Related.bind (uciPart_same ocudu h1 _ _ _ _)
    rintro ⟨q2, csi1, csi1Lines⟩ ⟨q2', _, _⟩ ⟨h2, ⟨⟩⟩
    apply Related.bind (uciPart_same ocudu h2 _ _ _ _)
    rintro ⟨q3, csi2, csi2Lines⟩ ⟨q3', _, _⟩ ⟨h3, ⟨⟩⟩
    rw [h.sp]
    exact .pure rfl

theorem uciPucchFormat01_same (h : SameBody fr fr' q q') :
    Related (uciPucchFormat01 ocudu fr q) (uciPucchFormat01 ocudu fr' q') Eq := by
  have hfits := h.le_iff (n := 13) (by omega)
  apply Related.ite (by omega)
  · intro _ _
    exact .pure rfl
  · intro hq hq'
    apply Related.bind (h.read scfUciPucchPdu_sized (by omega) (by omega))
    rintro hdr _ rfl
    apply Related.bind (uciSrF01_same (h.add 13) _)
    rintro ⟨q1, sr⟩ ⟨q1', _⟩ ⟨h1, ⟨⟩⟩
    apply Related.bind (uciHarqF01_same ocudu h1 _ _)
    rintro ⟨q2, harq, harqLines⟩ ⟨q2', _, _⟩ ⟨h2, ⟨⟩⟩
    rw [h.sp]
    exact .pure rfl

theorem uciPucchFormat234_same (h : SameBody fr fr' q q') :
    Related (uciPucchFormat234 ocudu fr q) (uciPucchFormat234 ocudu fr' q') Eq := by
  have hfits := h.le_iff (n := 13) (by omega)
  apply Related.ite (by omega)
  · intro _ _
    exact .pure rfl
  · intro hq hq'
    apply Related.bind (h.read scfUciPucchPdu_sized (by omega) (by omega))
    rintro hdr _ rfl
    apply Related.bind (uciSrF234_same ocudu (h.add 13) _ _)
    rintro ⟨q1, sr, srLines⟩ ⟨q1', _, _⟩ ⟨h1, ⟨⟩⟩
    apply Related.bind (uciPart_same ocudu h1 _ _ _ _)
    rintro ⟨q2, harq, harqLines⟩ ⟨q2', _, _⟩ ⟨h2, ⟨⟩⟩
    apply Related.bind (uciPart_same ocudu h2 _ _ _ _)
    rintro ⟨q3, csi1, csi1Lines⟩ ⟨q3', _, _⟩ ⟨h3, ⟨⟩⟩
    apply Related.bind (uciPart_same ocudu h3 _ _ _ _)
    rintro ⟨q4, csi2, csi2Lines⟩ ⟨q4', _, _⟩ ⟨h4, ⟨⟩⟩
    rw [h.sp]
    exact .pure rfl

theorem uciPdu_same (h : SameBody fr fr' q q') :
    Related (uciPdu ocudu fr q) (uciPdu ocudu fr' q') Eq := by
  unfold uciPdu
  rw [← h.hdr]
  split
  · exact uciPusch_same ocudu h
  · exact uciPucchFormat01_same ocudu h
  · exact uciPucchFormat234_same ocudu h
  · exact .pure rfl

end Body

/-! ## The framing of a message -/

/-- The size that the PDU header at byte `p` announces. -/
def uciPduSize (buf : List UInt8) (p : Nat) : Nat := (peek16 buf (p + 2)).toNat

/-- The PDU at byte `p` has its header and stays inside the message. -/
def UciFramed (buf : List UInt8) (p : Nat) : Prop :=
  p + 4 ≤ buf.length ∧ 4 ≤ uciPduSize buf p ∧ p + uciPduSize buf p ≤ buf.length

instance (buf : List UInt8) (p : Nat) : Decidable (UciFramed buf p) :=
  inferInstanceAs (Decidable (_ ∧ _ ∧ _))

def uciFrame (buf : List UInt8) (sp : SlotPoint) (p : Nat) (h : UciFramed buf p) : UciFrame :=
  ⟨buf, sp, ⟨peek16 buf p, peek16 buf (p + 2)⟩, p + uciPduSize buf p, h.2.2⟩

/-- The byte that the walk has reached after `k` of at most `n` PDUs from byte `p` on. -/
def uciBoundaryFrom (buf : List UInt8) : Nat → Nat → Nat → Option Nat
  | _, 0, p => some p
  | 0, _ + 1, _ => none
  | n + 1, k + 1, p =>
      if UciFramed buf p then uciBoundaryFrom buf n k (p + uciPduSize buf p) else none

/-- The byte at which PDU `k` of a message starts, or at which PDU `k - 1` ends; `none` when the walk
enters fewer than `k` PDUs. -/
def uciBoundary (buf : List UInt8) (k : Nat) : Option Nat :=
  if buf.length < 14 then none else uciBoundaryFrom buf (peek16 buf 12).toNat k 14

/-- The effects of each PDU of a UCI.indication. -/
def uciPduEffects (ocudu : Ocudu) (buf : List UInt8) (numerology : Nat) :
    Except ReadFault (List (List Effect)) :=
  pduEffects count16 2 buf numerology id (uciTurn ocudu buf)

theorem uciBoundaryFrom_le {buf : List UInt8} {n k s p : Nat}
    (h : uciBoundaryFrom buf n k s = some p) : s ≤ p := by
  induction k generalizing n s with
  | zero =>
      rw [uciBoundaryFrom, Option.some.injEq] at h
      exact le_of_eq h
  | succ k ih =>
      cases n with
      | zero => cases h
      | succ n =>
          rw [uciBoundaryFrom] at h
          split at h
          · exact le_trans (Nat.le_add_right s _) (ih h)
          · cases h

theorem uciBoundaryFrom_le_length {buf : List UInt8} {n k s p : Nat} (hs : s ≤ buf.length)
    (h : uciBoundaryFrom buf n k s = some p) : p ≤ buf.length := by
  induction k generalizing n s with
  | zero =>
      rw [uciBoundaryFrom, Option.some.injEq] at h
      exact h ▸ hs
  | succ k ih =>
      cases n with
      | zero => cases h
      | succ n =>
          rw [uciBoundaryFrom] at h
          split at h
          · next hf => exact ih hf.2.2 h
          · cases h

theorem uciPduSize_drop (buf : List UInt8) (p : Nat) :
    uciPduSize (buf.drop p) 0 = uciPduSize buf p := by
  rw [uciPduSize, uciPduSize, peek16_drop, Nat.zero_add]

theorem uciFramed_drop (buf : List UInt8) (p : Nat) :
    UciFramed (buf.drop p) 0 ↔ UciFramed buf p := by
  unfold UciFramed
  rw [uciPduSize_drop, List.length_drop]
  omega

theorem UciFramed.of_size {buf buf' : List UInt8} {p : Nat} (h : UciFramed buf p)
    (hsize : uciPduSize buf' p = uciPduSize buf p) (hlen : buf.length ≤ buf'.length) :
    UciFramed buf' p := by
  unfold UciFramed at h ⊢
  rw [hsize]
  omega

theorem peek16_of_take {buf buf' : List UInt8} {n i : Nat} (h : buf'.take n = buf.take n)
    (hi : i + 1 < n) : peek16 buf' i = peek16 buf i := by
  rw [← peek16_take hi, h, peek16_take hi]

section Turn

variable (ocudu : Ocudu) {buf buf' : List UInt8} (sp : SlotPoint) {p p' : Nat}

theorem readAt_scfUciPdu (h : p + 4 ≤ buf.length) :
    readAt scfUciPdu buf p = .ok ⟨peek16 buf p, peek16 buf (p + 2)⟩ := by
  rw [readAt, drop_eq_peek16_append (by omega : p + 2 ≤ buf.length),
    drop_eq_peek16_append (by omega : p + 2 + 2 ≤ buf.length)]
  simp only [scfUciPdu, bind_apply, u16_append, Option.bind_some, pure_apply]

theorem uciTurn_unframed (h : ¬ UciFramed buf p) : uciTurn ocudu buf sp p = .ok (.exit p) := by
  unfold uciTurn
  by_cases hhdr : buf.length < p + 4
  · rw [if_pos hhdr]
    rfl
  · have hsize : (peek16 buf (p + 2) < 4 ∨ buf.length < p + (peek16 buf (p + 2)).toNat) := by
      rw [UInt16.lt_iff_toNat_lt]
      unfold UciFramed uciPduSize at h
      show (peek16 buf (p + 2)).toNat < 4 ∨ _
      omega
    rw [if_neg hhdr, readAt_scfUciPdu (not_lt.mp hhdr), ok_bind, dif_pos hsize]
    rfl

theorem uciTurn_framed (h : UciFramed buf p) :
    uciTurn ocudu buf sp p = uciPdu ocudu (uciFrame buf sp p h) (p + 4) >>= fun effects ↦
      pure (.next (p + uciPduSize buf p) effects) := by
  have hsize : ¬ (peek16 buf (p + 2) < 4 ∨ buf.length < p + (peek16 buf (p + 2)).toNat) := by
    rw [UInt16.lt_iff_toNat_lt]
    unfold UciFramed uciPduSize at h
    show ¬ ((peek16 buf (p + 2)).toNat < 4 ∨ _)
    omega
  unfold uciTurn
  rw [if_neg (not_lt.mpr h.1), readAt_scfUciPdu h.1, ok_bind, dif_neg hsize]
  rfl

/-- A PDU is decoded to the same effects wherever its bytes stand. -/
theorem uciTurn_same (h : UciFramed buf p) (h' : UciFramed buf' p')
    (hsize : uciPduSize buf' p' = uciPduSize buf p)
    (hw : window buf p (p + uciPduSize buf p) = window buf' p' (p' + uciPduSize buf p)) :
    ∃ out, uciTurn ocudu buf sp p = .ok (.next (p + uciPduSize buf p) out) ∧
      uciTurn ocudu buf' sp p' = .ok (.next (p' + uciPduSize buf p) out) := by
  have hlen := length_window h.2.2 p
  have h4 := h.2.1
  obtain ⟨hdr, _, hhdr, hhdr', rfl⟩ := Related.readAt scfUciPdu_sized hw (by omega) (by omega)
    (by omega)
  rw [readAt_scfUciPdu h.1, Except.ok.injEq] at hhdr
  rw [readAt_scfUciPdu h'.1, Except.ok.injEq] at hhdr'
  have hbody : SameBody (uciFrame buf sp p h) (uciFrame buf' sp p' h') p p' := by
    refine ⟨rfl, hhdr.trans hhdr'.symm, ?_⟩
    show window buf p (p + uciPduSize buf p) = window buf' p' (p' + uciPduSize buf' p')
    rw [hsize]
    exact hw
  obtain ⟨out, _, hout, hout', rfl⟩ := uciPdu_same ocudu (hbody.add 4)
  refine ⟨out, ?_, ?_⟩
  · rw [uciTurn_framed ocudu sp h, hout]
    rfl
  · rw [uciTurn_framed ocudu sp h', hout', hsize]
    rfl

/-- From where two messages end alike, their PDUs have the same effects. -/
theorem turns_suffix (n : Nat) (h : buf.drop p = buf'.drop p') :
    Related (turns (uciTurn ocudu buf sp) n p) (turns (uciTurn ocudu buf' sp) n p') Eq := by
  induction n generalizing p p' with
  | zero => exact .pure rfl
  | succ n ih =>
      have hframed : UciFramed buf p ↔ UciFramed buf' p' := by
        rw [← uciFramed_drop, h, uciFramed_drop]
      have hsize : uciPduSize buf' p' = uciPduSize buf p := by
        rw [← uciPduSize_drop, ← h, uciPduSize_drop]
      by_cases hf : UciFramed buf p
      · have hf' := hframed.mp hf
        have hw : window buf p (p + uciPduSize buf p) = window buf' p' (p' + uciPduSize buf p) := by
          rw [window_eq_take, window_eq_take, h]
        obtain ⟨out, hturn, hturn'⟩ := uciTurn_same ocudu sp hf hf' hsize hw
        have hdrop : buf.drop (p + uciPduSize buf p) = buf'.drop (p' + uciPduSize buf p) := by
          rw [← List.drop_drop, h, List.drop_drop]
        obtain ⟨outs, _, houts, houts', rfl⟩ := ih hdrop
        exact ⟨_, _, turns_next hturn houts, turns_next hturn' houts', rfl⟩
      · have hf' := fun hf' ↦ hf (hframed.mpr hf')
        exact ⟨[], [], turns_exit (uciTurn_unframed ocudu sp hf) _,
          turns_exit (uciTurn_unframed ocudu sp hf') _, rfl⟩

end Turn

/-! ## Two messages that differ in one body -/

section Isolation

variable (ocudu : Ocudu) {buf buf' : List UInt8} (sp : SlotPoint)

/-- A PDU that ends before the two messages start to differ. -/
theorem uciTurn_before {s m : Nat} (hf : UciFramed buf s) (hm : s + uciPduSize buf s ≤ m)
    (hlen : buf.length ≤ buf'.length) (hw : window buf' s m = window buf s m) :
    ∃ out, uciTurn ocudu buf sp s = .ok (.next (s + uciPduSize buf s) out) ∧
      uciTurn ocudu buf' sp s = .ok (.next (s + uciPduSize buf s) out) := by
  have hagree : ∀ n, s + n ≤ m → window buf' s (s + n) = window buf s (s + n) := by
    intro n hn
    have htake := congrArg (List.take n) hw
    rw [window_eq_take, window_eq_take]
    rw [window, window, List.drop_take, List.drop_take, List.take_take, List.take_take,
      Nat.min_eq_left (by omega)] at htake
    exact htake
  have hsize : uciPduSize buf' s = uciPduSize buf s := by
    have h4 := hf.2.1
    have hpeek := congrArg (fun w ↦ peek16 w 2) (hagree 4 (by omega))
    simp only [window_eq_take, peek16_take (by omega : 2 + 1 < 4), peek16_drop] at hpeek
    exact congrArg UInt16.toNat hpeek
  exact uciTurn_same ocudu sp hf (hf.of_size hsize hlen) hsize (hagree _ hm).symm

/-- A PDU with the same header: whatever the body holds now, the walk goes on at the same byte. -/
theorem uciTurn_changed {s : Nat} (hf : UciFramed buf s) (hlen : buf.length ≤ buf'.length)
    (htake : buf'.take (s + 4) = buf.take (s + 4)) :
    ∃ out out', uciTurn ocudu buf sp s = .ok (.next (s + uciPduSize buf s) out) ∧
      uciTurn ocudu buf' sp s = .ok (.next (s + uciPduSize buf s) out') := by
  have hsize : uciPduSize buf' s = uciPduSize buf s :=
    congrArg UInt16.toNat (peek16_of_take htake (by omega))
  have hf' := hf.of_size hsize hlen
  obtain ⟨out, hout⟩ := uciPdu_succeeds ocudu (uciFrame buf sp s hf) (s + 4)
  obtain ⟨out', hout'⟩ := uciPdu_succeeds ocudu (uciFrame buf' sp s hf') (s + 4)
  refine ⟨out, out', ?_, ?_⟩
  · rw [uciTurn_framed ocudu sp hf, hout]
    rfl
  · rw [uciTurn_framed ocudu sp hf', hout', hsize]
    rfl

theorem turns_isolated {n k s p e : Nat} (hp : uciBoundaryFrom buf n k s = some p)
    (he : uciBoundaryFrom buf n (k + 1) s = some e) (hlen : buf'.length = buf.length)
    (htake : buf'.take (p + 4) = buf.take (p + 4)) (hdrop : buf'.drop e = buf.drop e) :
    Related (turns (uciTurn ocudu buf sp) n s) (turns (uciTurn ocudu buf' sp) n s)
      fun outs outs' ↦ outs'.length = outs.length ∧ ∀ i, i ≠ k → outs'[i]? = outs[i]? := by
  induction k generalizing n s with
  | zero =>
      cases n with
      | zero => cases he
      | succ n =>
          rw [uciBoundaryFrom, Option.some.injEq] at hp
          subst hp
          rw [uciBoundaryFrom] at he
          split at he
          -- the changed PDU: its own turn may differ, and the turns behind it read the same bytes
          · next hf =>
            rw [uciBoundaryFrom, Option.some.injEq] at he
            obtain ⟨out, out', hturn, hturn'⟩ :=
              uciTurn_changed ocudu sp hf (le_of_eq hlen.symm) htake
            rw [← he] at hdrop
            obtain ⟨outs, _, houts, houts', rfl⟩ := turns_suffix ocudu sp n hdrop.symm
            refine ⟨_, _, turns_next hturn houts, turns_next hturn' houts', rfl, ?_⟩
            intro i hi
            cases i with
            | zero => exact absurd rfl hi
            | succ i => rfl
          · cases he
  | succ k ih =>
      cases n with
      | zero => cases he
      | succ n =>
          rw [uciBoundaryFrom] at hp he
          split at hp
          -- a PDU in front of the changed one, whose turn reads no changed byte
          · next hf =>
            rw [if_pos hf] at he
            have hle := uciBoundaryFrom_le hp
            have hw : window buf' s (p + 4) = window buf s (p + 4) := congrArg (List.drop s) htake
            obtain ⟨out, hturn, hturn'⟩ :=
              uciTurn_before ocudu sp hf (by omega) (le_of_eq hlen.symm) hw
            obtain ⟨outs, outs', houts, houts', hsame⟩ := ih hp he
            refine ⟨_, _, turns_next hturn houts, turns_next hturn' houts', ?_, ?_⟩
            · rw [List.length_cons, List.length_cons, hsame.1]
            · intro i hi
              cases i with
              | zero => rfl
              | succ i => exact hsame.2 i fun h ↦ hi (congrArg Nat.succ h)
          · cases hp

/-- A PDU of `pdu_type` with the size that its body needs. -/
def uciPduBytes (pduType : UInt16) (body : List UInt8) : List UInt8 :=
  le16 pduType ++ le16 (UInt16.ofNat (4 + body.length)) ++ body

theorem uciPdu_unknown {fr : UciFrame} (h : 2 < fr.hdr.pduType.toNat) (q : Nat) :
    uciPdu ocudu fr q = .ok [] := by
  unfold uciPdu
  split
  · omega
  · omega
  · omega
  · rfl

/-- A PDU of a type that no `case` names is walked over. -/
theorem uciTurn_unknown {p : Nat} {pduType : UInt16} {body rest : List UInt8}
    (htype : 2 < pduType) (hbody : 4 + body.length < 2 ^ 16)
    (h : buf.drop p = uciPduBytes pduType body ++ rest) :
    uciTurn ocudu buf sp p = .ok (.next (p + (4 + body.length)) []) := by
  have hlen := congrArg List.length h
  simp only [uciPduBytes, List.length_drop, List.length_append, le16_length] at hlen
  have hhdr : readAt scfUciPdu buf p = .ok ⟨pduType, UInt16.ofNat (4 + body.length)⟩ := by
    simp [readAt, h, uciPduBytes, scfUciPdu]
  rw [readAt_scfUciPdu (by omega), Except.ok.injEq, ScfUciPdu.mk.injEq] at hhdr
  have hsize : uciPduSize buf p = 4 + body.length := by
    rw [uciPduSize, hhdr.2, UInt16.toNat_ofNat', Nat.mod_eq_of_lt hbody]
  have hf : UciFramed buf p := by
    unfold UciFramed
    rw [hsize]
    omega
  have hskip : uciPdu ocudu (uciFrame buf sp p hf) (p + 4) = .ok [] := by
    apply uciPdu_unknown
    show 2 < (peek16 buf p).toNat
    rw [hhdr.1]
    exact UInt16.lt_iff_toNat_lt.mp htype
  rw [uciTurn_framed ocudu sp hf, hskip, hsize]
  rfl

theorem turns_insert {n k s p : Nat} {pduType : UInt16} {body : List UInt8}
    (hp : uciBoundaryFrom buf n k s = some p) (htype : 2 < pduType)
    (hbody : 4 + body.length < 2 ^ 16) (hlen : buf.length ≤ buf'.length)
    (hw : window buf' s p = window buf s p)
    (hdrop : buf'.drop p = uciPduBytes pduType body ++ buf.drop p) :
    Related (turns (uciTurn ocudu buf sp) n s) (turns (uciTurn ocudu buf' sp) (n + 1) s)
      fun outs outs' ↦ outs'.flatten = outs.flatten := by
  induction k generalizing n s with
  | zero =>
      rw [uciBoundaryFrom, Option.some.injEq] at hp
      subst hp
      -- behind the new PDU the walk is that of the old message, one PDU later
      have hnew := uciTurn_unknown ocudu sp htype hbody hdrop
      have hbehind : buf.drop s = buf'.drop (s + (4 + body.length)) := by
        symm
        apply drop_past hdrop
        rw [uciPduBytes, List.length_append]
        rfl
      obtain ⟨outs, _, houts, houts', rfl⟩ := turns_suffix ocudu sp n hbehind
      exact ⟨outs, _, houts, turns_next hnew houts', rfl⟩
  | succ k ih =>
      cases n with
      | zero => cases hp
      | succ n =>
          rw [uciBoundaryFrom] at hp
          split at hp
          · next hf =>
            have hle := uciBoundaryFrom_le hp
            obtain ⟨out, hturn, hturn'⟩ := uciTurn_before ocudu sp hf hle hlen hw
            have hw' : window buf' (s + uciPduSize buf s) p = window buf (s + uciPduSize buf s) p := by
              rw [window_add, window_add, hw]
            obtain ⟨outs, outs', houts, houts', hflat⟩ := ih hp hw'
            refine ⟨_, _, turns_next hturn houts, turns_next hturn' houts', ?_⟩
            show (out :: outs').flatten = (out :: outs).flatten
            rw [List.flatten_cons, List.flatten_cons, hflat]
          · cases hp

end Isolation

/-! ## Messages -/

theorem uciBoundary_cases {buf : List UInt8} {k p : Nat} (h : uciBoundary buf k = some p) :
    14 ≤ buf.length ∧ uciBoundaryFrom buf (peek16 buf 12).toNat k 14 = some p := by
  unfold uciBoundary at h
  split at h
  · cases h
  · next hlen => exact ⟨not_lt.mp hlen, h⟩

theorem uciPduEffects_eq (ocudu : Ocudu) {buf : List UInt8} (numerology : Nat)
    (h : 14 ≤ buf.length) :
    uciPduEffects ocudu buf numerology =
      turns (uciTurn ocudu buf (wirePoint numerology buf)) (peek16 buf 12).toNat 14 :=
  pduEffects_eq h (readAt_count16 (by omega))

theorem dispatchUciIndication_pduEffects {ocudu : Ocudu} {buf : List UInt8} {numerology : Nat}
    {outs : List (List Effect)} (h : uciPduEffects ocudu buf numerology = .ok outs) :
    ∃ trace, dispatchUciIndication ocudu buf numerology = .ok trace ∧
      notifications trace = (outs.map notifications).flatten :=
  dispatchPdus_pduEffects count16_sized h

theorem wirePoint_of_take {buf buf' : List UInt8} (numerology : Nat)
    (h : buf'.take 12 = buf.take 12) : wirePoint numerology buf' = wirePoint numerology buf := by
  rw [wirePoint, wirePoint, wireSfn, wireSfn, wireSlot, wireSlot, peek16_of_take h (by decide),
    peek16_of_take h (by decide)]

/-- The message with one more PDU before byte `p`, which `num_ucis` counts. -/
def insertUciPdu (buf : List UInt8) (p : Nat) (pduType : UInt16) (body : List UInt8) : List UInt8 :=
  buf.take 12 ++ (le16 (peek16 buf 12 + 1) ++ (window buf 14 p ++
    (uciPduBytes pduType body ++ buf.drop p)))

theorem dispatchUciIndication_body (ocudu : Ocudu) (numerology : Nat) {buf buf' : List UInt8}
    {k p pEnd : Nat} (hp : uciBoundary buf k = some p) (he : uciBoundary buf (k + 1) = some pEnd)
    (hlen : buf'.length = buf.length) (htake : buf'.take (p + 4) = buf.take (p + 4))
    (hdrop : buf'.drop pEnd = buf.drop pEnd) :
    Related (uciPduEffects ocudu buf numerology) (uciPduEffects ocudu buf' numerology)
      fun outs outs' ↦ outs'.length = outs.length ∧ ∀ i, i ≠ k → outs'[i]? = outs[i]? := by
  obtain ⟨h14, hp'⟩ := uciBoundary_cases hp
  have hle := uciBoundaryFrom_le hp'
  have htake12 : buf'.take 12 = buf.take 12 := by
    have htake' := congrArg (List.take 12) htake
    rw [List.take_take, List.take_take, Nat.min_eq_left (by omega)] at htake'
    exact htake'
  rw [uciPduEffects_eq ocudu numerology h14, uciPduEffects_eq ocudu numerology (by omega),
    wirePoint_of_take numerology htake12, peek16_of_take htake (by omega)]
  exact turns_isolated ocudu _ hp' (uciBoundary_cases he).2 hlen htake hdrop

/-! ### The pieces of the longer message -/

section Insert

variable {buf : List UInt8} {p : Nat} (pduType : UInt16) (body : List UInt8)

theorem insertUciPdu_take (h : 12 ≤ buf.length) :
    (insertUciPdu buf p pduType body).take 12 = buf.take 12 := by
  have h12 : (buf.take 12).length = 12 := by
    rw [List.length_take]
    omega
  rw [insertUciPdu, List.take_append_of_le_length (le_of_eq h12.symm), List.take_take]
  rfl

theorem insertUciPdu_drop (h : 12 ≤ buf.length) :
    (insertUciPdu buf p pduType body).drop 12 = le16 (peek16 buf 12 + 1) ++
      (window buf 14 p ++ (uciPduBytes pduType body ++ buf.drop p)) := by
  have h12 : (buf.take 12).length = 12 := by
    rw [List.length_take]
    omega
  rw [insertUciPdu, List.drop_append_of_le_length (le_of_eq h12.symm),
    List.drop_of_length_le (le_of_eq h12), List.nil_append]

theorem insertUciPdu_count (h : 12 ≤ buf.length) (hcount : peek16 buf 12 < 65535) :
    (peek16 (insertUciPdu buf p pduType body) 12).toNat = (peek16 buf 12).toNat + 1 := by
  have hdrop := insertUciPdu_drop (p := p) pduType body h
  have hlen := congrArg List.length hdrop
  rw [List.length_drop, List.length_append, le16_length] at hlen
  have hread := readAt_parses (.u16 _) hdrop
  rw [readAt_u16 (by omega), Except.ok.injEq] at hread
  have hlt := UInt16.lt_iff_toNat_lt.mp hcount
  rw [hread, UInt16.toNat_add]
  exact Nat.mod_eq_of_lt (Nat.succ_lt_succ hlt)

/-- Up to `p` the PDUs stand where they stood; there the new one begins, and the others follow. -/
theorem insertUciPdu_at (h14 : 14 ≤ p) (hp : p ≤ buf.length) :
    window (insertUciPdu buf p pduType body) 14 p = window buf 14 p ∧
      (insertUciPdu buf p pduType body).drop p = uciPduBytes pduType body ++ buf.drop p := by
  have h12 : 12 ≤ buf.length := by omega
  have hd14 := @drop_past _ _ _ 12 2 (insertUciPdu_drop (p := p) pduType body h12) rfl
  have hwlen := length_window hp 14
  have hdp := drop_past hd14 hwlen
  rw [show 12 + 2 + (p - 14) = p by omega] at hdp
  refine ⟨?_, hdp⟩
  have hwin := window_eq_take (insertUciPdu buf p pduType body) 14 (p - 14)
  rw [hd14, List.take_append_of_le_length (le_of_eq hwlen.symm),
    List.take_of_length_le (le_of_eq hwlen), show 14 + (p - 14) = p by omega] at hwin
  exact hwin

end Insert

theorem dispatchUciIndication_insert (ocudu : Ocudu) (numerology : Nat) {buf : List UInt8}
    {k p : Nat} {pduType : UInt16} {body : List UInt8} (hp : uciBoundary buf k = some p)
    (htype : 2 < pduType) (hbody : 4 + body.length < 2 ^ 16) (hcount : peek16 buf 12 < 65535) :
    Related (uciPduEffects ocudu buf numerology)
      (uciPduEffects ocudu (insertUciPdu buf p pduType body) numerology)
      fun outs outs' ↦ outs'.flatten = outs.flatten := by
  obtain ⟨h14, hp'⟩ := uciBoundary_cases hp
  have hle := uciBoundaryFrom_le hp'
  have hple := uciBoundaryFrom_le_length h14 hp'
  obtain ⟨hw, hdp⟩ := insertUciPdu_at pduType body hle hple
  have hlen := congrArg List.length hdp
  rw [List.length_drop, List.length_append, List.length_drop, uciPduBytes, List.length_append,
    List.length_append, le16_length, le16_length] at hlen
  have h12 : 12 ≤ buf.length := by omega
  have hpoint := wirePoint_of_take numerology (insertUciPdu_take (p := p) pduType body h12)
  have hnum := insertUciPdu_count (p := p) pduType body h12 hcount
  rw [uciPduEffects_eq ocudu numerology h14, uciPduEffects_eq ocudu numerology (by omega), hpoint,
    hnum]
  exact turns_insert ocudu _ hp' htype hbody (by omega) hw hdp

/-- Whatever the body of one PDU holds, the notifier calls of all the others stay the same, and a
well-framed PDU of an unknown type can stand between any two PDUs without changing one. -/
theorem dispatchUciIndication_isolated (ocudu : Ocudu) (numerology : Nat) :
    (∀ (buf buf' : List UInt8) (k p pEnd : Nat), uciBoundary buf k = some p →
      uciBoundary buf (k + 1) = some pEnd → buf'.length = buf.length →
      buf'.take (p + 4) = buf.take (p + 4) → buf'.drop pEnd = buf.drop pEnd →
      ∃ trace trace' outs outs', dispatchUciIndication ocudu buf numerology = .ok trace ∧
        dispatchUciIndication ocudu buf' numerology = .ok trace' ∧
        uciPduEffects ocudu buf numerology = .ok outs ∧
        uciPduEffects ocudu buf' numerology = .ok outs' ∧
        notifications trace = (outs.map notifications).flatten ∧
        notifications trace' = (outs'.map notifications).flatten ∧
        outs'.length = outs.length ∧ ∀ i, i ≠ k → outs'[i]? = outs[i]?) ∧
    (∀ (buf : List UInt8) (k p : Nat) (pduType : UInt16) (body : List UInt8),
      uciBoundary buf k = some p → 2 < pduType → 4 + body.length < 2 ^ 16 → peek16 buf 12 < 65535 →
      ∃ trace trace', dispatchUciIndication ocudu buf numerology = .ok trace ∧
        dispatchUciIndication ocudu (insertUciPdu buf p pduType body) numerology = .ok trace' ∧
        notifications trace' = notifications trace) := by
  constructor
  · intro buf buf' k p pEnd hp he hlen htake hdrop
    obtain ⟨outs, outs', houts, houts', hsame⟩ :=
      dispatchUciIndication_body ocudu numerology hp he hlen htake hdrop
    obtain ⟨trace, htrace, hnot⟩ := dispatchUciIndication_pduEffects houts
    obtain ⟨trace', htrace', hnot'⟩ := dispatchUciIndication_pduEffects houts'
    exact ⟨trace, trace', outs, outs', htrace, htrace', houts, houts', hnot, hnot', hsame⟩
  · intro buf k p pduType body hp htype hbody hcount
    obtain ⟨outs, outs', houts, houts', hflat⟩ :=
      dispatchUciIndication_insert ocudu numerology hp htype hbody hcount
    obtain ⟨trace, htrace, hnot⟩ := dispatchUciIndication_pduEffects houts
    obtain ⟨trace', htrace', hnot'⟩ := dispatchUciIndication_pduEffects houts'
    refine ⟨trace, trace', htrace, htrace', ?_⟩
    rw [hnot, hnot', ← notifications_flatten, ← notifications_flatten, hflat]

/-- Two PUCCH PDUs, the first with the given bitmap. -/
def uciPucchPair (pduBitmap : UInt8) : List UInt8 :=
  List.replicate 8 0 ++ le16 5 ++ le16 3 ++ le16 2 ++
    uciPduBytes 1 (pduBitmap :: List.replicate 12 0) ++ uciPduBytes 1 (List.replicate 13 0)

/-- The first PDU flags sections that it has no room for; the second is decoded as before. -/
theorem dispatchUciIndication_isolated_pair :
    (∃ outs outs',
      uciPduEffects ⟨1, 4, 2, fun _ _ ↦ 0, 64, List.concat⟩ (uciPucchPair 0) 1 = .ok outs ∧
      uciPduEffects ⟨1, 4, 2, fun _ _ ↦ 0, 64, List.concat⟩ (uciPucchPair 0xFF) 1 = .ok outs' ∧
      outs'[1]? = outs[1]?) ∧
    ∃ trace trace',
      dispatchUciIndication ⟨1, 4, 2, fun _ _ ↦ 0, 64, List.concat⟩ (uciPucchPair 0) 1 = .ok trace ∧
      dispatchUciIndication ⟨1, 4, 2, fun _ _ ↦ 0, 64, List.concat⟩
        (insertUciPdu (uciPucchPair 0) 31 9 [1, 2, 3]) 1 = .ok trace' ∧
      notifications trace' = notifications trace := by
  have h := dispatchUciIndication_isolated ⟨1, 4, 2, fun _ _ ↦ 0, 64, List.concat⟩ 1
  constructor
  · obtain ⟨_, _, outs, outs', -, -, houts, houts', -, -, -, hsame⟩ :=
      h.1 (uciPucchPair 0) (uciPucchPair 0xFF) 0 14 31 (by decide) (by decide) rfl rfl rfl
    exact ⟨outs, outs', houts, houts', hsame 1 (by decide)⟩
  · exact h.2 (uciPucchPair 0) 1 31 9 [1, 2, 3] (by decide) (by decide) (by decide) (by decide)

end AerialBridge
