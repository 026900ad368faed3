import AerialBridge.Report.Characterize
import AerialBridge.Text.Lines

/-!
# Runtime health

The report passes a run whose logs count no trouble.  Error indications that L1 sent while it shut
down are taken off their count: never more than there are, and each only for what stands on its line
and on the lines around it.
-/

namespace AerialBridge

open Text

namespace IntegrationLogs

variable (logs : IntegrationLogs)

def slotJumps : Nat := countSubstring logs.gnbLog "Unexpected jump in slot indications"
def dlQueueFull : Nat := countSubstring logs.gnbLog "DL task queue is full"
def aggExhaustion : Nat := countSubstring logs.l1Log "No available Aggr"

def allClean : Bool :=
  logs.slotJumps == 0 && logs.dlQueueFull == 0 && logs.forcedNack == 0 && logs.uciDiscard == 0 &&
    logs.runtimeErrInd == 0 && logs.aggExhaustion == 0 && logs.crcMismatch == 0 &&
    logs.uciMismatch == 0

/-- What must not stand in the log of the gNB. -/
def gnbTroubles : List String :=
  ["Unexpected jump in slot indications", "DL task queue is full", "Forcing \"NACK\"",
    "Discarding UCI indication PDU"]

/-- What must not stand in what the gNB prints. -/
def stdoutTroubles : List String := ["Failed to set CRC value", "Failed to set UCI value"]

end IntegrationLogs

def sendErrInd : List Char := "Send Err.ind".toList

/-- A line reports a request that L1 dropped for its slot, behind the line of the drop and shortly
before a line of the shutdown. -/
structure ShutdownTail (previous : Option (List Char)) (line : List Char)
    (tail : List (List Char)) :
    Prop where
  request : "msg_id=0x81".toList <:+: line
  code : "err_code=0x03".toList <:+: line
  dropped : ∃ p, previous = some p ∧ "check_sfn_slot: SFN mismatch".toList <:+: p ∧
    "msg_id=0x81 dropped".toList <:+: p
  shutdown : ∃ t ∈ tail, ∃ marker ∈ shutdownMarkers, marker.toList <:+: t

theorem isShutdownTail_iff {previous : Option (List Char)} {line : List Char}
    {tail : List (List Char)} :
    isShutdownTail previous line tail = true ↔
      sendErrInd <:+: line ∧ ShutdownTail previous line tail := by
  simp only [isShutdownTail, contains, Bool.and_eq_true, occursIn_iff, List.any_eq_true]
  constructor
  · rintro ⟨⟨⟨⟨hind, hrequest⟩, hcode⟩, hdropped⟩, hshutdown⟩
    cases previous with
    | none => cases hdropped
    | some p =>
      simp only [Option.elim_some, Bool.and_eq_true, occursIn_iff] at hdropped
      exact ⟨hind, hrequest, hcode, ⟨p, rfl, hdropped⟩, hshutdown⟩
  · rintro ⟨hind, hrequest, hcode, ⟨p, rfl, hdropped⟩, hshutdown⟩
    simp only [Option.elim_some, Bool.and_eq_true, occursIn_iff]
    exact ⟨⟨⟨⟨hind, hrequest⟩, hcode⟩, hdropped⟩, hshutdown⟩

/-- Every error indication has a line of its own, and is one of the shutdown. -/
def Excused (previous : Option (List Char)) (lines : List (List Char)) : Prop :=
  ∀ before line after, lines = before ++ line :: after → sendErrInd <:+: line →
    countFrom sendErrInd 0 line = 1 ∧
      ShutdownTail (previous.toList ++ before).getLast? line (after.take 12)

section

variable (previous : Option (List Char)) (line : List Char) (rest : List (List Char))

theorem isShutdownTail_le :
    (if isShutdownTail previous line (rest.take 12) then 1 else 0) ≤ countFrom sendErrInd 0 line := by
  by_cases h : isShutdownTail previous line (rest.take 12) = true
  · rw [if_pos h]
    exact (countFrom_pos (by decide)).mpr (isShutdownTail_iff.mp h).1
  · rw [if_neg h]
    exact Nat.zero_le _

theorem isShutdownTail_eq_iff :
    (if isShutdownTail previous line (rest.take 12) then 1 else 0) = countFrom sendErrInd 0 line ↔
      (sendErrInd <:+: line → countFrom sendErrInd 0 line = 1 ∧
        ShutdownTail previous line (rest.take 12)) := by
  have hpos : 0 < countFrom sendErrInd 0 line ↔ sendErrInd <:+: line := countFrom_pos (by decide)
  by_cases hind : sendErrInd <:+: line
  · have htail : isShutdownTail previous line (rest.take 12) = true ↔
        ShutdownTail previous line (rest.take 12) :=
      isShutdownTail_iff.trans (and_iff_right hind)
    have hcount : 0 < countFrom sendErrInd 0 line := hpos.mpr hind
    by_cases h : isShutdownTail previous line (rest.take 12) = true
    · rw [if_pos h]
      exact ⟨fun hone _ ↦ ⟨hone.symm, htail.mp h⟩, fun hall ↦ (hall hind).1.symm⟩
    · rw [if_neg h]
      exact iff_of_false (by omega) fun hall ↦ h (htail.mpr (hall hind).2)
  · have htail : ¬ isShutdownTail previous line (rest.take 12) = true := fun h ↦
      hind (isShutdownTail_iff.mp h).1
    have hzero : countFrom sendErrInd 0 line = 0 := by
      have := mt hpos.mp hind
      omega
    rw [if_neg htail, hzero]
    exact iff_of_true rfl fun h ↦ absurd h hind

/-- The first line and the others are excused one by one. -/
theorem excused_cons :
    Excused previous (line :: rest) ↔
      (sendErrInd <:+: line → countFrom sendErrInd 0 line = 1 ∧
        ShutdownTail previous line (rest.take 12)) ∧ Excused (some line) rest := by
  have hprevious : (previous.toList ++ []).getLast? = previous := by
    cases previous <;> rfl
  have hlater (before : List (List Char)) : (previous.toList ++ line :: before).getLast? =
      ((some line).toList ++ before).getLast? := by
    rw [List.getLast?_append_of_ne_nil _ (List.cons_ne_nil _ _)]
    rfl
  constructor
  · intro h
    refine ⟨fun hind ↦ ?_, fun before line' after hsplit hind ↦ ?_⟩
    · have hfirst := h [] line rest rfl hind
      rwa [hprevious] at hfirst
    · rw [← hlater]
      exact h (line :: before) line' after (congrArg (List.cons line) hsplit) hind
  · rintro ⟨hfirst, hrest⟩ before line' after hsplit hind
    cases before with
    | nil =>
      cases hsplit
      rw [hprevious]
      exact hfirst hind
    | cons _ before =>
      cases hsplit
      rw [hlater]
      exact hrest before line' after rfl hind

end

/-- What is taken off is never more than is there, and it is all exactly when all is excused. -/
theorem countShutdownTailFrom_spec (previous : Option (List Char)) (lines : List (List Char)) :
    countShutdownTailFrom previous lines ≤ (lines.map (countFrom sendErrInd 0)).sum ∧
      (countShutdownTailFrom previous lines = (lines.map (countFrom sendErrInd 0)).sum ↔
        Excused previous lines) := by
  induction lines generalizing previous with
  | nil =>
    refine ⟨Nat.le_refl 0, iff_of_true rfl fun before line after hsplit ↦ ?_⟩
    exact absurd hsplit.symm (by simp)
  | cons line rest ih =>
    obtain ⟨hle, heq⟩ := ih (some line)
    have hline := isShutdownTail_le previous line rest
    rw [countShutdownTailFrom, List.map_cons, List.sum_cons, excused_cons,
      ← isShutdownTail_eq_iff, ← heq]
    -- two counts that are each at most theirs have the same sum only when both are the same
    omega

section

variable (logs : IntegrationLogs)

theorem errInd_lines :
    logs.errInd = ((splitlines logs.l1Log).map (countFrom sendErrInd 0)).sum := by
  have hall : (sendErrInd.all fun c ↦ !isLineBreak c) = true := by decide
  have hbreak : ∀ c ∈ sendErrInd, isLineBreak c = false := by
    intro c hc
    exact Bool.not_eq_true' _ ▸ List.all_eq_true.mp hall c hc
  exact countFrom_splitlines (by decide) hbreak logs.l1Log

theorem runtimeErrInd_nonneg : 0 ≤ logs.runtimeErrInd := by
  have h := (countShutdownTailFrom_spec none (splitlines logs.l1Log)).1
  rw [← errInd_lines] at h
  show 0 ≤ (logs.errInd : Int) - countShutdownTailFrom none (splitlines logs.l1Log)
  omega

theorem runtimeErrInd_eq_zero : logs.runtimeErrInd = 0 ↔ Excused none (splitlines logs.l1Log) := by
  rw [← (countShutdownTailFrom_spec none (splitlines logs.l1Log)).2, ← errInd_lines]
  show (logs.errInd : Int) - countShutdownTailFrom none (splitlines logs.l1Log) = 0 ↔ _
  omega

end

theorem countSubstring_eq_zero {t : List Char} {pattern : String} (hne : pattern.toList ≠ []) :
    countSubstring t pattern = 0 ↔ ¬ pattern.toList <:+: t := by
  rw [← countFrom_pos hne, Nat.pos_iff_ne_zero, not_not]
  rfl

/-- The runtime health of any logs: errors are never counted below zero, and the report passes the
run exactly when no trouble stands in its log and every error indication, alone on its line, is one
of the shutdown. -/
theorem allClean_iff (logs : IntegrationLogs) :
    0 ≤ logs.runtimeErrInd ∧
      (logs.allClean = true ↔
        (∀ trouble ∈ IntegrationLogs.gnbTroubles, ¬ trouble.toList <:+: logs.gnbLog) ∧
        (∀ trouble ∈ IntegrationLogs.stdoutTroubles, ¬ trouble.toList <:+: logs.gnbStdout) ∧
        ¬ "No available Aggr".toList <:+: logs.l1Log ∧
        ∀ before line after, splitlines logs.l1Log = before ++ line :: after →
          "Send Err.ind".toList <:+: line → countSubstring line "Send Err.ind" = 1 ∧
            ShutdownTail before.getLast? line (after.take 12)) := by
  refine ⟨runtimeErrInd_nonneg logs, ?_⟩
  have hexcused := runtimeErrInd_eq_zero logs
  have hjumps : logs.slotJumps = 0 ↔ _ := countSubstring_eq_zero (by decide)
  have hqueue : logs.dlQueueFull = 0 ↔ _ := countSubstring_eq_zero (by decide)
  have hnack : logs.forcedNack = 0 ↔ _ := countSubstring_eq_zero (by decide)
  have huci : logs.uciDiscard = 0 ↔ _ := countSubstring_eq_zero (by decide)
  have haggr : logs.aggExhaustion = 0 ↔ _ := countSubstring_eq_zero (by decide)
  have hcrc : logs.crcMismatch = 0 ↔ _ := countSubstring_eq_zero (by decide)
  have hmismatch : logs.uciMismatch = 0 ↔ _ := countSubstring_eq_zero (by decide)
  simp only [IntegrationLogs.allClean, Bool.and_eq_true, beq_iff_eq, hexcused, hjumps, hqueue, hnack,
    huci, haggr, hcrc, hmismatch, IntegrationLogs.gnbTroubles, IntegrationLogs.stdoutTroubles,
    List.mem_cons, List.not_mem_nil, or_false, forall_eq_or_imp, forall_eq]
  constructor
  · rintro ⟨⟨⟨⟨⟨⟨⟨h1, h2⟩, h3⟩, h4⟩, herr⟩, h5⟩, h6⟩, h7⟩
    exact ⟨⟨h1, h2, h3, h4⟩, ⟨h6, h7⟩, h5, herr⟩
  · rintro ⟨⟨h1, h2, h3, h4⟩, ⟨h6, h7⟩, h5, herr⟩
    exact ⟨⟨⟨⟨⟨⟨⟨h1, h2⟩, h3⟩, h4⟩, herr⟩, h5⟩, h6⟩, h7⟩

end AerialBridge
