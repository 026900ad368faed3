import AerialBridge.Report.Characterize

/-!
# Channel signoff and the bridge's counters

The signoff of a channel ought to follow the bridge's counter of its messages.  It does for every
channel but PRACH, whose mark looks for a line that the bridge does not print.
-/

namespace AerialBridge

open Text

/-- The summary counter that a channel's signoff is about. -/
def SignoffChannel.counter? : SignoffChannel → Option Metric
  | pdsch => some .txDataReqs
  | pusch => some .ulPuschPdus
  | pucchF2F3F4 => some .uciPucch234
  | prach => some .rachTotal
  | srs => some .srsTotal
  | _ => none

/-- Every channel whose counter is positive is marked as passed. -/
def IntegrationLogs.SignoffFollows (logs : IntegrationLogs) (m : BridgeRuntimeMetrics) : Prop :=
  ∀ c k, SignoffChannel.counter? c = some k → 0 < m k → logs.signoff c = "PASS"

/-- A log with some lines, then a summary line, then any text. -/
def stdoutWith (before : List (List Char)) (m : BridgeRuntimeMetrics) (after : List Char) :
    List Char :=
  unlines before ++ ((BridgeLine.summary m).text ++ '\n' :: after)

/-- The lines hold no summary. -/
def NoSummary (before : List (List Char)) : Prop :=
  ∀ l ∈ before, '\n' ∉ l ∧ ¬ summaryRe.tag <:+: l

theorem search_stdoutWith {before : List (List Char)} (h : NoSummary before)
    (m : BridgeRuntimeMetrics) (after : List Char) :
    summaryRe.search (stdoutWith before m after) = some [("body", summaryBody m)] := by
  have hbefore : before.flatMap summaryRe.finditer = [] := List.flatMap_eq_nil_iff.mpr
    fun l hl ↦ LineRegex.finditer_of_not_infix (h l hl).2
  rw [LineRegex.search, stdoutWith, summaryRe.finditer_unlines_append fun l hl ↦ (h l hl).1,
    summaryRe.finditer_line (BridgeLine.newline_not_mem_text _), hbefore, summaryRe_summary]
  rfl

theorem summarises_stdoutWith {before : List (List Char)} (h : NoSummary before)
    (m : BridgeRuntimeMetrics) (after l1Log gnbLog : List Char) :
    IntegrationLogs.Summarises ⟨l1Log, gnbLog, stdoutWith before m after⟩ m := by
  apply IntegrationLogs.summarises_of_entries
  show (parseSummary (stdoutWith before m after)).entries = counterEntries m
  rw [parseSummary, search_stdoutWith h]
  exact foldl_counters m

theorem observedMark_pass {observed configured : Bool} :
    observedMark observed configured = "PASS" ↔ observed = true := by
  cases observed <;> cases configured <;> decide

theorem rachInd_pos (logs : IntegrationLogs) :
    0 < logs.rachInd ↔ "RACH.indication".toList <:+: logs.gnbStdout :=
  countFrom_pos (by decide)

section Summarised

variable {logs : IntegrationLogs} {m : BridgeRuntimeMetrics} (hsum : logs.Summarises m)

include hsum

/-- Every channel but PRACH follows its counter. -/
theorem signoff_pass {c : SignoffChannel} {k : Metric} (hc : c.counter? = some k)
    (hprach : c ≠ .prach) (hk : 0 < m k) : logs.signoff c = "PASS" := by
  have hpos : 0 < ((m k).toNat : Int) := by
    have hnat : 0 < (m k).toNat := UInt64.lt_iff_toNat_lt.mp hk
    omega
  cases c with
  | pdsch =>
    cases hc
    apply observedMark_pass.mpr
    rw [IntegrationLogs.pdschObserved, hsum.txDataReqs, decide_eq_true hpos]
    simp
  | pusch =>
    cases hc
    apply observedMark_pass.mpr
    rw [hsum.bridgeUlPuschPdus]
    exact decide_eq_true hpos
  | pucchF2F3F4 =>
    cases hc
    apply observedMark_pass.mpr
    rw [hsum.uciPucch234Total]
    exact decide_eq_true hpos
  | srs =>
    cases hc
    apply observedMark_pass.mpr
    rw [hsum.srsInd]
    exact decide_eq_true hpos
  | prach => exact absurd rfl hprach
  | _ => cases hc

/-- The signoff follows the counters unless RACH indications were counted that no line names. -/
theorem signoffFollows_iff :
    logs.SignoffFollows m ↔
      m .rachTotal = 0 ∨ "RACH.indication".toList <:+: logs.gnbStdout := by
  have hprach : logs.signoff .prach = "PASS" ↔ "RACH.indication".toList <:+: logs.gnbStdout := by
    rw [IntegrationLogs.signoff, observedMark_pass, decide_eq_true_iff]
    exact rachInd_pos logs
  constructor
  · intro hfollows
    by_cases hzero : m .rachTotal = 0
    · exact Or.inl hzero
    · have hpos : 0 < m .rachTotal := UInt64.pos_iff_ne_zero.mpr hzero
      exact Or.inr (hprach.mp (hfollows .prach .rachTotal rfl hpos))
  · intro hcond c k hc hk
    by_cases hp : c = .prach
    · subst hp
      cases hc
      cases hcond with
      | inl hzero =>
        rw [hzero] at hk
        exact absurd hk (by decide)
      | inr hin => exact hprach.mpr hin
    · exact signoff_pass hsum hc hp hk

end Summarised

/-! ## Logs of the bridge alone -/

/-- No line of the bridge names a RACH indication. -/
theorem rach_not_infix_text (l : BridgeLine) : ¬ "RACH.indication".toList <:+: l.text := by
  have hlacks : l.lacks 'R' = true ∨ l.lacks 'H' = true := by
    cases l with
    | crc => exact Or.inr rfl
    | ulSerialize type => cases type <;> exact Or.inl rfl
    | _ => exact Or.inl rfl
  intro h
  cases hlacks with
  | inl hR => exact BridgeLine.not_mem_text (by decide) hR (h.subset (by decide))
  | inr hH => exact BridgeLine.not_mem_text (by decide) hH (h.subset (by decide))

theorem rach_not_infix_logText (lines : List BridgeLine) :
    ¬ "RACH.indication".toList <:+: logText lines := by
  induction lines with
  | nil => decide
  | cons l lines ih =>
    show ¬ "RACH.indication".toList <:+: unlines (l.text :: lines.map BridgeLine.text)
    rw [unlines_cons, infix_line (by decide) (by decide), not_or]
    exact ⟨rach_not_infix_text l, ih⟩

/-- In a log of the bridge's lines alone, the signoff follows the counters exactly when no RACH
indication was counted. -/
theorem signoffFollows_logText_iff (l1Log gnbLog : List Char) {lines : List BridgeLine}
    {m : BridgeRuntimeMetrics} (h : lines.findSome? BridgeLine.counters? = some m) :
    IntegrationLogs.SignoffFollows ⟨l1Log, gnbLog, logText lines⟩ m ↔ m .rachTotal = 0 := by
  have hsum : IntegrationLogs.Summarises ⟨l1Log, gnbLog, logText lines⟩ m :=
    IntegrationLogs.summarises_of_entries (logText_counters h)
  exact (signoffFollows_iff hsum).trans (or_iff_left (rach_not_infix_logText lines))

/-! ## The signoff -/

/-- The signoff follows the counters of the first summary exactly when no RACH indication was
counted, or some line of the log names one; in a log of the bridge's lines alone none does. -/
theorem signoff_follows_iff (l1Log gnbLog : List Char) (before : List (List Char))
    (m : BridgeRuntimeMetrics) (after : List Char) (h : NoSummary before) :
    (IntegrationLogs.SignoffFollows ⟨l1Log, gnbLog, stdoutWith before m after⟩ m ↔
      m .rachTotal = 0 ∨ "RACH.indication".toList <:+: stdoutWith before m after) ∧
    ∀ lines : List BridgeLine, lines.findSome? BridgeLine.counters? = some m →
      (IntegrationLogs.SignoffFollows ⟨l1Log, gnbLog, logText lines⟩ m ↔ m .rachTotal = 0) :=
  ⟨signoffFollows_iff (summarises_stdoutWith h m after l1Log gnbLog),
    fun _ hsummary ↦ signoffFollows_logText_iff l1Log gnbLog hsummary⟩

/-- One RACH indication and nothing else. -/
def oneRach : BridgeRuntimeMetrics := fun k ↦ if k = .rachTotal then 1 else 0

def namesRach : List Char := "gnb: RACH.indication\ngnb: stopped\n".toList

/-- A line in front of the summary, and behind it one that names a RACH indication. -/
theorem signoff_follows_iff_named :
    IntegrationLogs.SignoffFollows
      ⟨[], [], stdoutWith ["gnb: cell 1 is active".toList] oneRach namesRach⟩ oneRach := by
  have hbefore : NoSummary ["gnb: cell 1 is active".toList] := by
    intro l hl
    rw [List.mem_singleton.mp hl]
    exact ⟨by decide, by decide⟩
  have hin : "RACH.indication".toList <:+: namesRach := by decide
  apply (signoff_follows_iff [] [] _ oneRach namesRach hbefore).1.mpr
  exact .inr (hin.trans (((List.suffix_cons '\n' namesRach).trans (List.suffix_append _ _)).trans
    (List.suffix_append _ _)).isInfix)

/-- A summary that counts one RACH indication leaves PRACH unobserved. -/
theorem signoff_follows_fails :
    IntegrationLogs.signoff ⟨[], [], stdoutWith [] oneRach []⟩ .prach = "NOT OBSERVED" ∧
      ¬ IntegrationLogs.SignoffFollows ⟨[], [], stdoutWith [] oneRach []⟩ oneRach := by
  have hmark : IntegrationLogs.signoff ⟨[], [], stdoutWith [] oneRach []⟩ .prach = "NOT OBSERVED" :=
    by decide +kernel
  refine ⟨hmark, fun h ↦ ?_⟩
  have hpass := h .prach .rachTotal rfl (by decide)
  rw [hmark] at hpass
  exact absurd hpass (by decide)

end AerialBridge
