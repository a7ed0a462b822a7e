import TagAudit.Proofs.Script.Scan

/-!
# The order of the rules

A scan checks a script against one rule after another. Every rule reports once at most, the one for
timers once for each kind of timers, so the findings stand in the order of the rules. Code that is
made from text is reported by exactly one of two rules: the first one of all if the script also
reaches the network, a late one if not.
-/

namespace TagAudit.Script

open Failure

/-- The kinds of findings in the order of the rules; there are two kinds of timers. -/
def ruleOrder : List FindingKind :=
  [.evalNetwork, .htmlInjection, .personalData, .tightTimer, .tightTimer, .wildcardMessage,
    .pageviewDom, .unguardedBlock, .dynamicCode, .documentWrite, .insecureRequest]

/-- The kinds of timers in the order of their rules. -/
def timers : List String := ["setInterval", "setTimeout"]

/-- Has a timer of a kind too short an interval? -/
def hasTightTimer (config : Config) (script : List Char) (timer : String) : Bool :=
  (timerIntervals script timer).any (isTight config.minTimerInterval)

/-- Is the finding about a kind of timers? -/
def Finding.IsAboutTimer (config : Config) (finding : Finding) (timer : String) : Prop :=
  finding.kind = .tightTimer ∧ ∃ digits : List Char, finding.message =
    s!"{timer} with a {String.ofList digits}ms interval (below {config.minTimerInterval}ms)"

/-- The rules in their order, each with what the script has to do with it. -/
def verdicts (config : Config) (firesOn : String) (script : List Char) :
    List (FindingKind × Bool) :=
  let broken := breaks config firesOn script
  [(.evalNetwork, broken .evalNetwork), (.htmlInjection, broken .htmlInjection),
    (.personalData, broken .personalData),
    (.tightTimer, hasTightTimer config script "setInterval"),
    (.tightTimer, hasTightTimer config script "setTimeout"),
    (.wildcardMessage, broken .wildcardMessage), (.pageviewDom, broken .pageviewDom),
    (.unguardedBlock, broken .unguardedBlock), (.dynamicCode, broken .dynamicCode),
    (.documentWrite, broken .documentWrite), (.insecureRequest, broken .insecureRequest)]

/-- The kinds of the broken rules. -/
def brokenKinds (rules : List (FindingKind × Bool)) : List FindingKind :=
  rules.flatMap fun (kind, broken) => if broken then [kind] else []

theorem brokenKinds_sublist (rules : List (FindingKind × Bool)) :
    (brokenKinds rules).Sublist (rules.map (·.1)) := by
  induction rules with
  | nil => exact .slnil
  | cons rule rest ih =>
    obtain ⟨kind, broken⟩ := rule
    cases broken with
    | false => exact ih.cons kind
    | true => exact ih.cons_cons kind

theorem countP_brokenKinds (p : FindingKind → Bool) (rules : List (FindingKind × Bool)) :
    (brokenKinds rules).countP p = rules.countP fun (kind, broken) => broken && p kind := by
  induction rules with
  | nil => rfl
  | cons rule rest ih =>
    obtain ⟨kind, broken⟩ := rule
    rw [brokenKinds, List.flatMap_cons, List.countP_append, ← brokenKinds, ih]
    cases broken <;> simp [List.countP_cons, Nat.add_comm]

theorem kinds_when (applies : Bool) (kind : FindingKind) (message : String) :
    (when applies kind message).map (·.kind) = if applies then [kind] else [] := by
  cases applies <;> rfl

theorem kinds_personalDataFindings (script : List Char) :
    (personalDataFindings script).map (·.kind) =
      if (outboundUrls script).any showsPersonalData then [.personalData] else [] := by
  rw [personalDataFindings, ← List.isSome_find?]
  cases (outboundUrls script).find? showsPersonalData <;> rfl

theorem kinds_insecureFindings (script : List Char) :
    (insecureFindings script).map (·.kind) =
      if insecureUrl.occursIn script then [.insecureRequest] else [] := by
  rw [insecureFindings, Pattern.occursIn]
  cases insecureUrl.find? script <;> rfl

/-- A tight timer is reported in the words for its kind. -/
theorem isAboutTimer_of_tightTimer? {config : Config} {timer : String}
    {intervals : List (List Char)} {finding : Finding}
    (h : tightTimer? config.minTimerInterval timer intervals = .ok (some finding)) :
    finding.IsAboutTimer config timer := by
  induction intervals with
  | nil => cases h
  | cons interval rest ih =>
    rw [tightTimer?] at h
    split at h
    next => exact ih h
    next digits _ =>
      split at h
      next => cases h
      next =>
        split at h
        next =>
          cases h
          exact ⟨rfl, digits, rfl⟩
        next => exact ih h

/-- A kind of timers with too short an interval is reported once, others are not. -/
theorem forall₂_timerFindings {config : Config} {script : List Char} {timer : String}
    {findings : List Finding} (h : timerFindings config script timer = .ok findings) :
    List.Forall₂ (Finding.IsAboutTimer config) findings
      (if hasTightTimer config script timer then [timer] else []) := by
  obtain ⟨found, hfound, rfl⟩ := map_eq_ok_iff.mp h
  have hkind := kinds_tightTimer? hfound
  rw [hasTightTimer, timerIntervals]
  cases found with
  | none =>
    split at hkind
    · cases hkind
    · rw [if_neg ‹_›]
      exact .nil
  | some finding =>
    split at hkind
    · rw [if_pos ‹_›]
      exact .cons (isAboutTimer_of_tightTimer? hfound) .nil
    · cases hkind

theorem kinds_timerFindings {config : Config} {script : List Char} {timer : String}
    {findings : List Finding} (h : timerFindings config script timer = .ok findings) :
    findings.map (·.kind) = if hasTightTimer config script timer then [.tightTimer] else [] := by
  have hfindings := forall₂_timerFindings h
  split at hfindings
  · obtain ⟨finding, _, hfinding, hrest, rfl⟩ := List.forall₂_cons_right_iff.mp hfindings
    rw [List.forall₂_nil_right_iff.mp hrest, if_pos ‹_›, List.map_singleton, hfinding.1]
  · rw [List.forall₂_nil_right_iff.mp hfindings, if_neg ‹_›, List.map_nil]

section Scan

variable {config : Config} {firesOn : String} {script : List Char} {findings : List Finding}
  (h : scan config firesOn script = .ok findings)

include h

/-- A scan reports the broken rules, one after another. -/
theorem kinds_scan : findings.map (·.kind) = brokenKinds (verdicts config firesOn script) := by
  have hdynamic : ∀ p q : Bool, (p && !(p && q)) = (p && !q) := by decide
  rw [scan] at h
  obtain ⟨intervals, hintervals, h⟩ := bind_eq_ok_iff.mp h
  obtain ⟨timeouts, htimeouts, h⟩ := bind_eq_ok_iff.mp h
  cases h
  simp only [List.map_append, kinds_when, kinds_personalDataFindings, kinds_insecureFindings,
    kinds_timerFindings hintervals, kinds_timerFindings htimeouts, hdynamic, brokenKinds, verdicts,
    breaks, List.flatMap_cons, List.flatMap_nil, List.append_nil, List.append_assoc]

/-- The tight timers are reported kind by kind. -/
theorem forall₂_scan_timers : List.Forall₂ (Finding.IsAboutTimer config)
    (findings.filter (·.kind == .tightTimer)) (timers.filter (hasTightTimer config script)) := by
  have hother : ∀ {piece : List Finding}, .tightTimer ∉ piece.map (·.kind) →
      piece.filter (·.kind == .tightTimer) = [] := by
    intro piece hpiece
    refine List.filter_eq_nil_iff.mpr fun finding hfinding hkind => hpiece ?_
    exact beq_iff_eq.mp hkind ▸ List.mem_map_of_mem hfinding
  have hwhen : ∀ applies kind message, kind ≠ .tightTimer →
      (when applies kind message).filter (·.kind == .tightTimer) = [] := by
    intro applies kind message hne
    exact hother fun hmem => hne (mem_kinds_when.mp hmem).2.symm
  have hpersonal : (personalDataFindings script).filter (·.kind == .tightTimer) = [] :=
    hother (by simp [mem_kinds_personalDataFindings])
  have hinsecure : (insecureFindings script).filter (·.kind == .tightTimer) = [] :=
    hother (by simp [mem_kinds_insecureFindings])
  have htimer : ∀ {timer piece}, timerFindings config script timer = .ok piece →
      piece.filter (·.kind == .tightTimer) = piece := by
    intro timer piece hpiece
    refine List.filter_eq_self.mpr fun finding hfinding => beq_iff_eq.mpr ?_
    exact ((mem_kinds_timerFindings hpiece).mp (List.mem_map_of_mem hfinding)).2
  have htimers : timers.filter (hasTightTimer config script) =
      (if hasTightTimer config script "setInterval" then ["setInterval"] else []) ++
        (if hasTightTimer config script "setTimeout" then ["setTimeout"] else []) := by
    simp only [timers, List.filter_cons, List.filter_nil]
    split <;> split <;> rfl
  rw [scan] at h
  obtain ⟨intervals, hintervals, h⟩ := bind_eq_ok_iff.mp h
  obtain ⟨timeouts, htimeouts, h⟩ := bind_eq_ok_iff.mp h
  cases h
  simp (disch := decide) only [List.filter_append, hwhen, hpersonal, hinsecure,
    htimer hintervals, htimer htimeouts, List.append_nil, List.nil_append, htimers]
  exact List.rel_append (forall₂_timerFindings hintervals) (forall₂_timerFindings htimeouts)

/-- Code made from text is reported once. -/
theorem countP_scan_dynamic : findings.countP
    (fun finding => finding.kind == .evalNetwork || finding.kind == .dynamicCode) =
      if makesCode script then 1 else 0 := by
  have hkinds : findings.countP
      (fun finding => finding.kind == .evalNetwork || finding.kind == .dynamicCode) =
      (findings.map (·.kind)).countP fun kind => kind == .evalNetwork || kind == .dynamicCode := by
    rw [List.countP_map]
    rfl
  rw [hkinds, kinds_scan h, countP_brokenKinds]
  cases hcode : makesCode script <;> cases hnetwork : networkCall.occursIn script <;>
    simp [verdicts, breaks, hcode, hnetwork]

end Scan

/-- The findings in a script as the order of the rules wants them. -/
structure InRuleOrder (config : Config) (script : List Char) (findings : List Finding) :
    Prop where
  kinds : (findings.map (·.kind)).Sublist ruleOrder
  /-- Only tight timers are reported twice. -/
  count_le : ∀ kind, (findings.map (·.kind)).count kind ≤ if kind = .tightTimer then 2 else 1
  /-- One finding for each kind of timers with a short interval, in their order. -/
  timers : List.Forall₂ (Finding.IsAboutTimer config) (findings.filter (·.kind == .tightTimer))
    (timers.filter (hasTightTimer config script))
  /-- Code made from text is reported by one of two rules, and nothing else is. -/
  dynamic : findings.countP
    (fun finding => finding.kind == .evalNetwork || finding.kind == .dynamicCode) =
      if makesCode script then 1 else 0

/-- The findings of a scan are in the order of the rules. -/
theorem inRuleOrder_scan {config : Config} {firesOn : String} {script : List Char}
    {findings : List Finding} (h : scan config firesOn script = .ok findings) :
    InRuleOrder config script findings := by
  have hkinds : (findings.map (·.kind)).Sublist ruleOrder := by
    rw [kinds_scan h]
    exact brokenKinds_sublist _
  have hcount : ∀ kind, ruleOrder.count kind ≤ if kind = .tightTimer then 2 else 1 := by
    intro kind
    cases kind <;> decide
  exact ⟨hkinds, fun kind => Nat.le_trans (hkinds.count_le kind) (hcount kind),
    forall₂_scan_timers h, countP_scan_dynamic h⟩

end TagAudit.Script
