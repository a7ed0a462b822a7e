import TagAudit.Proofs.Failure
import TagAudit.Script.Finding

/-!
# What a scan of a script reports

A scan gives a result exactly if the intervals of the timers can be read, and then a finding of a
kind exactly if the script breaks the rule for that kind. So what is said about findings comes down
to one rule and to the timers.
-/

namespace TagAudit.Script

open Failure

/-- The second arguments of the calls of a timer. -/
def timerIntervals (script : List Char) (timer : String) : List (List Char) :=
  (callArguments (named timer) script).filterMap (·[1]?)

/-- Does an interval have too many digits to be read? -/
def isUnreadable (interval : List Char) : Bool :=
  (integerLiteral? interval).any (Json.maxIntegerDigits < ·.length)

/-- Is an interval a number below the limit? -/
def isTight (limit : Nat) (interval : List Char) : Bool :=
  (integerLiteral? interval).any fun digits => (Text.numeral? 0 digits).any (· < limit)

/-- The intervals of every timer can be read, so far as they are. -/
def TimersReadable (config : Config) (script : List Char) : Prop :=
  ∀ timer ∈ ["setInterval", "setTimeout"], SoundUntil (isUnreadable · = true)
    (isTight config.minTimerInterval · = true) (timerIntervals script timer)

/-- A search for the first tight interval succeeds exactly if it meets none that cannot be read. -/
theorem isOk_tightTimer? (limit : Nat) (timer : String) (intervals : List (List Char)) :
    (tightTimer? limit timer intervals).isOk = true ↔
      SoundUntil (isUnreadable · = true) (isTight limit · = true) intervals := by
  induction intervals with
  | nil => simp [tightTimer?, soundUntil_nil]
  | cons interval rest ih =>
    rw [soundUntil_cons_iff, ← ih, tightTimer?, isUnreadable, isTight]
    cases integerLiteral? interval with
    | none => simp
    | some digits =>
      by_cases hl : Json.maxIntegerDigits < digits.length
      · simp [hl]
      · cases ht : (Text.numeral? 0 digits).any (· < limit) <;> simp [hl, ht]

/-- A search finds a tight interval if there is one, and reports it as such. -/
theorem kinds_tightTimer? {limit : Nat} {timer : String} {intervals : List (List Char)}
    {found : Option Finding} (h : tightTimer? limit timer intervals = .ok found) :
    found.map (·.kind) = if intervals.any (isTight limit) then some .tightTimer else none := by
  induction intervals with
  | nil =>
    cases h
    rfl
  | cons interval rest ih =>
    rw [tightTimer?] at h
    rw [List.any_cons, isTight]
    cases hdigits : integerLiteral? interval with
    | none =>
      rw [hdigits] at h
      simpa using ih h
    | some digits =>
      rw [hdigits] at h
      dsimp only at h
      split at h
      · cases h
      · split at h
        next ht =>
          cases h
          simp [ht]
        next ht =>
          rw [Bool.not_eq_true] at ht
          simpa [ht] using ih h

/-- A script is scanned exactly if the intervals of its timers can be read. -/
theorem isOk_scan (config : Config) (firesOn : String) (script : List Char) :
    (scan config firesOn script).isOk = true ↔ TimersReadable config script := by
  have hscan : (scan config firesOn script).isOk =
      ((timerFindings config script "setInterval").isOk &&
        (timerFindings config script "setTimeout").isOk) := by
    rw [scan]
    cases timerFindings config script "setInterval" with
    | error _ => rfl
    | ok _ => cases timerFindings config script "setTimeout" <;> rfl
  simp only [hscan, timerFindings, isOk_map, Bool.and_eq_true, isOk_tightTimer?, TimersReadable,
    List.forall_mem_cons, List.not_mem_nil, false_implies, implies_true, and_true, timerIntervals]

/-- Does the script break the rule for a kind of findings? -/
def breaks (config : Config) (firesOn : String) (script : List Char) : FindingKind → Bool
  | .evalNetwork => makesCode script && networkCall.occursIn script
  | .dynamicCode => makesCode script && !networkCall.occursIn script
  | .htmlInjection => !sanitizerCall.occursIn script && injectsMarkup script
  | .personalData => (outboundUrls script).any showsPersonalData
  | .tightTimer => ["setInterval", "setTimeout"].any fun timer =>
      (timerIntervals script timer).any (isTight config.minTimerInterval)
  | .wildcardMessage => (callArguments (namedMember "postMessage") script).any fun arguments =>
      (arguments[1]?).any isQuotedStar
  | .pageviewDom => firesOn == "PAGEVIEW" && domAccess.occursIn script
  | .unguardedBlock => hasLongUnguardedBlock config.maxStatementsWithoutTry script
  | .documentWrite => Script.documentWrite.occursIn script
  | .insecureRequest => insecureUrl.occursIn script

theorem mem_kinds_when {applies : Bool} {kind : FindingKind} {message : String}
    {other : FindingKind} : other ∈ (when applies kind message).map (·.kind) ↔
      applies = true ∧ other = kind := by
  cases applies <;> simp [when]

theorem mem_kinds_personalDataFindings {script : List Char} {kind : FindingKind} :
    kind ∈ (personalDataFindings script).map (·.kind) ↔
      (outboundUrls script).any showsPersonalData = true ∧ kind = .personalData := by
  rw [personalDataFindings, ← List.isSome_find?]
  cases (outboundUrls script).find? showsPersonalData <;> simp

theorem mem_kinds_insecureFindings {script : List Char} {kind : FindingKind} :
    kind ∈ (insecureFindings script).map (·.kind) ↔
      insecureUrl.occursIn script = true ∧ kind = .insecureRequest := by
  rw [insecureFindings, Pattern.occursIn]
  cases insecureUrl.find? script <;> simp

theorem mem_kinds_timerFindings {config : Config} {script : List Char} {timer : String}
    {findings : List Finding} (h : timerFindings config script timer = .ok findings)
    {kind : FindingKind} : kind ∈ findings.map (·.kind) ↔
      (timerIntervals script timer).any (isTight config.minTimerInterval) = true ∧
        kind = .tightTimer := by
  obtain ⟨found, hfound, rfl⟩ := map_eq_ok_iff.mp h
  have hkinds : (found.map (·.kind)).toList = found.toList.map (·.kind) := by
    cases found <;> rfl
  rw [← hkinds, kinds_tightTimer? hfound, timerIntervals]
  split
  next ht => simp [ht]
  next ht => simp [ht]

/-- The kinds of the findings in a script are those whose rules it breaks. -/
theorem mem_kinds_scan {config : Config} {firesOn : String} {script : List Char}
    {findings : List Finding} (h : scan config firesOn script = .ok findings)
    (kind : FindingKind) :
    kind ∈ findings.map (·.kind) ↔ breaks config firesOn script kind = true := by
  rw [scan] at h
  obtain ⟨intervals, hintervals, h⟩ := bind_eq_ok_iff.mp h
  obtain ⟨timeouts, htimeouts, h⟩ := bind_eq_ok_iff.mp h
  cases h
  simp only [List.map_append, List.mem_append, mem_kinds_when, mem_kinds_personalDataFindings,
    mem_kinds_timerFindings hintervals, mem_kinds_timerFindings htimeouts,
    mem_kinds_insecureFindings]
  cases kind <;> simp +contextual [breaks]

/-- A scan of the script gives a result without findings of a kind. -/
def Clears (config : Config) (firesOn : String) (script : List Char) (kind : FindingKind) : Prop :=
  ∃ findings, scan config firesOn script = .ok findings ∧ ∀ finding ∈ findings, finding.kind ≠ kind

/-- A scan of the script gives a result with a finding of a kind. -/
def Reports (config : Config) (firesOn : String) (script : List Char) (kind : FindingKind) : Prop :=
  ∃ findings, scan config firesOn script = .ok findings ∧ ∃ finding ∈ findings, finding.kind = kind

section Verdicts

variable (config : Config) (firesOn : String) (script : List Char) (kind : FindingKind)

theorem clears_iff : Clears config firesOn script kind ↔
    TimersReadable config script ∧ breaks config firesOn script kind = false := by
  rw [← isOk_scan config firesOn]
  constructor
  · rintro ⟨findings, hscan, hnone⟩
    refine ⟨by rw [hscan]; rfl, Bool.eq_false_iff.mpr fun hbreaks => ?_⟩
    obtain ⟨finding, hfinding, hkind⟩ := List.mem_map.mp ((mem_kinds_scan hscan kind).mpr hbreaks)
    exact hnone finding hfinding hkind
  · rintro ⟨hok, hkept⟩
    obtain ⟨findings, hscan⟩ := exists_of_isOk hok
    refine ⟨findings, hscan, fun finding hfinding hkind => ?_⟩
    have hbreaks := (mem_kinds_scan hscan _).mp (List.mem_map_of_mem hfinding)
    rw [hkind, hkept] at hbreaks
    cases hbreaks

theorem reports_iff : Reports config firesOn script kind ↔
    TimersReadable config script ∧ breaks config firesOn script kind = true := by
  rw [← isOk_scan config firesOn]
  constructor
  · rintro ⟨findings, hscan, finding, hfinding, rfl⟩
    refine ⟨by rw [hscan]; rfl, (mem_kinds_scan hscan _).mp (List.mem_map_of_mem hfinding)⟩
  · rintro ⟨hok, hbreaks⟩
    obtain ⟨findings, hscan⟩ := exists_of_isOk hok
    obtain ⟨finding, hfinding, rfl⟩ := List.mem_map.mp ((mem_kinds_scan hscan kind).mpr hbreaks)
    exact ⟨findings, hscan, finding, hfinding, rfl⟩

instance : Decidable (Clears config firesOn script kind) :=
  decidable_of_iff ((scan config firesOn script).isOk = true ∧
    breaks config firesOn script kind = false) (by rw [isOk_scan, clears_iff])

instance : Decidable (Reports config firesOn script kind) :=
  decidable_of_iff ((scan config firesOn script).isOk = true ∧
    breaks config firesOn script kind = true) (by rw [isOk_scan, reports_iff])

end Verdicts

end TagAudit.Script
