import TagAudit.AnalysisError
import TagAudit.Config.Basic
import TagAudit.Json.Reader
import TagAudit.Script.Block
import TagAudit.Script.Url

/-!
# Findings in scripts

The rules that a script is checked against, in their order. Each rule reports at most one finding,
the rule for timers one for each of the two kinds of timers.
-/

namespace TagAudit.Script

/-- What a finding is about. -/
inductive FindingKind
  | evalNetwork
  | dynamicCode
  | htmlInjection
  | personalData
  | tightTimer
  | wildcardMessage
  | pageviewDom
  | unguardedBlock
  | documentWrite
  | insecureRequest
  deriving DecidableEq, Repr, Inhabited

namespace FindingKind

/-- The name of a kind. -/
def name : FindingKind → String
  | evalNetwork => "eval_network"
  | dynamicCode => "dynamic_code"
  | htmlInjection => "innerhtml_injection"
  | personalData => "pii_leak"
  | tightTimer => "tight_timer"
  | wildcardMessage => "postmessage_wildcard"
  | pageviewDom => "pageview_dom"
  | unguardedBlock => "no_try_catch"
  | documentWrite => "document_write"
  | insecureRequest => "insecure_request"

/-- How serious findings of a kind are. -/
def severity : FindingKind → Severity
  | evalNetwork | htmlInjection | personalData => .critical
  | dynamicCode | tightTimer | documentWrite | insecureRequest => .major
  | wildcardMessage | pageviewDom | unguardedBlock => .minor

/-- What to do about findings of a kind. -/
def suggestion : FindingKind → String
  | evalNetwork => "Remove eval()/new Function() and keep network calls on static code paths"
  | dynamicCode => "Remove eval() and new Function(); use safe DOM APIs"
  | htmlInjection => "Sanitize dynamic markup or use textContent/createElement"
  | personalData => "Do not send email addresses or phone numbers in request URLs"
  | tightTimer => "Raise the timer interval or use event-driven callbacks"
  | wildcardMessage => "Pass the expected origin to postMessage instead of \"*\""
  | pageviewDom => "Fire DOM-dependent scripts on DOM Ready or Window Loaded"
  | unguardedBlock => "Wrap long blocks in try/catch so errors cannot break the page"
  | documentWrite => "Replace document.write() with createElement/appendChild"
  | insecureRequest => "Load every resource over HTTPS"

end FindingKind

/-- A finding in a script. -/
structure Finding where
  kind : FindingKind
  message : String
  /-- The address that the finding is about. -/
  url : Option String := none
  deriving DecidableEq, Repr

namespace Finding

/-- How serious the finding is. -/
def severity (finding : Finding) : Severity := finding.kind.severity

/-- A finding as a value. -/
def toJson (finding : Finding) : Json :=
  .object <|
    [("type", .string finding.kind.name), ("severity", .string finding.severity.name),
      ("message", .string finding.message)] ++
    (finding.url.map fun url => ("url", Json.string url)).toList

end Finding

/-- Blanks and an opening parenthesis. -/
def opensCall : Pattern := .all [.blanks, .word "("]

/-- A call of the global evaluation function, bare or through the global object. -/
def globalEval : Pattern :=
  .all [.notAfter fun c => isNameChar c || c == '.',
    .optional (.all [
      .any [.word "window", .word "self", .word "globalThis", .word "top", .word "parent"],
      .blanks, .word ".", .blanks]),
    .word "eval", opensCall]

/-- The construction of a function from text. -/
def newFunction : Pattern :=
  .all [.wordEdge, .word "new", .run Text.isBlank 1, .word "Function", opensCall]

/-- A call that reaches the network. -/
def networkCall : Pattern :=
  .any [.all [.wordEdge, .word "fetch", opensCall],
    .all [.wordEdge, .word "XMLHttpRequest", .wordEdge],
    .all [.word ".send", opensCall],
    .all [.wordEdge, .word "sendBeacon", opensCall]]

/-- A call that writes into the document while it loads. -/
def documentWrite : Pattern := .all [.word "document.write", .optional (.word "ln"), opensCall]

/-- A call that makes markup harmless. -/
def sanitizerCall : Pattern :=
  .all [.wordEdge,
    .any [.word "DOMPurify.sanitize", .all [.word "sanitize", .run Text.isWord 0],
      .all [.word "escape", .alt (.word "Html") (.word "HTML"), .run Text.isWord 0]],
    opensCall]

/-- An assignment to the markup of an element. -/
def markupAssignment : Pattern :=
  .all [.word ".", .alt (.word "inner") (.word "outer"), .word "HTML", .blanks,
    .optional (.word "+"), .word "=", .notAhead (.word "="), .blanks, .capture restOfStatement]

/-- An access to elements of the page. -/
def domAccess : Pattern :=
  .alt
    (.all [.wordEdge,
      .any [.all [.word "querySelector", .optional (.word "All")], .word "getElementById",
        .all [.word "getElementsBy", .run Text.isWord 1], .word "appendChild",
        .word "insertBefore", .word "insertAdjacentHTML", .word "createElement"],
      opensCall])
    (.all [.wordEdge, .word "document.",
      .any [.word "body", .word "head", .word "forms"], .wordEdge])

/-- An address without encryption. -/
def insecureUrl : Pattern :=
  .capture (.all [.anyCase "http://", .run (fun c =>
    !(Text.isBlank c || c == '"' || c == '\'' || c == '<' || c == '>' || c == ')')) 1])

/-- Does the script make code from text? -/
def makesCode (script : List Char) : Bool :=
  globalEval.occursIn script || newFunction.occursIn script

/-- Does the script put markup into the page that is not one literal? -/
def injectsMarkup (script : List Char) : Bool :=
  (markupAssignment.findAll script).any (fun finding =>
      !isStringLiteral finding.stop.captured) ||
    (callArguments (namedMember "insertAdjacentHTML") script).any fun arguments =>
      (arguments[1]?).any (!isStringLiteral ·)

/-- The text where it is not empty. -/
def nonempty? (text : List Char) : Option String :=
  if text.isEmpty then none else some (.ofList text)

/-- The first timer with an interval below the limit, given the second arguments of its calls. -/
def tightTimer? (limit : Nat) (timer : String) :
    (intervals : List (List Char)) → Except AnalysisError (Option Finding)
  | [] => .ok none
  | interval :: rest =>
    match integerLiteral? interval with
    | none => tightTimer? limit timer rest
    | some digits =>
      if Json.maxIntegerDigits < digits.length then .error .unreadableNumber
      else if (Text.numeral? 0 digits).any (· < limit) then
        .ok (some ⟨.tightTimer,
          s!"{timer} with a {String.ofList digits}ms interval (below {limit}ms)", none⟩)
      else tightTimer? limit timer rest

/-- A finding where a rule applies. -/
def when (applies : Bool) (kind : FindingKind) (message : String) : List Finding :=
  if applies then [⟨kind, message, none⟩] else []

/-- The first address with personal data. -/
def personalDataFindings (script : List Char) : List Finding :=
  match (outboundUrls script).find? showsPersonalData with
  | none => []
  | some url =>
    [⟨.personalData, "Outbound request URL may carry an email address or phone number",
      nonempty? (Text.strip url)⟩]

/-- The first insecure address. -/
def insecureFindings (script : List Char) : List Finding :=
  match insecureUrl.find? script with
  | none => []
  | some finding =>
    let ending (c : Char) : Bool := c == '.' || c == ',' || c == ';' || c == '!' || c == '?'
    [⟨.insecureRequest, "Loads a resource over plain HTTP",
      nonempty? (Text.trimEnd ending finding.stop.captured)⟩]

/-- The tight timers of one kind. -/
def timerFindings (config : Config) (script : List Char) (timer : String) :
    Except AnalysisError (List Finding) :=
  let intervals := (callArguments (named timer) script).filterMap (·[1]?)
  (tightTimer? config.minTimerInterval timer intervals).map Option.toList

/-- The findings in a script that fires with a family of triggers, in the order of the rules. -/
def scan (config : Config) (firesOn : String) (script : List Char) :
    Except AnalysisError (List Finding) := do
  let dynamic := makesCode script
  let network := dynamic && networkCall.occursIn script
  let early :=
    when network .evalNetwork "eval()/new Function() combined with a network call" ++
    when (!sanitizerCall.occursIn script && injectsMarkup script) .htmlInjection
      "Dynamic markup injected into the DOM without sanitizing (XSS)" ++
    personalDataFindings script
  let intervals ← timerFindings config script "setInterval"
  let timeouts ← timerFindings config script "setTimeout"
  let wildcard := (callArguments (namedMember "postMessage") script).any fun arguments =>
    (arguments[1]?).any isQuotedStar
  let limit := config.maxStatementsWithoutTry
  return early ++ intervals ++ timeouts ++
    when wildcard .wildcardMessage "postMessage with targetOrigin \"*\"" ++
    when (firesOn == "PAGEVIEW" && domAccess.occursIn script) .pageviewDom
      "Touches the DOM while firing on Page View, before the DOM is ready" ++
    when (hasLongUnguardedBlock limit script) .unguardedBlock
      s!"Block of more than {limit} statements without try/catch" ++
    when (dynamic && !network) .dynamicCode
      "Uses eval() or new Function(), a code injection risk" ++
    when (documentWrite.occursIn script) .documentWrite
      "Uses document.write(), which blocks rendering" ++
    insecureFindings script

/-- What to do about some findings, each advice once. -/
def suggestions (findings : List Finding) : String :=
  "; ".intercalate ((findings.map (·.kind.suggestion)).eraseDups)

/-- The worst severity among some findings. -/
def worst (findings : List Finding) : Option Severity := Severity.worst (findings.map (·.severity))

end TagAudit.Script
